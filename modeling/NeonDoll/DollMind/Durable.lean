import NeonDoll.Daemon.MemoriesKept
import NeonDoll.DollMind.Wake

/-!
# What cognition leaves in the store

A wake of an intention saves the Doll at its end, after it has changed the intention in memory.  A
spontaneous wake saves only a new intention, before the experience of the plan is added.  So the
experience of a spontaneous wake is not stored, and an intention that was completed in memory
stays completed there if the save fails.
-/

namespace NeonDoll.DollMind

open Lib Json DollState Persistence List Option Intentions Daemon

/-- The intentions that a load would read. -/
def storedIntentions (store : DollStore) (dollID : Text) : List IntentionItem :=
  match store.dolls.lookup dollID with
  | none => []
  | some row =>
    match readColumn Intentions.record "[]".toList newDollState.intentions row.intentionsJSON with
    | none => []
    | some found => found.items.getD []

def Mind.dollID (m : Mind) : Text := m.state.identity.dollID

/-- What the run has changed in memory is in the store. -/
structure Durable (before after : Mind) : Prop where
  experience : Daemon.items after.state = Daemon.items before.state ∨
    after.store.rows after.dollID = Daemon.items after.state
  intentions : intentions after.state = intentions before.state ∨
    storedIntentions after.store after.dollID = intentions after.state

def Pending (id : Text) (items : List IntentionItem) : Prop :=
  ∃ item, findIntention id items = some item ∧ item.state = Daemon.statePending

/-- A scan that works and does not find the intention waiting for a permission returns it, once
its wake time has come. -/
def FoundAgain (parseTime : Text → Option Int) (id : Text) (items : List IntentionItem) : Prop :=
  ∀ waiting now due item wake, dueIntentions parseTime waiting now items = some due →
    findIntention id items = some item → waiting id = some false →
    parseTime item.wakeTime = some wake → wake ≤ now → item ∈ due

/-- The intention is pending in memory and in the store, and a later scan finds it. -/
def StillPending (parseTime : Text → Option Int) (m : Mind) (id : Text) : Prop :=
  Pending id (intentions m.state) ∧ Pending id (storedIntentions m.store m.dollID) ∧
    FoundAgain parseTime id (intentions m.state)

/-- No plan that is carried out retains experience. -/
def retainsNothing (calls : EnterCalls) : Prop :=
  ∀ plan, calls.orient = some true → calls.plan = some plan → plan.retainExperience = []

/-- The ids that are made for the experience are not in the store yet. -/
def FreshIDs (m : Mind) (calls : EnterCalls) : Prop :=
  ∀ i, ∀ e ∈ m.store.rows m.dollID, e.id ≠ calls.steps.experienceID i

/-- Cognition succeeds, the intention neither awaits a permission nor is wanted again, and the
save of its completion fails. -/
@[grind] def losesCompletion (parseTime : Text → Option Int) (m : Mind) (id : Text)
    (calls : WakeCalls) :
    Prop :=
  calls.run = true ∧
    ∃ next result, enter parseTime .internalWake m calls.enter = (next, .ok result) ∧
    calls.waiting = some false ∧ requestsFuture result = none ∧
    ((next.edit (.complete id)).save calls.save).2 = false

/-! ## Saves -/

section Save

variable {m next : Mind} {calls : SaveCalls}

theorem save_failed (failed : m.save calls = (next, false)) : next = m := by
  rw [Mind.save] at failed
  rcases saveDoll_cases m.store m.state calls with ⟨e, eq⟩ | ⟨_, eq, _⟩
  · rw [eq] at failed
    cases failed
    rfl
  · rw [eq] at failed
    cases failed

theorem marshal_ne_blank : Intentions.record.marshal x ≠ "[]".toList := by
  intro blank
  have read := record.unmarshal_marshal (by decide) x
  rw [blank] at read
  have refused : record.unmarshal "[]".toList = none := by decide +kernel
  rw [refused] at read
  cases read

theorem save_done (saved : m.save calls = (next, true)) : next.state = m.state ∧
      next.store.rows m.dollID = m.state.memories.items.getD (m.store.rows m.dollID) ∧
      (m.state.intentions.items ≠ none →
        storedIntentions next.store m.dollID = intentions m.state) := by
  rw [Mind.save] at saved
  rcases saveDoll_cases m.store m.state calls with ⟨e, eq⟩ | ⟨store, eq, dolls, rows⟩
  · rw [eq] at saved
    cases saved
  rw [eq] at saved
  cases saved
  refine ⟨rfl, ?_, fun given => ?_⟩
  · rw [rows]
    exact if_pos rfl
  change storedIntentions store m.state.identity.dollID = _
  rw [storedIntentions, dolls, AList.lookup_insert, savedRow]
  cases list : m.state.intentions.items with
  | none => exact absurd list given
  | some all =>
    dsimp only
    rw [readColumn, if_neg (marshal_ne_blank), record.unmarshal_marshal (by decide)]
    change (nonempty m.state.intentions.items).getD [] = _
    rw [intentions, list, nonempty]
    split
    · rename_i empty
      rw [empty]
      rfl
    · rfl

end Save

/-! ## Edits -/

theorem retained_eq_nil : retained plan calls = [] ↔ plan.retainExperience = [] := by
  rw [retained, mapIdx_eq_nil_iff]

theorem exists_observation (some_ : plan.retainExperience ≠ []) (calls : PlanCalls)
    (now : Text) (next : Nat) :
    ∃ e ∈ Daemon.observations now next (retained plan calls), e.id = calls.experienceID 0 := by
  cases kept : plan.retainExperience with
  | nil => exact absurd kept some_
  | cons text rest =>
    rw [retained, kept, mapIdx_cons]
    exact ⟨_, mem_cons_self, rfl⟩

theorem materialiseExperience_eq (m : Mind) (plan : Plan) (calls : PlanCalls) :
    (materialiseExperience m plan calls).1.store = m.store ∧
      (materialiseExperience m plan calls).1.dollID = m.dollID ∧
      (materialiseExperience m plan calls).1.state.intentions = m.state.intentions ∧
      Daemon.items (materialiseExperience m plan calls).1.state = Daemon.items m.state ++
        Daemon.observations calls.experienceTime (Daemon.items m.state).length
          (retained plan calls) ∧
      ((materialiseExperience m plan calls).1.state.memories = m.state.memories ∨
        (materialiseExperience m plan calls).1.state.memories.items ≠ none) := by
  rw [materialiseExperience]
  split
  · grind [retained_eq_nil, observations]
  rename_i some_
  have kept : retained plan calls ≠ [] := mt retained_eq_nil.mp some_
  rw [Mind.edit, Daemon.MindEdit.apply, if_neg kept]
  exact ⟨rfl, rfl, rfl, rfl, .inr (some_ne_none _)⟩

theorem findIntention_change {id : Text} {change : IntentionItem → IntentionItem}
    (named : ∀ item, (change item).id = item.id) (items : List IntentionItem) :
    findIntention id (Daemon.changeIntention id change items) =
      (findIntention id items).map change := by
  induction items with
  | nil => rfl
  | cons item rest ih => grind [changeIntention, findIntention]

theorem findIntention_changed {id : Text}
    (change : IntentionItem → IntentionItem) (named : ∀ item, (change item).id = item.id) :
    findIntention id
        ((state.intentions.items.map (Daemon.changeIntention id change)).getD []) =
      (findIntention id (intentions state)).map change := by
  rw [intentions]
  cases state.intentions.items with
  | none => rfl
  | some all => exact findIntention_change named all

theorem findIntention_complete (m : Mind) (id : Text) :
    findIntention id (intentions (m.edit (.complete id)).state) =
      (findIntention id (intentions m.state)).map fun item =>
        { item with state := Daemon.stateCompleted } :=
  findIntention_changed _ fun _ => rfl

theorem findIntention_reschedule (m : Mind) (id : Text) :
    findIntention id (intentions (m.edit (.reschedule id future)).state) =
      (findIntention id (intentions m.state)).map fun item =>
        { item with
          subject := future.subject
          description := future.reason
          wakeTime := future.wakeTime
          state := Daemon.statePending } :=
  findIntention_changed _ fun _ => rfl

/-! ## Spontaneous wakes -/

variable {m after : Mind} {id : Text}

theorem materialiseIntention_ok
    (done : materialiseIntention parseTime m plan calls = (new, .ok dirty)) :
    new = m ∨ (m.edit (.intend calls.intentionID plan.future)).save calls.save = (new, true) := by
  grind [materialiseIntention]

theorem enterPulseWake_ok
    (done : enterPulseWake parseTime m run calls = (after, none)) :
    (calls.orient ≠ some true ∧ after = m) ∨
      ∃ plan next dirty, calls.orient = some true ∧ calls.plan = some plan ∧
        materialiseIntention parseTime m plan calls.steps = (next, .ok dirty) ∧
        after = (materialiseExperience next plan calls.steps).1 := by
  rw [enterPulseWake] at done
  split at done
  · cases done
  split at done
  · cases done
  rename_i _ _ entered
  cases done
  rw [enter, l0Reflex] at entered
  dsimp only at entered
  split at entered
  · cases entered
  split at entered
  · cases entered
  · grind
  rename_i matters
  split at entered
  · cases entered
  rename_i plan planned
  split at entered
  · cases entered
  rename_i _ _ applied
  split at entered
  · cases entered
  cases entered
  rw [applyPlan, if_neg nofun] at applied
  split at applied
  · cases applied
  rename_i intended dirty' made
  cases applied
  exact .inr ⟨plan, intended, dirty', matters, planned, made, rfl⟩

theorem intentions_intend (m : Mind) (id : Text) (future : Daemon.Future) :
    (m.edit (.intend id future)).state.intentions.items ≠ none := some_ne_none _

theorem pulse_durable_iff
    (done : enterPulseWake parseTime m run calls = (after, none)) (fresh : FreshIDs m calls) :
    Durable m after ↔ retainsNothing calls := by
  rcases enterPulseWake_ok done with ⟨idle, rfl⟩ |
    ⟨plan, next, _, matters, planned, made, rfl⟩
  · exact ⟨fun _ plan matters => absurd matters idle, fun _ => ⟨.inl rfl, .inl rfl⟩⟩
  obtain ⟨store, dollID, _, items, -⟩ := materialiseExperience_eq next plan calls.steps
  -- Until the experience is added, memory has changed by a stored intention at most.
  have base : next.dollID = m.dollID ∧ Daemon.items next.state = Daemon.items m.state ∧
      (next.store.rows m.dollID = m.store.rows m.dollID ∨
        next.store.rows m.dollID = Daemon.items m.state) ∧
      (intentions next.state = intentions m.state ∨
        storedIntentions next.store next.dollID = intentions next.state) := by
    rcases materialiseIntention_ok made with rfl | saved
    · exact ⟨rfl, rfl, .inl rfl, .inl rfl⟩
    obtain ⟨state, rows, stored⟩ := save_done saved
    have own : next.dollID = m.dollID := by rw [Mind.dollID, state]; rfl
    refine ⟨own, by rw [state]; rfl, ?_, .inr ?_⟩
    · change next.store.rows m.dollID = m.state.memories.items.getD (m.store.rows m.dollID) at rows
      rw [rows, Daemon.items]
      cases m.state.memories.items with
      | none => exact .inl rfl
      | some all => exact .inr rfl
    · rw [own, state]
      exact stored (intentions_intend _ _ _)
  obtain ⟨own, unchanged, rows, stored⟩ := base
  constructor
  · intro durable plan' _ planned'
    rw [planned] at planned'
    cases planned'
    by_contra some_
    obtain ⟨e, _, _⟩ := exists_observation some_ calls.steps calls.steps.experienceTime
      (Daemon.items next.state).length
    have longer : Daemon.items (materialiseExperience next plan calls.steps).1.state ≠
        Daemon.items m.state := by grind
    have all := durable.experience.resolve_left longer
    rw [store, dollID, own] at all
    rcases rows with before | before
    · -- The observation would be stored although its id is new.
      grind [FreshIDs]
    · rw [before] at all
      exact longer all.symm
  · intro nothing
    have none_ := nothing plan matters planned
    have quiet : materialiseExperience next plan calls.steps = (next, false) := by
      rw [materialiseExperience, if_pos none_]
    rw [quiet]
    exact ⟨.inl unchanged, stored⟩

/-! ## Wakes of an intention -/

/-- What stays the same until the intention is settled. -/
@[grind] structure SameIntentions (m next : Mind) : Prop where
  store : next.store = m.store
  dollID : next.dollID = m.dollID
  intentions : next.state.intentions = m.state.intentions
  memories : next.state.memories = m.state.memories ∨ next.state.memories.items ≠ none

theorem sameIntentions_enter
    (entered : enter parseTime .internalWake m calls = (new, result)) : SameIntentions m new := by
  grind [enter, applyPlan, materialiseExperience_eq]

section

variable (done : settleIntention parseTime new id result waiting now = some (settled, final))

include done

theorem settleIntention_cases :
    (waiting = true ∧ settled = new) ∨
      (waiting = false ∧ ∃ plan, requestsFuture result = some plan ∧
        settled = new.edit (.reschedule id plan.future)) ∨
      (waiting = false ∧ requestsFuture result = none ∧ settled = new.edit (.complete id)) := by
  grind [settleIntention, rescheduleIntention]

theorem settled_frame :
    settled.store = new.store ∧ settled.dollID = new.dollID ∧
      settled.state.memories = new.state.memories ∧
      (new.state.intentions.items ≠ none → settled.state.intentions.items ≠ none) := by
  have mapped : ∀ change : List IntentionItem → List IntentionItem,
      new.state.intentions.items ≠ none → new.state.intentions.items.map change ≠ none := by
    intro change given eq
    exact given (map_eq_none_iff.mp eq)
  rcases settleIntention_cases done with ⟨-, rfl⟩ | ⟨-, _, -, rfl⟩ | ⟨-, -, rfl⟩
  · exact ⟨rfl, rfl, rfl, fun given => given⟩
  all_goals exact ⟨rfl, rfl, rfl, mapped _⟩

end

/-- A wake that gets as far as its save. -/
structure Settled (parseTime : Text → Option Int) (m : Mind) (id : Text) (calls : WakeCalls)
    (next settled : Mind) (result final : Result) (waiting : Bool) : Prop where
  found : findIntention id (intentions m.state) ≠ none
  run : calls.run = true
  entered : enter parseTime .internalWake m calls.enter = (next, .ok result)
  awaits : calls.waiting = some waiting
  settles : settleIntention parseTime next id result waiting calls.now = some (settled, final)

theorem enterWake_ok
    (done : enterWake parseTime m id calls = (after, .ok result)) :
    ∃ next settled before waiting, Settled parseTime m id calls next settled before result waiting ∧
      settled.save calls.save = (after, true) := by
  rw [enterWake] at done
  cases found : findIntention id (intentions m.state) <;> rw [found] at done
  case none =>
    cases done
  case some item =>
    dsimp only at done
    split at done
    · cases done
    split at done
    · cases done
    rename_i run
    split at done
    · cases done
    rename_i next before entered
    split at done
    · cases done
    rename_i waiting awaits
    split at done
    · cases done
    rename_i settled _ settles
    split at done
    · cases done
    rename_i saved
    cases done
    refine ⟨next, settled, before, waiting, ⟨?_, ?_, entered, awaits, settles⟩, saved⟩
    · rw [found]
      exact some_ne_none item
    · exact Bool.not_eq_false _ ▸ run

theorem enterWake_error (failed : enterWake parseTime m id calls = (after, .error e))
    (pending : Pending id (intentions m.state)) :
    (SameIntentions m after ∧ ¬losesCompletion parseTime m id calls) ∨
      ∃ next settled before final waiting,
        Settled parseTime m id calls next settled before final waiting ∧
        settled.save calls.save = (after, false) := by
  obtain ⟨item, found, state⟩ := pending
  rw [enterWake, found] at failed
  dsimp only at failed
  split at failed
  · rename_i other
    exact absurd state other
  split at failed
  · grind
  rename_i run
  split at failed
  · grind [sameIntentions_enter]
  rename_i next before entered
  have same := sameIntentions_enter entered
  split at failed
  · grind
  rename_i waiting awaits
  split at failed
  · grind [settleIntention]
  rename_i settled final settles
  split at failed
  · rename_i unsaved
    cases failed
    refine .inr ⟨next, settled, before, final, waiting, ⟨?_, ?_, entered, awaits, settles⟩, unsaved⟩
    · rw [found]
      exact some_ne_none item
    · exact Bool.not_eq_false _ ▸ run
  · cases failed

theorem wake_durable
    (done : enterWake parseTime m id calls = (after, .ok result)) : Durable m after := by
  obtain ⟨_, settled, _, _, ways, saved⟩ := enterWake_ok done
  have same := sameIntentions_enter ways.entered
  obtain ⟨-, dollID, memories, _⟩ := settled_frame ways.settles
  obtain ⟨state, rows, _⟩ := save_done saved
  have own : after.dollID = settled.dollID := by rw [Mind.dollID, state]; rfl
  have given : m.state.intentions.items ≠ none := by
    intro none_
    refine ways.found ?_
    rw [intentions, none_]
    rfl
  constructor
  · rw [own, state]
    rcases same.memories with equal | some_
    · cases list : settled.state.memories.items with
      | none =>
        left
        rw [Daemon.items, Daemon.items, ← equal, ← memories]
      | some all => grind [Daemon.items]
    · right
      rw [← memories] at some_
      obtain ⟨_, list⟩ := ne_none_iff_exists'.mp some_
      rw [rows, Daemon.items, list]
      rfl
  · grind [same.intentions]

/-! ## Failed wakes -/

theorem dueIntentions_complete {waiting : Text → Option Bool} {items due : List IntentionItem}
    (scanned : dueIntentions parseTime waiting now items = some due) (member : item ∈ items)
    (pending : item.state = Daemon.statePending) (idle : waiting item.id = some false)
    (time : parseTime item.wakeTime = some wake) (come : wake ≤ now) : item ∈ due := by
  induction items generalizing due with
  | nil => cases member
  | cons head rest ih => grind [map_eq_some_iff, dueIntentions]

theorem pending_settled_iff
    (done : settleIntention parseTime new id result waiting now = some (settled, final))
    (pending : Pending id (intentions new.state)) :
    Pending id (intentions settled.state) ↔ ¬(waiting = false ∧ requestsFuture result = none) := by
  obtain ⟨_, found, _⟩ := pending
  rcases settleIntention_cases done with ⟨_, rfl⟩ | ⟨-, _, _, rfl⟩ |
    ⟨idle, unwanted, rfl⟩
  · grind [Pending]
  · grind [findIntention_reschedule, Pending]
  refine ⟨fun still => ?_, fun other => absurd ⟨idle, unwanted⟩ other⟩
  rw [Pending, findIntention_complete, found] at still
  obtain ⟨_, eq, wrong⟩ := still
  cases eq
  exact absurd wrong (show stateCompleted ≠ statePending by decide)

theorem wake_pending_iff (failed : enterWake parseTime m id calls = (after, .error e))
    (pending : Pending id (intentions m.state))
    (stored : Pending id (storedIntentions m.store m.dollID)) :
    StillPending parseTime after id ↔ ¬losesCompletion parseTime m id calls := by
  have still : Pending id (intentions after.state) → after.store = m.store →
      after.dollID = m.dollID → StillPending parseTime after id := by
    grind [StillPending, Pending, FoundAgain, dueIntentions_complete, findIntention]
  rcases enterWake_error failed pending with ⟨same, _⟩ |
    ⟨next, _, before, _, waiting, ways, unsaved⟩
  · grind [intentions]
  have same := sameIntentions_enter ways.entered
  have pendingNext : Pending id (intentions next.state) := by
    rw [intentions, same.intentions]
    exact pending
  obtain ⟨store, dollID, -, -⟩ := settled_frame ways.settles
  have unchanged := save_failed unsaved
  have settledIff := pending_settled_iff ways.settles pendingNext
  have lost : losesCompletion parseTime m id calls ↔
      waiting = false ∧ requestsFuture before = none := by
    grind [Settled, settleIntention]
  rw [unchanged] at still ⊢
  rw [lost, ← settledIff]
  exact ⟨fun all => all.1, fun inMemory =>
    still inMemory (store.trans same.store) (dollID.trans same.dollID)⟩

/-- A spontaneous wake without an error has stored what it has changed exactly if its plan retained
nothing; a wake of an intention without an error always has; and after an error the intention is
still pending exactly if it was not completed before a save that failed. -/
theorem cognition_durable_iff (parseTime : Text → Option Int) :
    (∀ m run calls after, enterPulseWake parseTime m run calls = (after, none) →
      FreshIDs m calls → (Durable m after ↔ retainsNothing calls)) ∧
    (∀ m id calls after result, enterWake parseTime m id calls = (after, .ok result) →
      Durable m after) ∧ ∀ m id calls after e, enterWake parseTime m id calls = (after, .error e) →
      Pending id (intentions m.state) → Pending id (storedIntentions m.store m.dollID) →
      (StillPending parseTime after id ↔ ¬losesCompletion parseTime m id calls) :=
  ⟨fun _ _ _ _ done fresh => pulse_durable_iff done fresh, fun _ _ _ _ _ done => wake_durable done,
    fun _ _ _ _ _ failed pending stored => wake_pending_iff failed pending stored⟩

/-! ## Two losses -/

/-- A Doll with one due intention, in memory and in the store. -/
def sampleMind : Mind :=
  let state := { Daemon.createdDoll ['d'] with
    intentions := ⟨some [⟨['i'], ['s'], [], ['w'], Daemon.statePending⟩]⟩ }
  ⟨state, (saveDoll Daemon.emptyDatabase.store state Daemon.saveWorks).1⟩

def samplePlan (experience : List Text) : Plan := ⟨experience, false, ⟨[], [], []⟩, false⟩

def sampleEnter (experience : List Text) : EnterCalls :=
  ⟨true, some true, some (samplePlan experience),
    ⟨0, ['j'], Daemon.saveWorks, fun _ => ['o'], []⟩, false, false⟩

def sampleWake (save : SaveCalls) : WakeCalls := ⟨true, sampleEnter [['x']], some false, 0, save⟩

def sampleTime : Text → Option Int := fun _ => some 0

theorem sampleMind_pending : Pending ['i'] (intentions sampleMind.state) ∧
    Pending ['i'] (storedIntentions sampleMind.store sampleMind.dollID) := by
  have stored : findIntention ['i'] (storedIntentions sampleMind.store sampleMind.dollID) =
      some ⟨['i'], ['s'], [], ['w'], statePending⟩ := by
    decide +kernel
  exact ⟨⟨_, rfl, rfl⟩, ⟨_, stored, rfl⟩⟩

/-- A spontaneous wake returns without an error and the experience it has retained is in memory
only; a wake whose last save fails leaves its intention completed in memory. -/
theorem experience_and_intention_lost :
    (∃ after, enterPulseWake sampleTime sampleMind true (sampleEnter [['x']]) = (after, none) ∧
      ¬Durable sampleMind after) ∧ Pending ['i'] (intentions sampleMind.state) ∧
    Pending ['i'] (storedIntentions sampleMind.store sampleMind.dollID) ∧
    ∃ after, enterWake sampleTime sampleMind ['i']
        (sampleWake { Daemon.saveWorks with commit := false }) = (after, .error .persist) ∧
      ¬Pending ['i'] (intentions after.state) := by
  constructor
  · obtain ⟨after, done⟩ : ∃ after, enterPulseWake sampleTime sampleMind true
        (sampleEnter [['x']]) = (after, none) := ⟨_, rfl⟩
    refine ⟨after, done, fun durable => ?_⟩
    have fresh : FreshIDs sampleMind (sampleEnter [['x']]) := nofun
    have nothing := (pulse_durable_iff done fresh).mp durable
    exact absurd (nothing _ rfl rfl) (cons_ne_nil _ _)
  · refine ⟨sampleMind_pending.1, sampleMind_pending.2, _, rfl, ?_⟩
    rintro ⟨_, found, state⟩
    cases found
    exact absurd state (show stateCompleted ≠ statePending by decide)

/-- The same wake with a save that works. -/
theorem cognition_durable_sample :
    ∃ after result, enterWake sampleTime sampleMind ['i'] (sampleWake Daemon.saveWorks) =
      (after, .ok result) ∧ Durable sampleMind after := by
  obtain ⟨after, result, done⟩ : ∃ after result, enterWake sampleTime sampleMind ['i']
      (sampleWake saveWorks) = (after, .ok result) := ⟨_, _, rfl⟩
  exact ⟨after, result, done, (cognition_durable_iff sampleTime).2.1 _ _ _ _ _ done⟩

end NeonDoll.DollMind
