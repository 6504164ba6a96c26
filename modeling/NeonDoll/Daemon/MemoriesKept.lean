import NeonDoll.Daemon.Memory

/-!
# Memories that are kept

A turn works on what it has just loaded, and its lock keeps other turns away.  The mind saves a
copy that may be older than what is stored, and so it can undo the save of a turn.  Memories are
kept in the runs in which the mind saves its memories only while its copy is current and no turn
is between its load and its save.
-/

namespace NeonDoll.Daemon

open Lib Transition DollState Persistence List GoMap Nat

/-- A turn is between its load and its save of the Doll. -/
def State.inTurn (s : State) (dollID : Text) : Prop :=
  ∃ t state, s.turns.lookup t = some ⟨dollID, .loaded state⟩

/-- The mind saves no memories, or no turn has saved its Doll since the copy was loaded and
either no turn is about to save it or the copy has no memories that are not stored. -/
def current (s : State) : Action → Prop
  | .mindSave _ => ∀ held, s.mind = some held → held.memories.items = none ∨
      (s.turnSaved = false ∧
        (¬s.inTurn held.identity.dollID ∨
          ∀ m ∈ items held, m ∈ s.store.rows held.identity.dollID))
  | _ => True

def TurnPhase.isLoaded : TurnPhase → Bool
  | .loaded _ => true
  | _ => false

theorem inTurn_iff (s : State) :
    (∃ e ∈ s.turns.entries, e.2.dollID = dollID ∧ e.2.phase.isLoaded = true) ↔
      s.inTurn dollID := by
  constructor
  · rintro ⟨⟨t, _, phase⟩, member, rfl, loaded⟩
    cases phase with
    | waiting | locked => cases loaded
    | loaded state => exact ⟨t, state, AList.mem_lookup_iff.mpr member⟩
  · rintro ⟨t, _, found⟩
    exact ⟨⟨t, _⟩, AList.mem_lookup_iff.mp found, rfl, rfl⟩

instance (s : State) (dollID : Text) : Decidable (s.inTurn dollID) :=
  decidable_of_iff _ (inTurn_iff s)

instance (s : State) (a : Action) : Decidable (current s a) :=
  match a with
  | .mindSave _ =>
    match mind : s.mind with
    | none => isTrue fun held eq => by rw [mind] at eq; cases eq
    | some held =>
      decidable_of_iff
        (held.memories.items = none ∨
          (s.turnSaved = false ∧
            (¬s.inTurn held.identity.dollID ∨
              ∀ m ∈ items held, m ∈ s.store.rows held.identity.dollID)))
        ⟨fun ok other eq => by rw [mind] at eq; cases eq; exact ok, fun all => all held mind⟩
  | .peek _ _ | .request _ _ | .acquire _ | .cancel _ | .load _ _ | .save _ _ _ | .think _
  | .start _ _ _ => isTrue trivial

/-- A later load returns what an earlier save contained. -/
def Keeps (earlier later : Event) : Prop :=
  ∀ dollID saved loaded, earlier = .saved dollID saved → later = .loaded dollID loaded →
    ∀ m ∈ saved, m ∈ loaded

/-! ## The invariant -/

@[grind] structure Fresh (s : State) : Prop where
  keyed : s.store.Keyed
  /-- A turn that has its lock is the holder of it. -/
  holder : ∀ t turn, s.turns.lookup t = some turn → turn.phase ≠ .waiting →
    s.locks.lookup turn.dollID = some t
  /-- A turn has all stored memories in what it has loaded. -/
  copies : ∀ t dollID state, s.turns.lookup t = some ⟨dollID, .loaded state⟩ →
    state.identity.dollID = dollID ∧ ∀ m ∈ s.store.rows dollID, m ∈ items state
  /-- So has the mind, until a turn saves. -/
  mind : ∀ held, s.mind = some held → s.turnSaved = false →
    ∀ m ∈ s.store.rows held.identity.dollID, m ∈ items held

/-- No memory is deleted. -/
def Grows (s t : State) : Prop := ∀ dollID, ∀ m ∈ s.store.rows dollID, m ∈ t.store.rows dollID

/-- What the events of a step say about the states before and after it. -/
def Reported (s t : State) (events : List Event) : Prop :=
  (∀ dollID saved, .saved dollID saved ∈ events → ∀ m ∈ saved, m ∈ t.store.rows dollID) ∧
    (∀ dollID loaded, .loaded dollID loaded ∈ events →
      ∀ m ∈ s.store.rows dollID, m ∈ loaded) ∧
    events.length ≤ 1

/-- What holds of every step. -/
structure Sound (s t : State) (events : List Event) : Prop where
  fresh : Fresh t
  grows : Grows s t
  reported : Reported s t events

variable {s t : State}

theorem grows_of_store (same : t.store = s.store) : Grows s t := by
  intro dollID m member
  rw [same]
  exact member

theorem reported_nil : Reported s t [] := ⟨nofun, nofun, zero_le 1⟩

variable {state : DollState} {dollID : Text}

theorem items_loaded (read : loadDoll s.store dollID calls = .ok state) (m : MemoryItem) :
    m ∈ items state ↔ m ∈ s.store.rows dollID := by
  rw [items, (loadDoll_ok read).1]
  exact mem_loadedMemories s.store dollID m

theorem reported_load : Reported s t (loadEvents dollID (loadDoll s.store dollID calls)) := by
  cases read : loadDoll s.store dollID calls with
  | error e => exact reported_nil
  | ok state =>
    refine ⟨?_, ?_, le_refl 1⟩
    · intro _ _ member
      cases mem_singleton.mp member
    · intro _ _ member m stored
      cases mem_singleton.mp member
      exact (items_loaded read m).mpr stored

variable {store : DollStore}

theorem fresh_started (keyed : store.Keyed) (held : ∀ state, mind = some state →
      ∀ m ∈ store.rows state.identity.dollID, m ∈ items state) :
    Fresh (State.started store mind) where
  keyed := keyed
  holder := nofun
  copies := nofun
  mind := fun state eq _ => held state eq

/-! ## Turns -/

/-- Changing a turn that stays as it was towards its lock, and towards the store. -/
theorem fresh_waiting (fresh : Fresh s) : Fresh (s.at_ n ⟨dollID, .waiting⟩) where
  keyed := fresh.keyed
  holder := by grind [State.at_]
  copies := by grind [State.at_]
  mind := fresh.mind

theorem fresh_acquired (fresh : Fresh s) (free : s.locks.lookup dollID = none) :
    Fresh { s.at_ n ⟨dollID, .locked⟩ with locks := s.locks.insert dollID n } where
  keyed := fresh.keyed
  holder := by
    intro u turn found busy
    change (s.turns.insert n _).lookup u = some turn at found
    rw [lookup_insert_ite] at found ⊢
    split at found
    · grind
    · grind
  copies := by
    intro u d state found
    change (s.turns.insert n _).lookup u = _ at found
    rw [lookup_insert_ite] at found
    split at found
    · cases found
    · exact fresh.copies u d state found
  mind := fresh.mind

/-- A turn that ends while it holds its lock. -/
theorem fresh_released (fresh : Fresh s)
    (found : s.turns.lookup n = some turn) (busy : turn.phase ≠ .waiting) :
    Fresh (s.release n turn.dollID) where
  keyed := fresh.keyed
  holder := by
    intro u other lookup busy'
    change (s.turns.erase n).lookup u = some other at lookup
    change (s.locks.erase turn.dollID).lookup other.dollID = some u
    rw [lookup_erase_ite] at lookup ⊢
    split at lookup
    · cases lookup
    · grind
  copies := by
    intro u d state lookup
    exact fresh.copies u d state (lookup_erase_some lookup).2
  mind := fresh.mind

theorem fresh_cancelled (fresh : Fresh s) : Fresh { s with turns := s.turns.erase n } where
  keyed := fresh.keyed
  holder := by grind
  copies := by grind
  mind := fresh.mind

theorem loadStep_sound (fresh : Fresh s) (locked : s.turns.lookup n = some ⟨dollID, .locked⟩) :
    Sound s (loadStep s n dollID calls).1 (loadStep s n dollID calls).2 := by
  rw [loadStep]
  cases read : loadDoll s.store dollID calls with
  | error e =>
    exact ⟨fresh_released fresh locked nofun, grows_of_store rfl, reported_nil⟩
  | ok state =>
    refine ⟨?_, grows_of_store rfl, ?_⟩
    · refine ⟨fresh.keyed, ?_, ?_, fresh.mind⟩
      · intro u turn found busy
        rcases lookup_insert_some found with ⟨rfl, rfl⟩ | ⟨-, found⟩
        · exact fresh.holder _ ⟨dollID, .locked⟩ locked nofun
        · exact fresh.holder u turn found busy
      · intro u d other found
        change (s.turns.insert n _).lookup u = _ at found
        rw [lookup_insert_ite] at found
        split at found
        · cases found
          exact ⟨(loadDoll_ok read).2 fresh.keyed, fun m => (items_loaded read m).mpr⟩
        · exact fresh.copies u d other found
    · dsimp only
      rw [← read]
      exact reported_load

/-! ## Saves -/

theorem rows_saved (saved : saveDoll s.store state calls = (store, none)) (dollID : Text) :
    store.rows dollID =
      if dollID = state.identity.dollID then
        state.memories.items.getD (s.store.rows state.identity.dollID)
      else s.store.rows dollID := by
  rcases saveDoll_cases s.store state calls with ⟨e, failed⟩ | ⟨_, _, _, _⟩
  · rw [failed] at saved
    cases saved
  · grind

theorem store_of_failed (failed : saveDoll s.store state calls = (store, some e)) :
    store = s.store := by
  rcases saveDoll_cases s.store state calls with ⟨_, eq⟩ | ⟨_, eq, _⟩
  · rw [eq] at failed
    cases failed
    rfl
  · rw [eq] at failed
    cases failed

variable {m : MemoryItem}

theorem mem_items_appendTurn
    (member : m ∈ items state) : m ∈ items (appendTurn state memory) :=
  mem_append_left _ member

theorem reported_saved (stored : ∀ m ∈ items state, m ∈ t.store.rows state.identity.dollID) :
    Reported s t (saveEvents state none) := by
  refine ⟨?_, ?_, le_refl 1⟩
  · intro _ _ member
    cases mem_singleton.mp member
    exact stored
  · intro _ _ member
    cases mem_singleton.mp member

theorem saveStep_sound (fresh : Fresh s) (calls : SaveCalls)
    (loaded : s.turns.lookup n = some ⟨dollID, .loaded state⟩) :
    Sound s (saveStep s n dollID state memory calls).1
      (saveStep s n dollID state memory calls).2 := by
  obtain ⟨own, _⟩ := fresh.copies n dollID state loaded
  have released := fresh_released fresh loaded nofun
  rw [saveStep]
  cases saved : saveDoll s.store (appendTurn state memory) calls with
  | mk store error? =>
    cases error? with
    | some e =>
      have same := store_of_failed saved
      rw [same]
      exact ⟨released, grows_of_store rfl, reported_nil⟩
    | none =>
      have rows : ∀ d, store.rows d =
          if d = dollID then items (appendTurn state memory) else s.store.rows d := by
        intro d
        rw [rows_saved saved]
        change (if d = state.identity.dollID then _ else _) = _
        rw [own]
        rfl
      have other : ∀ d, d ≠ dollID → store.rows d = s.store.rows d := fun d apart => by
        rw [rows, if_neg apart]
      refine ⟨⟨saveDoll_keyed fresh.keyed saved, released.holder, ?_, ?_⟩, ?_, ?_⟩
      · intro u d st found
        obtain ⟨id, inside⟩ := released.copies u d st found
        -- Another turn of the same Doll would hold the same lock.
        have apart : d ≠ dollID := by
          rintro rfl
          have found' : (s.turns.erase n).lookup u = _ := found
          rw [lookup_erase_ite] at found'
          split at found'
          · cases found'
          · grind
        refine ⟨id, ?_⟩
        rw [other d apart]
        exact inside
      · intro held eq unsaved
        change (s.turnSaved || isMindOf s.mind state.identity.dollID) = false at unsaved
        have eq' : s.mind = some held := eq
        rw [Bool.or_eq_false_iff, eq', isMindOf, decide_eq_false_iff_not, own] at unsaved
        rw [other _ unsaved.2]
        exact fresh.mind held eq' unsaved.1
      · grind [Grows, mem_items_appendTurn]
      · refine reported_saved fun m member => ?_
        change m ∈ store.rows state.identity.dollID
        rw [rows, if_pos own]
        exact member

variable {held : DollState}

theorem mindSave_sound (fresh : Fresh s)
    (mind : s.mind = some held) (guarded : current s (.mindSave calls))
    (saved : saveDoll s.store held calls = (store, error?)) :
    Sound s { s with store := store } (saveEvents held error?) := by
  cases error? with
  | some e =>
    have same := store_of_failed saved
    rw [same]
    exact ⟨fresh, grows_of_store rfl, reported_nil⟩
  | none =>
    have rows := rows_saved saved
    rcases guarded held mind with unset | ⟨unsaved, _⟩
    · have same : ∀ d, store.rows d = s.store.rows d := by
        intro d
        rw [rows, unset]
        split
        · grind
        · rfl
      refine ⟨⟨saveDoll_keyed fresh.keyed saved, fresh.holder, ?_, ?_⟩, ?_, ?_⟩
      · grind
      · grind
      · grind [Grows]
      · grind [reported_saved, items]
    · have inside := fresh.mind held mind unsaved
      have grown : ∀ d, ∀ m ∈ s.store.rows d, m ∈ store.rows d := by
        intro d m member
        rw [rows]
        split
        · rename_i own
          rw [own] at member
          cases given : held.memories.items with
          | none => exact member
          | some all => grind [items]
        · exact member
      have within : ∀ m ∈ store.rows held.identity.dollID, m ∈ items held := by
        intro m member
        rw [rows, if_pos rfl] at member
        cases given : held.memories.items with
        | none =>
          rw [given] at member
          exact inside m member
        | some all => grind [items]
      have other : ∀ d, d ≠ held.identity.dollID → store.rows d = s.store.rows d :=
        fun d apart => by rw [rows, if_neg apart]
      refine ⟨⟨saveDoll_keyed fresh.keyed saved, fresh.holder, ?_, ?_⟩, grown, ?_⟩
      · grind [State.inTurn]
      · grind
      · refine reported_saved fun m member => ?_
        rw [rows, if_pos rfl]
        cases given : held.memories.items <;> rw [items, given] at member
        case none =>
          cases member
        case some all =>
          exact member

/-! ## The mind and the start -/

theorem apply_identity (edit : MindEdit) : (edit.apply held).identity = held.identity := by
  cases edit with
  | retain experience now =>
    rw [MindEdit.apply]
    split
    all_goals rfl
  | intend id future => rfl
  | complete id => rfl
  | reschedule id future => rfl

theorem mem_items_apply (edit : MindEdit)
    (member : m ∈ items held) : m ∈ items (edit.apply held) := by
  cases edit with
  | retain experience now =>
    rw [MindEdit.apply]
    split
    · exact member
    · exact mem_append_left _ member
  | intend id future | complete id | reschedule id future => exact member

theorem startStep_sound (fresh : Fresh s) (dollID : Text) (load : LoadCalls) (save : SaveCalls) :
    Sound s (startStep s dollID load save).1 (startStep s dollID load save).2 := by
  have down : Sound s (State.started s.store none) [] :=
    ⟨fresh_started fresh.keyed nofun, grows_of_store rfl, reported_nil⟩
  unfold startStep
  cases read : loadDoll s.store dollID load with
  | ok state =>
    refine ⟨fresh_started fresh.keyed ?_, grows_of_store rfl, ?_⟩
    · intro held eq m member
      cases eq
      rw [(loadDoll_ok read).2 fresh.keyed] at member
      exact (items_loaded read m).mpr member
    · have told : loadEvents dollID (loadDoll s.store dollID load) =
          [.loaded dollID (items state)] := by
        rw [read]
        rfl
      dsimp only
      rw [← told]
      exact reported_load
  | error e =>
    cases e with
    | invalidDollID | cannotDecode => exact down
    | notFound =>
      cases saved : saveDoll s.store (createdDoll dollID) save with
      | mk store error? =>
        cases error? with
        | some e =>
          rw [store_of_failed saved]
          exact down
        | none =>
          have same : ∀ d, store.rows d = s.store.rows d := by
            intro d
            rw [rows_saved saved]
            split
            · rename_i own
              rw [own]
              rfl
            · rfl
          have none_ : s.store.rows dollID = [] :=
            fresh.keyed.owned dollID (loadDoll_notFound read)
          refine ⟨fresh_started (saveDoll_keyed fresh.keyed saved) ?_, ?_, ?_⟩
          · intro held eq m member
            cases eq
            change m ∈ store.rows dollID at member
            rw [same, none_] at member
            cases member
          · intro d m member
            change m ∈ store.rows d
            rw [same]
            exact member
          · exact reported_saved nofun

/-! ## Runs -/

theorem step_sound (fresh : Fresh s) (guarded : current s a)
    (stepped : step? s a = some (t, events)) : Sound s t events := by
  cases a with
  | peek dollID calls =>
    cases stepped
    exact ⟨fresh, grows_of_store rfl, reported_load⟩
  | request n dollID =>
    rw [step?] at stepped
    split at stepped
    · cases stepped
    · cases stepped
      exact ⟨fresh_waiting fresh, grows_of_store rfl, reported_nil⟩
  | acquire n =>
    rw [step?] at stepped
    split at stepped
    · split at stepped
      · cases stepped
      · rename_i free
        cases stepped
        exact ⟨fresh_acquired fresh free, grows_of_store rfl, reported_nil⟩
    · cases stepped
  | cancel n =>
    grind [Sound, fresh_cancelled, grows_of_store, reported_nil, step?]
  | load n calls => grind [loadStep_sound, step?]
  | save n memory calls => grind [saveStep_sound, step?]
  | think edit =>
    obtain ⟨_, _, eq⟩ := Option.map_eq_some_iff.mp stepped
    cases eq
    grind [Sound, grows_of_store, reported_nil, apply_identity, mem_items_apply]
  | mindSave calls => grind [mindSave_sound, step?]
  | start dollID load save =>
    have sound := startStep_sound fresh dollID load save
    rw [Option.some.inj stepped] at sound
    exact sound

/-- What is known after a run: the saves of the past are still stored, and every load of the past
has returned the saves before it. -/
structure Kept (trace : List Event) (s : State) : Prop where
  fresh : Fresh s
  stored : ∀ dollID saved, .saved dollID saved ∈ trace → ∀ m ∈ saved, m ∈ s.store.rows dollID
  returned : trace.Pairwise Keeps

theorem kept_step (kept : Kept past s) (sound : Sound s t events) : Kept (past ++ events) t := by
  obtain ⟨_, _, one⟩ := sound.reported
  refine ⟨sound.fresh, ?_, ?_⟩
  · grind [Kept, Sound, Grows]
  · refine pairwise_append.mpr ⟨kept.returned, ?_, ?_⟩
    · match events with
      | [] => exact .nil
      | [_] => exact pairwise_singleton _ _
      | _ :: _ :: _ =>
        rw [length_cons, length_cons] at one
        omega
    · grind [Kept, Keeps]

/-- In every run in which the mind saves memories only from a current copy, a load returns all
memories of the saves before it, and these are stored in the end. -/
theorem memories_kept (db : Database) {trace : List Event}
    (run : (system db).Run current (system db).init trace s) : trace.Pairwise Keeps ∧
      ∀ dollID saved, .saved dollID saved ∈ trace → ∀ m ∈ saved, m ∈ s.store.rows dollID := by
  have kept : Kept trace s :=
    run.history ⟨fresh_started db.keyed nofun, nofun, .nil⟩ fun kept guarded stepped =>
      kept_step kept (step_sound kept.fresh guarded stepped)
  exact ⟨kept.returned, kept.stored⟩

/-! ## A lost memory -/

def emptyDatabase : Database where
  store := ⟨∅, ∅⟩
  keyed := ⟨nofun, fun _ _ => rfl⟩

/-- The last event is a load without an item that was saved before it. -/
def loses (trace : List Event) : Bool :=
  match trace.reverse with
  | .loaded dollID loaded :: earlier =>
    earlier.any fun e =>
      match e with
      | .saved d saved => d = dollID && saved.any fun m => m ∉ loaded
      | .loaded _ _ => false
  | _ => false

theorem not_pairwise_of_loses (lost : loses trace = true) : ¬trace.Pairwise Keeps := by
  grind [Keeps, reverse_cons, mem_cons_self, loses]

def loadWorks : LoadCalls := ⟨true, true⟩

def saveWorks : SaveCalls := ⟨true, true, true, true, 10, true⟩

def sampleMemory (id : Char) : TurnMemory :=
  ⟨[id], [id, 'h'], [id, 'd'], ['q'], ['a'], [], []⟩

def sampleTurn (t : TurnID) (id : Char) : List Action :=
  [.request t ['d'], .acquire t, .load t loadWorks, .save t (sampleMemory id) saveWorks]

/-- After a restart the mind holds the memories of the first turn; a second turn saves its own,
and then the mind saves a new intention. -/
theorem mind_save_loses_turn :
    ∃ trace s, (system emptyDatabase).Run free (system emptyDatabase).init trace s ∧
      ¬trace.Pairwise Keeps := by
  have lost : (system emptyDatabase).replays? free
      ([.start ['d'] loadWorks saveWorks] ++ sampleTurn 1 'a' ++
        [.start ['d'] loadWorks saveWorks] ++ sampleTurn 2 'b' ++
        [.think (.intend ['i'] ⟨['s'], [], ['w']⟩), .mindSave saveWorks, .peek ['d'] loadWorks])
      (fun trace _ => loses trace) = true := by
    decide +kernel
  obtain ⟨trace, s, run, lost⟩ := System.replays?_run lost
  exact ⟨trace, s, run, not_pairwise_of_loses lost⟩

/-- The mind keeps an observation and saves it before the next turn. -/
theorem memories_kept_observation :
    ∃ trace s, (system emptyDatabase).Run current (system emptyDatabase).init trace s ∧
      (.saved ['d'] [⟨['o'], [], "observation".toList, ['x'], 0, []⟩] ∈ trace ∧
        trace.length = 6) ∧ trace.Pairwise Keeps := by
  have replayed : (system emptyDatabase).replays? current
      ([.start ['d'] loadWorks saveWorks, .think (.retain [(['o'], ['x'])] []),
        .mindSave saveWorks] ++ sampleTurn 1 'a' ++ [.peek ['d'] loadWorks, .peek ['d'] loadWorks])
      (fun trace _ => decide (.saved ['d'] [⟨['o'], [], "observation".toList, ['x'], 0, []⟩] ∈
        trace ∧ trace.length = 6)) = true := by
    decide +kernel
  obtain ⟨trace, s, run, found⟩ := System.replays?_run replayed
  exact ⟨trace, s, run, of_decide_eq_true found, (memories_kept emptyDatabase run).1⟩

end NeonDoll.Daemon
