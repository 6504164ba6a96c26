import NeonDoll.DollMind.Exhaustion
import NeonDoll.Permission.Claims

/-!
# Approved actions run at most once

A decision is final, an action runs only under a claim made while its request is approved,
and a claim of an approved request is never followed by another one unless its own handler
has released it.  A claim that a restart interrupts is not repeated and ends as failed with
an ambiguous outcome.

A release comes before any effect of the action in the runs of `releasesRefused`, in which the
Guard has refused every Body of an execution that is released.  In others a Body can act and fail,
the next one be unavailable, and the action be executed again.
-/

namespace NeonDoll.Permission

open Lib Transition DollMind List Option

variable {cfg : ExecutorConfig} {guard : State → Action → Prop} {s t : State} {a : Action}
  {es : List Event}

variable {trace : List Event}

theorem run_claimed (run : (system cfg).Run guard State.init trace s) : Claimed s :=
  run.invariant claimed_init fun inv _ stepped => claimed_kept inv (step_effect stepped)

variable {later : List Event} {r : Request} {id : RequestID}

theorem run_status_final (run : (system cfg).Run guard s later t)
    (found : s.requests.lookup id = some r) (final : r.status ≠ .pending) :
    ∃ r', t.requests.lookup id = some r' ∧ r'.status = r.status := by
  refine run.invariant
    (P := fun x => ∃ r', x.requests.lookup id = some r' ∧ r'.status = r.status) ⟨r, found, rfl⟩ ?_
  rintro x y a _ ⟨r', found', same⟩ _ stepped
  have final' : r'.status ≠ .pending := by
    rw [same]
    exact final
  obtain ⟨r'', found'', same'⟩ := status_final (step_effect stepped) found' final'
  exact ⟨r'', found'', same'.trans same⟩

/-- In every run, with calls that fail, releases and restarts, an approved request is held by at
most one handler. -/
theorem approved_held_once (run : (system cfg).Run free State.init trace s)
    (found : s.requests.lookup id = some r) (approved : r.status = .approved) :
    {h | ∃ pc, s.handlers.lookup h = some pc ∧ pc.holds = some id}.Subsingleton := by
  rintro h ⟨pc, here, holds⟩ h' ⟨pc', there, holds'⟩
  exact (run_claimed run).single h h' pc pc' id r here there holds holds' found approved

/-! ## What the events of a step tell -/

variable {h : HandlerID}

theorem claim_of_step (effect : Effect cfg s a es t) (member : .claimed h id status ∈ es) :
    ∃ r, (s.requests.lookup id = some r ∧ r.status = status ∧
      (status = .approved ∧ r.continuationStatus = .ready ∨
        status = .denied ∧ r.continuationStatus = .denied)) ∧
      t.requests = s.requests.insert id (claimedRow s.now r) := by
  cases effect with
  | claimed h' id' r found claimable requests _ _ events =>
    rw [events] at member
    cases mem_singleton.mp member
    exact ⟨r, ⟨found, rfl, of_decide_eq_true claimable⟩, requests⟩
  | quiet _ _ events | created _ _ _ _ _ events | decided _ _ events => cases events _ member
  | restarted _ _ _ events | executed _ _ _ _ _ _ _ _ _ _ events
  | released _ _ _ _ _ _ _ _ _ events | completed _ _ _ _ _ _ _ _ _ events
  | recovered _ _ events =>
    rw [events] at member
    cases mem_singleton.mp member

theorem release_of_step (effect : Effect cfg s a es t)
    (member : .released h id ∈ es) : s.handlers.lookup h = some (.releasing id) := by
  cases effect with
  | released h' id' r holder _ _ _ _ _ events => grind
  | quiet _ _ events | created _ _ _ _ _ events | decided _ _ events => cases events _ member
  | restarted _ _ _ events | executed _ _ _ _ _ _ _ _ _ _ events
  | claimed _ _ _ _ _ _ _ _ events | completed _ _ _ _ _ _ _ _ _ events
  | recovered _ _ events =>
    rw [events] at member
    cases mem_singleton.mp member

variable {calls : List ExternalCall}

theorem execution_of_step (effect : Effect cfg s a es t) (member : .executed h r calls ∈ es) :
    s.handlers.lookup h = some (.executing r) ∧ t.requests = s.requests ∧
      ∃ world result, a = .execute h world ∧ executeApproved cfg world r = (.result result, calls) ∧
        t.handlers = s.handlers.insert h (if releases result then .releasing r.id
          else .completing r.id (outcomeOf cfg result)) := by
  cases effect with
  | executed h' r' world result calls' action holder executed requests handlers events => grind
  | quiet _ _ events | created _ _ _ _ _ events | decided _ _ events => cases events _ member
  | restarted _ _ _ events | claimed _ _ _ _ _ _ _ _ events
  | released _ _ _ _ _ _ _ _ _ events | completed _ _ _ _ _ _ _ _ _ events
  | recovered _ _ events =>
    rw [events] at member
    cases mem_singleton.mp member

/-! ## From a claim to its release -/

/-- The approved request is taken, and nobody but `h` can hold it. -/
def TakenBy (s : State) (id : RequestID) (h : HandlerID) : Prop :=
  (∃ r, s.requests.lookup id = some r ∧ r.status = .approved ∧ Taken r) ∧
    ∀ h' pc, s.handlers.lookup h' = some pc → pc.holds = some id → h' = h

theorem unclaimed_of_taken (effect : Effect cfg s a es t)
    (found : s.requests.lookup id = some r) (taken : Taken r) (h : HandlerID) (status : Status) :
    .claimed h id status ∉ es := by
  intro member
  obtain ⟨r', ⟨found', _, ready⟩, _⟩ := claim_of_step effect member
  cases found.symm.trans found'
  grind [Taken]

theorem takenBy_of_claim (inv : Claimed s) (effect : Effect cfg s a es t)
    (member : .claimed h id .approved ∈ es) : TakenBy t id h := by
  obtain ⟨r, ⟨_, approved, _⟩, requests⟩ := claim_of_step effect member
  have row : ∃ r, t.requests.lookup id = some r ∧ r.status = .approved ∧ Taken r := by
    refine ⟨claimedRow s.now r, ?_, approved, .inl rfl⟩
    rw [requests, AList.lookup_insert]
  refine ⟨row, ?_⟩
  intro h' pc holder holds
  rcases holder_origin inv effect holder holds with ⟨_, _, _, _⟩ | ⟨_, _, _, _, _⟩
  · -- An earlier holder of an approved request would have taken it.
    grind [Claimed, unclaimed_of_taken]
  · grind

theorem takenBy_kept (inv : Claimed s) (effect : Effect cfg s a es t) (taken : TakenBy s id h) :
    .released h id ∈ es ∨ TakenBy t id h ∧ ∀ h' status, .claimed h' id status ∉ es := by
  obtain ⟨⟨r, found, approved, held⟩, only⟩ := taken
  have unclaimed := unclaimed_of_taken effect found held
  rcases taken_kept effect found approved held with after | ⟨h', events, holder⟩
  · refine .inr ⟨⟨after, ?_⟩, unclaimed⟩
    intro h' pc holder holds
    rcases holder_origin inv effect holder holds with ⟨pc', before, held', _⟩ | new
    · exact only h' pc' before held'
    · obtain ⟨r', _, _, events, _⟩ := new
      exact absurd (by rw [events]; exact mem_singleton_self _) (unclaimed h' r'.status)
  · refine .inl ?_
    rw [events, only h' _ holder rfl]
    exact mem_singleton_self _

/-- After a claim of an approved request there is no other claim of it before its release. -/
theorem run_takenBy (inv : Claimed s)
    (taken : TakenBy s id h) (run : (system cfg).Run guard s later t) :
    .released h id ∈ later ∨ Claimed t ∧ TakenBy t id h := by
  refine run.history
    (P := fun past x => .released h id ∈ past ∨ Claimed x ∧ TakenBy x id h)
    (.inr ⟨inv, taken⟩) ?_
  rintro x y a _ _ (released | ⟨inv', taken'⟩) _ stepped
  · exact .inl (mem_append_left _ released)
  have effect := step_effect stepped
  rcases takenBy_kept inv' effect taken' with released | ⟨kept, _⟩
  · exact .inl (mem_append_right _ released)
  · exact .inr ⟨claimed_kept inv' effect, kept⟩

/-! ## Executions with an effect -/

/-- If the Bodies of an execution are tried in vain up to one that is unavailable, the Guard has
refused each of them. -/
def releasesRefused (cfg : ExecutorConfig) (s : State) : Action → Prop
  | .execute h world =>
    match s.handlers.lookup h with
    | some (.executing r) => refusedAll cfg world (continuedTool r)
    | _ => True
  | _ => True

instance (cfg : ExecutorConfig) (s : State) (a : Action) : Decidable (releasesRefused cfg s a) :=
  decidable_of_bool
    (match a with
    | .execute h world =>
      match s.handlers.lookup h with
      | some (.executing r) => decide (refusedAll cfg world (continuedTool r))
      | _ => true
    | _ => true)
    (by
      unfold releasesRefused
      repeat' split
      all_goals simp)

/-- An execution that is admitted and releases its claim has reached nobody. -/
theorem released_silent (admitted : releasesRefused cfg s (.execute h world))
    (holder : s.handlers.lookup h = some (.executing r))
    (executed : executeApproved cfg world r = (.result result, calls))
    (released : releases result = true) : ∀ made ∈ calls, made.acts = false := by
  rw [releasesRefused, holder] at admitted
  exact ((quietRelease_iff cfg world r).mpr admitted).silent executed released

/-- Some call of an execution has reached a Body or a recipient. -/
def acted (calls : List ExternalCall) : Bool := calls.any ExternalCall.acts

/-- The request is taken for good: its holder, if there is one left, completes it. -/
def SpentBy (s : State) (id : RequestID) (h : HandlerID) : Prop :=
  TakenBy s id h ∧ ∀ h' pc, s.handlers.lookup h' = some pc → pc.holds = some id →
    ∃ outcome, pc = .completing id outcome

theorem spentBy_kept (inv : Claimed s) (effect : Effect cfg s a es t) (spent : SpentBy s id h) :
    SpentBy t id h ∧ (∀ h' status, .claimed h' id status ∉ es) ∧
      ∀ h' r calls, .executed h' r calls ∈ es → r.id ≠ id := by
  obtain ⟨taken, completing⟩ := spent
  rcases takenBy_kept inv effect taken with released | ⟨kept, unclaimed⟩
  · obtain ⟨_, eq⟩ := completing h _ (release_of_step effect released) rfl
    cases eq
  refine ⟨⟨kept, ?_⟩, unclaimed, ?_⟩
  · intro h' pc holder holds
    rcases holder_origin inv effect holder holds with ⟨_, _, _, _, _⟩ | new
    · grind
    · obtain ⟨r', _, _, events, _⟩ := new
      exact absurd (by rw [events]; exact mem_singleton_self _) (unclaimed h' r'.status)
  · rintro h' r _ executed rfl
    obtain ⟨_, eq⟩ := completing h' _ (execution_of_step effect executed).1 rfl
    cases eq

theorem spentBy_of_execution (inv : Claimed s)
    (admitted : releasesRefused cfg s a) (effect : Effect cfg s a es t)
    (member : .executed h r calls ∈ es) (effective : acted calls = true) : SpentBy t r.id h := by
  obtain ⟨holder, requests, world, result, rfl, executed, handlers⟩ :=
    execution_of_step effect member
  have kept : releases result = false := by
    cases released : releases result with
    | false => rfl
    | true =>
      obtain ⟨made, member, acts⟩ := any_eq_true.mp effective
      rw [released_silent admitted holder executed released made member] at acts
      cases acts
  rw [kept, if_neg Bool.false_ne_true] at handlers
  obtain ⟨row, found, approved⟩ := inv.executing h r holder
  obtain ⟨_, found', _, taken⟩ := inv.held h _ r.id holder rfl
  rw [found] at found'
  cases found'
  have only : ∀ h' pc, t.handlers.lookup h' = some pc → pc.holds = some r.id →
      h' = h ∧ pc = .completing r.id (outcomeOf cfg result) := by
    intro h' pc after holds
    rw [handlers, GoMap.lookup_insert_ite] at after
    split at after
    · grind
    · rename_i other
      exact absurd (inv.single h' h pc _ r.id row after holder holds rfl found approved) other
  refine ⟨⟨⟨row, by rw [requests]; exact found, approved, taken approved⟩, ?_⟩, ?_⟩
  · exact fun h' pc after holds => (only h' pc after holds).1
  · exact fun h' pc after holds => ⟨_, (only h' pc after holds).2⟩

/-- What the executions of a run have left. -/
def Spent (past : List Event) (s : State) : Prop :=
  ∀ h r calls, .executed h r calls ∈ past → acted calls = true → SpentBy s r.id h

theorem run_spent (inv : Claimed s) (run : (system cfg).Run (releasesRefused cfg) s later t) :
    Claimed t ∧ Spent later t := by
  refine run.history (P := fun past x => Claimed x ∧ Spent past x)
    ⟨inv, fun _ _ _ member => nomatch member⟩ ?_
  rintro x y a _ _ ⟨inv', spent⟩ admitted stepped
  have effect := step_effect stepped
  refine ⟨claimed_kept inv' effect, ?_⟩
  intro h r calls member effective
  rcases mem_append.mp member with earlier | now
  · exact (spentBy_kept inv' effect (spent h r calls earlier effective)).1
  · exact spentBy_of_execution inv' admitted effect now effective

/-- The event is an execution of the request that has reached somebody. -/
def Event.actsOn (id : RequestID) : Event → Bool
  | .executed _ r calls => r.id = id ∧ acted calls = true
  | _ => false

theorem actsOn_execution {e : Event} (acts : e.actsOn id = true) :
    ∃ h r calls, e = .executed h r calls ∧ r.id = id ∧ acted calls = true := by
  cases e with
  | executed h r calls => exact ⟨h, r, calls, rfl, of_decide_eq_true acts⟩
  | created | approved | called | claimed | released | completed | recovered | restarted =>
    cases acts

theorem countP_actsOn_le_one (effect : Effect cfg s a es t) (id : RequestID) :
    es.countP (Event.actsOn id) ≤ 1 := by
  have none_of_silent : (∀ e ∈ es, e.silent = true) → es.countP (Event.actsOn id) ≤ 1 := by
    intro silent
    have none : es.countP (Event.actsOn id) = 0 := by
      rw [countP_eq_zero]
      intro e member acts
      obtain ⟨h, r, _, rfl, _⟩ := actsOn_execution acts
      cases silent _ member
    rw [none]
    exact Nat.zero_le 1
  have one_event : ∀ e, es = [e] → es.countP (Event.actsOn id) ≤ 1 := by
    rintro e rfl
    exact countP_le_length
  cases effect with
  | quiet _ _ events | created _ _ _ _ _ events | decided _ _ events =>
    exact none_of_silent events
  | restarted _ _ _ events | executed _ _ _ _ _ _ _ _ _ _ events
  | claimed _ _ _ _ _ _ _ _ events | released _ _ _ _ _ _ _ _ _ events
  | completed _ _ _ _ _ _ _ _ _ events | recovered _ _ events => exact one_event _ events

theorem run_acts_once (id : RequestID)
    (run : (system cfg).Run (releasesRefused cfg) State.init trace s) :
    trace.countP (Event.actsOn id) ≤ 1 := by
  have history : (Claimed s ∧ Spent trace s) ∧ trace.countP (Event.actsOn id) ≤ 1 := by
    refine run.history
      (P := fun past x => (Claimed x ∧ Spent past x) ∧ past.countP (Event.actsOn id) ≤ 1)
      ⟨⟨claimed_init, fun _ _ _ member => nomatch member⟩, Nat.zero_le 1⟩ ?_
    rintro x y a _ _ ⟨⟨inv, _⟩, _⟩ admitted stepped
    have effect := step_effect stepped
    have again := run_spent inv (.tail (.refl x) admitted stepped)
    refine ⟨⟨again.1, ?_⟩, ?_⟩
    · grind [Spent, spentBy_kept]
    · -- The request is spent, so that this step does not execute it.
      grind [Spent, actsOn_execution, spentBy_kept, countP_eq_zero, countP_actsOn_le_one]
  exact history.2

/-! ## Restarts -/

/-- The outcome of the approved action is recorded as ambiguous. -/
def Ambiguous (s : State) (id : RequestID) : Prop :=
  ∃ r, s.requests.lookup id = some r ∧ r.status = .approved ∧ r.continuationStatus = .failed ∧
    r.continuationResult = some ambiguousOutcome

/-- The approved action has been claimed, and nobody is left to end the claim. -/
def Interrupted (s : State) (id : RequestID) : Prop :=
  (Ambiguous s id ∨ ∃ r, s.requests.lookup id = some r ∧ r.status = .approved ∧
    r.continuationStatus = .running) ∧
    ∀ h pc, s.handlers.lookup h = some pc → pc.holds ≠ some id

/-- Only the recovery touches the row of a taken request that nobody holds. -/
theorem unheld_row (effect : Effect cfg s a es t)
    (found : s.requests.lookup id = some r) (approved : r.status = .approved) (taken : Taken r)
    (unheld : ∀ h pc, s.handlers.lookup h = some pc → pc.holds ≠ some id) :
    t.requests.lookup id = some r ∧ .recovered ∉ es ∨
      t.requests.lookup id = some (Requests.recovered ambiguousOutcome s.now r) := by
  have other : ∀ {id' : RequestID} {r' : Request}, t.requests = s.requests.insert id' r' →
      id ≠ id' → t.requests.lookup id = some r := by grind
  have silent : (∀ e ∈ es, e.silent = true) → .recovered ∉ es := by
    intro silent member
    cases silent _ member
  have one : ∀ {e}, es = [e] → e ≠ .recovered → .recovered ∉ es := by
    rintro e rfl different member
    exact different (mem_singleton.mp member).symm
  cases effect with
  | quiet requests _ events => exact .inl ⟨by rw [requests]; exact found, silent events⟩
  | restarted _ requests _ events | executed _ _ _ _ _ _ _ _ requests _ events =>
    exact .inl ⟨by rw [requests]; exact found, one events (by simp)⟩
  | created r' fresh _ requests _ events => grind
  | decided rows _ events =>
    obtain ⟨r', found', same | ⟨pending, _⟩⟩ := rows.2 id r found
    · rw [same] at found'
      exact .inl ⟨found', silent events⟩
    · rw [approved] at pending
      cases pending
  | claimed h id' r' found' claimable requests _ _ events => grind [not_taken_of_claimable]
  | released h id' r' holder _ _ _ requests _ events
  | completed h id' outcome r' holder _ _ requests _ events =>
    refine .inl ⟨other requests ?_, one events (by simp)⟩
    rintro rfl
    exact unheld h _ holder rfl
  | recovered requests _ _ => grind [Requests.recover]

theorem unheld_kept (inv : Claimed s) (effect : Effect cfg s a es t)
    (unheld : ∀ h pc, s.handlers.lookup h = some pc → pc.holds ≠ some id)
    (unclaimed : ∀ h status, .claimed h id status ∉ es) :
    ∀ h pc, t.handlers.lookup h = some pc → pc.holds ≠ some id := by
  intro h pc after holds
  rcases holder_origin inv effect after holds with ⟨pc', before, held, _⟩ | ⟨r, _, _, events, _⟩
  · exact unheld h pc' before held
  · exact unclaimed h r.status (by rw [events]; exact mem_singleton_self _)

theorem interrupted_kept (inv : Claimed s) (effect : Effect cfg s a es t)
    (interrupted : Interrupted s id) : Interrupted t id ∧ (∀ h status, .claimed h id status ∉ es) ∧
      (Ambiguous s id ∨ .recovered ∈ es → Ambiguous t id) := by
  obtain ⟨row, unheld⟩ := interrupted
  have unheldAfter := unheld_kept inv effect unheld
  rcases row with ⟨r, found, approved, _, _⟩ | ⟨r, found, approved, running⟩
  · grind [Effect, Interrupted, Ambiguous, Taken, unclaimed_of_taken, unheld_row,
      Requests.recovered]
  · have taken : Taken r := .inl running
    have unclaimed := unclaimed_of_taken effect found taken
    rcases unheld_row effect found approved taken unheld with ⟨_, _⟩ | recovered
    · grind [Ambiguous, Interrupted]
    · have after : Ambiguous t id := by
        refine ⟨_, recovered, ?_⟩
        rw [Requests.recovered, if_pos ⟨approved, running⟩]
        exact ⟨approved, rfl, rfl⟩
      exact ⟨⟨.inl after, unheldAfter unclaimed⟩, unclaimed, fun _ => after⟩

/-- After an interruption the action is not claimed again, and the recovery records it as
ambiguous. -/
theorem run_interrupted (inv : Claimed s)
    (interrupted : Interrupted s id) (run : (system cfg).Run guard s later t) :
    Interrupted t id ∧ (∀ h status, .claimed h id status ∉ later) ∧
      (.recovered ∈ later → Ambiguous t id) := by
  have history : Claimed t ∧ Interrupted t id ∧ (∀ h status, .claimed h id status ∉ later) ∧
      (.recovered ∈ later → Ambiguous t id) := by
    refine run.history
      (P := fun past x => Claimed x ∧ Interrupted x id ∧
        (∀ h status, .claimed h id status ∉ past) ∧ (.recovered ∈ past → Ambiguous x id))
      ⟨inv, interrupted, fun _ _ => nofun, nofun⟩ ?_
    rintro x y a _ _ ⟨inv', interrupted', _, _⟩ _ stepped
    have effect := step_effect stepped
    obtain ⟨kept, _, _⟩ := interrupted_kept inv' effect interrupted'
    refine ⟨claimed_kept inv' effect, kept, ?_, ?_⟩
    all_goals grind
  exact history.2

/-! ## The result -/

/-- In every run whose releases were all refused by the Guard:

* a decision is final;
* a claim is made of a request that is approved and ready, or denied and unreported, and what
  is executed is approved at that time;
* after the claim of an approved action by `h` another claim of the same request comes only
  after the release by `h`, and no execution before it has reached anybody;
* an action reaches a Body or a recipient in at most one execution;
* after a restart that interrupts the claim of an approved action there is no further claim of
  it, and once the recovery has run its outcome is recorded as ambiguous and failed. -/
theorem approved_actions_once (cfg : ExecutorConfig) {trace : List Event} {s : State}
    (run : (system cfg).Run (releasesRefused cfg) State.init trace s) :
    (∀ later t, (system cfg).Run (releasesRefused cfg) s later t → ∀ id r,
      s.requests.lookup id = some r → r.status ≠ .pending →
        ∃ r', t.requests.lookup id = some r' ∧ r'.status = r.status) ∧
    (∀ a t es, step? cfg s a = some (t, es) →
      (∀ h id status, .claimed h id status ∈ es → ∃ r, s.requests.lookup id = some r ∧
        r.status = status ∧ (status = .approved ∧ r.continuationStatus = .ready ∨
          status = .denied ∧ r.continuationStatus = .denied)) ∧
      ∀ h r calls, .executed h r calls ∈ es →
        ∃ r', s.requests.lookup r.id = some r' ∧ r'.status = .approved) ∧
    (∀ a t es h id, step? cfg s a = some (t, es) → .claimed h id .approved ∈ es →
      ∀ later u b es' v h' status, (system cfg).Run (releasesRefused cfg) t later u →
        step? cfg u b = some (v, es') → .claimed h' id status ∈ es' →
          .released h id ∈ later ∧
            ∀ h₁ r calls, .executed h₁ r calls ∈ later → r.id = id → acted calls = false) ∧
    (∀ id, trace.countP (Event.actsOn id) ≤ 1) ∧
    ∀ id r, s.requests.lookup id = some r → r.status = .approved →
      r.continuationStatus = .running →
        ∀ t es, step? cfg s .restart = some (t, es) →
          ∀ later u, (system cfg).Run (releasesRefused cfg) t later u →
            (∀ h status, .claimed h id status ∉ later) ∧ (.recovered ∈ later → Ambiguous u id) := by
  have inv : Claimed s := run_claimed run
  refine ⟨?_, ?_, ?_, fun id => run_acts_once id run, ?_⟩
  · intro later t continued id r found final
    exact run_status_final continued found final
  · intro a t es stepped
    have effect := step_effect stepped
    refine ⟨fun h id status member => (claim_of_step effect member).imp fun _ => And.left, ?_⟩
    intro h r calls member
    exact inv.executing h r (execution_of_step effect member).1
  · intro a t es h id stepped member later u b es' v h' status continued next again
    have effect := step_effect stepped
    have inv' : Claimed t := claimed_kept inv effect
    obtain ⟨_, _⟩ := run_spent inv' continued
    have effect' := step_effect next
    constructor
    · grind [TakenBy, run_takenBy, takenBy_of_claim, unclaimed_of_taken]
    · grind [TakenBy, SpentBy, Spent, unclaimed_of_taken]
  · intro id r found approved running t es stepped later u continued
    cases stepped
    have interrupted : Interrupted { s with handlers := ∅ } id :=
      ⟨.inr ⟨r, found, approved, running⟩, fun h pc here => by cases here⟩
    have effect : Effect cfg s .restart [.restarted] { s with handlers := ∅ } := step_effect rfl
    have inv' : Claimed { s with handlers := ∅ } := claimed_kept inv effect
    exact (run_interrupted inv' interrupted continued).2

/-! ## A repeated action -/

/-- An executor whose policy wants approval for one operation. -/
def sampleExecutor : ExecutorConfig :=
  { composed := true
    dollID := ['d']
    preferences := fun _ => 0
    ownerPolicy := ⟨[], []⟩
    requests := true
    ownerID := ['o']
    approvalTTL := 100
    communication := false
    manager :=
      { policy := some (ActionPolicy.evaluate
          [⟨[], ['c'], ['p'], .requireApproval, [], []⟩])
        validJSON := fun _ => true
        unmarshal := fun _ => some (some []) }
    marshal := fun _ => some [1]
    marshalResult := fun _ => [2] }

def sampleBody (name : Char) : BodyResolver.BodyView :=
  ⟨[name], .remote, none, [⟨['c'], [['p']], true, []⟩]⟩

/-- The Guard allows the operation, and the Body's answer is given. -/
def sampleAttempt (resolution : Option Body.ResolutionFailure)
    (invocation : Except Text (Option Body.ExecutionResult)) : BodyResolver.AttemptCalls :=
  ⟨none, ⟨true, resolution, ⟨.allow, [], [], .unset⟩, invocation⟩, none⟩

/-- Two eligible Bodies: the first acts and fails, the second has become unavailable. -/
def failThenUnavailable : World :=
  { ctx := none
    policy := ⟨.requireApproval, [], []⟩
    bodies := [sampleBody 'x', sampleBody 'y']
    attempts := fun i =>
      if i = 0 then sampleAttempt none (.error ['e'])
      else sampleAttempt (some ⟨.unavailable, []⟩) (.error [])
    send := (⟨[], [], .failed⟩, none)
    peers := .ok []
    createError := none }

def succeeds : World :=
  { failThenUnavailable with
    bodies := [sampleBody 'x']
    attempts := fun _ =>
      sampleAttempt none (.ok (some ⟨[], .success, ['r'], [], [], .unset⟩)) }

def allCalls : Calls := ⟨true, true, true⟩

/-- A tool call that becomes a permission request, its approval, and one round of the handler
that continues it. -/
def sampleApproval : List Action :=
  [.call ⟨[], [], [], []⟩ ⟨['i'], ['t'], some []⟩ (some ⟨['t'], ['c'], ['p'], []⟩)
      failThenUnavailable,
    .approve 1 ['o'] allCalls]

def sampleRound (h : HandlerID) (world : World) : List Action :=
  [.handle 1 .approved, .claim h allCalls, .execute h world, .settle h allCalls]

/-- The first Body acts and fails, the second is unavailable, the claim is released, and the
next handler executes the action again. -/
theorem failed_body_acts_twice : ∃ trace s, (system sampleExecutor).Run free State.init trace s ∧
      trace.countP (Event.actsOn 1) = 2 ∧
      .claimed 2 1 .approved ∈ trace ∧ .released 2 1 ∈ trace ∧ .claimed 3 1 .approved ∈ trace := by
  obtain ⟨trace, s, run, facts⟩ := System.replays?_run
    (show (system sampleExecutor).replays? free
      (sampleApproval ++ sampleRound 2 failThenUnavailable ++ sampleRound 3 succeeds)
      (fun trace _ => decide (trace.countP (Event.actsOn 1) = 2 ∧
        .claimed 2 1 .approved ∈ trace ∧ .released 2 1 ∈ trace ∧ .claimed 3 1 .approved ∈ trace)) =
      true by decide)
  exact ⟨trace, s, run, of_decide_eq_true facts⟩

/-- A first handler finds no Body and releases its claim, the claim of a second one is
interrupted by a restart, and the recovery records the outcome as ambiguous. -/
theorem approved_actions_once_restarted : ∃ trace s t later u,
      (system sampleExecutor).Run (releasesRefused sampleExecutor) State.init trace s ∧
      .released 2 1 ∈ trace ∧ .claimed 3 1 .approved ∈ trace ∧
      step? sampleExecutor s .restart = some (t, [.restarted]) ∧
      (system sampleExecutor).Run (releasesRefused sampleExecutor) t later u ∧
      .recovered ∈ later ∧ (∀ h status, .claimed h 1 status ∉ later) ∧ Ambiguous u 1 := by
  obtain ⟨trace, s, run, facts⟩ := System.replays?_run
    (show (system sampleExecutor).replays? (releasesRefused sampleExecutor)
      (sampleApproval ++ sampleRound 2 { succeeds with bodies := [] } ++
        [.handle 1 .approved, .claim 3 allCalls])
      (fun trace s => decide (.released 2 1 ∈ trace ∧ .claimed 3 1 .approved ∈ trace ∧
        (s.requests.lookup 1).map Request.status = some .approved ∧
        (s.requests.lookup 1).map Request.continuationStatus = some .running)) = true by decide)
  obtain ⟨released, claimed, status, continuation⟩ := of_decide_eq_true facts
  obtain ⟨r, found, approved⟩ := map_eq_some_iff.mp status
  rw [found, map_some, Option.some.injEq] at continuation
  have recovery : (system sampleExecutor).Run (releasesRefused sampleExecutor)
      { s with handlers := ∅ } ([] ++ [.recovered])
      { s with
        handlers := ∅
        requests := recoverInterruptedContinuations s.requests s.now true } :=
    .tail (a := .recover true) (.refl _) trivial rfl
  obtain ⟨unclaimed, ambiguous⟩ := (approved_actions_once sampleExecutor run).2.2.2.2 1 r found
    approved continuation _ _ rfl _ _ recovery
  exact ⟨trace, s, _, _, _, run, released, claimed, rfl, recovery, mem_singleton_self _,
    unclaimed, ambiguous (mem_singleton_self _)⟩

/-- Two handlers have tried to claim the request. -/
theorem approved_held_once_raced : ∃ trace s, (system sampleExecutor).Run free State.init trace s ∧
    (s.handlers.lookup 2).bind HandlerPc.holds = some 1 ∧
    {h | ∃ pc, s.handlers.lookup h = some pc ∧ pc.holds = some 1}.Subsingleton := by
  obtain ⟨trace, s, run, facts⟩ := System.replays?_run
    (show (system sampleExecutor).replays? free (sampleApproval ++
        [.handle 1 .approved, .handle 1 .approved, .claim 2 allCalls, .claim 3 allCalls])
      (fun _ s => decide ((s.handlers.lookup 2).bind HandlerPc.holds = some 1 ∧
        (s.requests.lookup 1).map Request.status = some .approved)) = true by decide)
  obtain ⟨holds, status⟩ := of_decide_eq_true facts
  obtain ⟨r, found, approved⟩ := map_eq_some_iff.mp status
  exact ⟨trace, s, run, holds, approved_held_once run found approved⟩

end NeonDoll.Permission
