import NeonDoll.DollMind.Release
import NeonDoll.Permission.Continuation

/-!
# Effects of a step on requests and claims

What one step can do to the rows and to the handlers, said once.  The invariants of a run are
derived from it and do not look into the operations again.
-/

namespace NeonDoll.Permission

open Lib Transition DollMind List AList Bool Requests

/-! ## What the operations do to the table -/

/-- Some pending rows have been decided, with targets that `P` admits for them, and nothing else
has changed. -/
@[grind] def Settles (P : RequestID → Status → Prop) (s t : Requests) : Prop :=
  (∀ id, s.lookup id = none → t.lookup id = none) ∧
    ∀ id r, s.lookup id = some r → ∃ r', t.lookup id = some r' ∧
      (r' = r ∨ r.status = .pending ∧ ∃ target now authority, P id target ∧
        r' = Requests.decided target now authority r)

/-- The rows are filed under their identifiers. -/
@[grind] def Keyed (table : Requests) : Prop := ∀ id r, table.lookup id = some r → r.id = id

/-- The statuses that rows of the table can get at a time: an overdue row only expires. -/
def Timely (now : Time) (s : Requests) (id : RequestID) (target : Status) : Prop :=
  target ≠ .pending ∧
    (Keyed s → ∀ r, s.lookup id = some r → r.expiresAt ≤ now → target = .expired)

theorem timely_expired (now : Time) (s : Requests) (id : RequestID) : Timely now s id .expired :=
  ⟨nofun, fun _ _ _ _ => rfl⟩

variable {r : Request}

theorem Timely.of_lt {id : RequestID} (found : s.lookup id = some r) (early : now < r.expiresAt)
    (final : target ≠ .pending) : Timely now s r.id target := by
  refine ⟨final, fun keyed r' found' overdue => ?_⟩
  rw [keyed id r found, found] at found'
  cases found'
  exact absurd early (Nat.not_lt.mpr overdue)

namespace Settles

variable {P : RequestID → Status → Prop} {s t u : Requests}

theorem refl (s : Requests) : Settles P s s :=
  ⟨fun _ => id, fun _ r found => ⟨r, found, .inl rfl⟩⟩

theorem trans (final : ∀ id target, P id target → target ≠ .pending) (first : Settles P s t)
    (second : Settles P t u) : Settles P s u := by
  refine ⟨fun id absent => second.1 id (first.1 id absent), ?_⟩
  intro id r found
  obtain ⟨r', found', change⟩ := first.2 id r found
  obtain ⟨r'', found'', change'⟩ := second.2 id r' found'
  refine ⟨r'', found'', ?_⟩
  rcases change' with same | ⟨pending, _⟩
  · rw [same]
    exact change
  rcases change with _ | ⟨_, target, _, _, admitted, eq⟩
  · grind
  · rw [eq] at pending
    exact absurd pending (final id target admitted)

theorem mono (settles : Settles P s t)
    (implies : ∀ id target, P id target → Q id target) : Settles Q s t := by
  refine ⟨settles.1, fun id r found => ?_⟩
  obtain ⟨r', found', same | ⟨pending, target, now, authority, allowed, eq⟩⟩ := settles.2 id r found
  · exact ⟨r', found', .inl same⟩
  · exact ⟨r', found', .inr ⟨pending, target, now, authority, implies id target allowed, eq⟩⟩

theorem origin (settles : Settles P s t) {id : RequestID} (found : t.lookup id = some r) :
    ∃ before, s.lookup id = some before ∧ r.ownerID = before.ownerID ∧ r.id = before.id := by
  cases old : s.lookup id with
  | none =>
    rw [settles.1 id old] at found
    cases found
  | some before =>
    obtain ⟨_, found', change⟩ := settles.2 id before old
    rw [found] at found'
    cases found'
    refine ⟨before, rfl, ?_⟩
    rcases change with same | ⟨_, _, _, _, _, eq⟩
    · rw [same]
      exact ⟨rfl, rfl⟩
    · rw [eq]
      exact ⟨rfl, rfl⟩

theorem keyed (settles : Settles P s t) (keyed : Keyed s) : Keyed t := by
  intro id r found
  obtain ⟨before, old, _, same⟩ := settles.origin found
  rw [same]
  exact keyed id before old

/-- A status that a row did not have before is one that `P` admits. -/
theorem admitted (settles : Settles P s t) {id : RequestID} (found : t.lookup id = some r)
    (changed : ∀ before, s.lookup id = some before → before.status ≠ r.status) : P id r.status := by
  obtain ⟨before, old, _⟩ := settles.origin found
  obtain ⟨_, found', change⟩ := settles.2 id before old
  rw [found] at found'
  cases found'
  rcases change with same | ⟨_, target, now, authority, admitted, eq⟩
  · rw [same] at changed
    exact absurd rfl (changed before old)
  · rw [eq]
    exact admitted

end Settles

section Manager

variable {P : RequestID → Status → Prop} {id : RequestID} {now : Time} {authority : Text}
    {target : Status}

theorem transition_settles (admitted : P current.id target) :
    Settles P s (transition s current target authority now calls).1 := by
  rw [transition]
  split
  · rcases updateWhere_cases s current.id (fun r => r.status = .pending)
      (decided target now authority) with ⟨_, _⟩ | ⟨r, _, _, _⟩
    all_goals grind [Requests.transition]
  · exact .refl s

theorem lookup_of_loadRequest (loaded : loadRequest s id ok = .ok r) : s.lookup id = some r := by
  unfold loadRequest at loaded
  split at loaded
  · split at loaded
    · cases loaded
    · rename_i found
      rw [found, Except.ok.inj loaded]
  · cases loaded

theorem resolve_settles (admitted : ∀ r, s.lookup id = some r →
      (now < r.expiresAt → P r.id target) ∧ P r.id .expired) :
    Settles P s (resolve s id target authority now calls).1 := by
  grind [lookup_of_loadRequest, transition_settles, resolve]

theorem resolve_ok (ended : resolve s id target authority now calls = (t, .ok r)) :
    ∃ current, s.lookup id = some current ∧
      (current.status = target ∨ current.status = .pending ∧ now < current.expiresAt) := by
  grind [lookup_of_loadRequest, resolve]

theorem expire_settles (admitted : ∀ id, P id .expired) :
    Settles P s (expire s id now calls).1 := by
  unfold expire
  split
  · exact .refl s
  split
  · exact .refl s
  split
  · exact .refl s
  split
  · exact .refl s
  · exact transition_settles (admitted _)

theorem expireIfDue_settles (admitted : ∀ id, P id .expired) :
    Settles P s (expireIfDue s current now calls).1 := by
  grind [transition_settles, expireIfDue]

theorem get_settles (admitted : ∀ id, P id .expired) : Settles P s (get s id now calls).1 := by
  unfold get
  split
  · exact .refl s
  split
  · exact .refl s
  · exact expireIfDue_settles admitted

theorem get_row (keyed : Keyed s)
    (ended : get s id now calls = (t, .ok r)) : t.lookup id = some r := by
  rw [get] at ended
  split at ended
  · cases ended
  split at ended
  · cases ended
  rename_i current loaded
  have found := lookup_of_loadRequest loaded
  have key := keyed id current found
  rw [expireIfDue] at ended
  split at ended
  · cases ended
    exact found
  rw [← key]
  split at ended
  · grind [lookup_of_loadRequest]
  · grind [lookup_of_loadRequest, transition]

theorem listPending_settles (admitted : ∀ id, P id .expired)
    (final : ∀ id target, P id target → target ≠ .pending) (rows : List (Request × Calls)) :
    Settles P s (listPending s now rows).1 := by
  induction rows generalizing s with
  | nil => exact .refl s
  | cons row rest ih =>
    obtain ⟨current, calls⟩ := row
    have head : Settles P s (expireIfDue s current now calls).1 :=
      expireIfDue_settles admitted
    rw [listPending]
    split
    · grind
    rename_i t _ eq
    rw [eq] at head
    have tail : Settles P t (listPending t now rest).1 := ih
    split
    all_goals
      rename_i eq'
      rw [eq'] at tail
      exact head.trans final tail

end Manager

/-! ## Effects of a step -/

def claimedRow (now : Time) (r : Request) : Request :=
  { r with continuationStatus := .running, continuationUpdatedAt := some now }

def releasedRow (now : Time) (r : Request) : Request :=
  { r with continuationStatus := .ready, continuationUpdatedAt := some now }

/-- The event concerns no claim. -/
def Event.silent : Event → Bool
  | .created _ | .approved _ _ | .called _ => true
  | .executed _ _ _ | .claimed _ _ _ | .released _ _ | .completed _ _ | .recovered | .restarted =>
    false

/-- A handler has just started, or stands where it stood. -/
def KeepsHandlers (s t : State) : Prop :=
  ∀ h pc, t.handlers.lookup h = some pc →
    (∃ id, pc = .claiming id) ∨ s.handlers.lookup h = some pc

/-- The effects of the step `a` from `s` to `t`. -/
inductive Effect (cfg : ExecutorConfig) (s : State) (a : Action) (es : List Event) (t : State) :
    Prop where
  | quiet (requests : t.requests = s.requests) (handlers : KeepsHandlers s t)
      (events : ∀ e ∈ es, e.silent = true)
  | restarted (action : a = .restart) (requests : t.requests = s.requests)
      (handlers : t.handlers = ∅)
      (events : es = [.restarted])
  | created (r : Request) (fresh : s.requests.lookup r.id = none) (pending : r.status = .pending)
      (requests : t.requests = s.requests.insert r.id r) (handlers : t.handlers = s.handlers)
      (events : ∀ e ∈ es, e.silent = true) (announced : .created r.id ∈ es)
  | decided (rows : Settles (Timely s.now s.requests) s.requests t.requests)
      (handlers : t.handlers = s.handlers)
      (events : ∀ e ∈ es, e.silent = true)
  | claimed (h : HandlerID) (id : RequestID) (r : Request)
      (found : s.requests.lookup id = some r) (claimable : Requests.claimable r = true)
      (requests : t.requests = s.requests.insert id (claimedRow s.now r))
      (handlers : ∀ h', h' ≠ h → t.handlers.lookup h' = s.handlers.lookup h')
      (holder : ∀ pc, t.handlers.lookup h = some pc →
        (∃ outcome, pc = .completing id outcome) ∨
          pc = .executing (claimedRow s.now r) ∧ r.status = .approved)
      (events : es = [.claimed h id r.status])
  | executed (h : HandlerID) (r : Request) (world : World) (result : ToolResult)
      (calls : List ExternalCall) (action : a = .execute h world)
      (holder : s.handlers.lookup h = some (.executing r))
      (executed : executeApproved cfg world r = (.result result, calls))
      (requests : t.requests = s.requests)
      (handlers : t.handlers = s.handlers.insert h (if releases result then .releasing r.id
        else .completing r.id (outcomeOf cfg result)))
      (events : es = [.executed h r calls])
  | released (h : HandlerID) (id : RequestID) (r : Request)
      (holder : s.handlers.lookup h = some (.releasing id))
      (found : s.requests.lookup id = some r) (approved : r.status = .approved)
      (running : r.continuationStatus = .running)
      (requests : t.requests = s.requests.insert id (releasedRow s.now r))
      (handlers : t.handlers = s.handlers.erase h) (events : es = [.released h id])
  | completed (h : HandlerID) (id : RequestID) (outcome : ContinuationOutcome) (r : Request)
      (holder : s.handlers.lookup h = some (.completing id outcome))
      (found : s.requests.lookup id = some r) (running : r.continuationStatus = .running)
      (requests : t.requests = s.requests.insert id
        (Requests.finished (outcomeStatus outcome) outcome s.now r))
      (handlers : t.handlers = s.handlers.erase h) (events : es = [.completed h id])
  | recovered (requests : t.requests = s.requests.recover ambiguousOutcome s.now)
      (handlers : t.handlers = s.handlers) (events : es = [.recovered])

section Steps

variable {h : HandlerID} {id : RequestID}

theorem silent_nil : ∀ e ∈ ([] : List Event), e.silent = true := fun _ member => nomatch member

theorem keepsHandlers_of_eq (handlers : t.handlers = s.handlers) : KeepsHandlers s t := by
  intro h pc found
  rw [handlers] at found
  exact .inr found

theorem quiet_without : Effect cfg s a [] ((s.withRequests s.requests).without h) := by
  refine .quiet rfl ?_ silent_nil
  intro h' pc found
  exact .inr (GoMap.lookup_erase_some found).2

theorem claimStep_effect (stepped : claimStep s h id calls = (t, es)) : Effect cfg s a es t := by
  rcases updateWhere_cases s.requests id Requests.claimable
    (claimedRow s.now) with ⟨same, _⟩ | ⟨r, found, claimable, changed⟩
  · -- No row has changed, so there is no event and the handler ends.
    have events : claimEvents s h id calls = [] := by grind [claimEvents]
    have claim : s.requests.claim id s.now = (s.requests, false) := same
    simp only [claimStep, claimContinuation, claim, events] at stepped
    cases update : calls.update with
    | false | true => grind [quiet_without]
  · have claim : s.requests.claim id s.now =
        (s.requests.insert id (claimedRow s.now r), true) := changed
    cases update : calls.update with
    | false => grind [quiet_without, claimEvents, claimStep, claimContinuation]
    | true =>
      have events : claimEvents s h id calls = [.claimed h id r.status] := by grind [claimEvents]
      simp only [claimStep, claimContinuation, update, if_true, claim, events] at stepped
      cases reload : calls.reload with
      | false =>
        simp only [loadRequest, reload, false_eq_true, if_false] at stepped
        cases stepped
        refine .claimed h id r found claimable rfl ?_ ?_ rfl
        · intro h' other
          exact lookup_erase_ne other
        intro pc here
        change (s.handlers.erase h).lookup h = some pc at here
        rw [lookup_erase] at here
        cases here
      | true =>
        simp only [loadRequest, reload, if_true, lookup_insert] at stepped
        cases stepped
        refine .claimed h id r found claimable rfl ?_ ?_ rfl
        · intro h' other
          exact lookup_insert_ne other
        intro pc here
        change (s.handlers.insert h _).lookup h = some pc at here
        rw [lookup_insert] at here
        cases here
        split
        · exact .inl ⟨_, rfl⟩
        rename_i undenied
        refine .inr ⟨rfl, ?_⟩
        have either := of_decide_eq_true claimable
        rcases either with ⟨approved, _⟩ | ⟨denied, _⟩
        · exact approved
        · exact absurd denied undenied

theorem releaseContinuation_table : (releaseContinuation requests id now calls).1 =
      if calls.update then (requests.release id now).1 else requests := by
  grind [releaseContinuation]

theorem completeContinuation_table : (completeContinuation requests id outcome now calls).1 =
      if calls.update then (requests.complete id (outcomeStatus outcome) outcome now).1
      else requests := by grind [completeContinuation]

/-- The update of a release or completion that has changed nothing reports nothing. -/
theorem settled_false (unmet : ∀ r, s.requests.lookup id = some r → p r = false) :
    settled s id calls p = false := by
  grind [settled]

theorem settled_of_update (found : s.requests.lookup id = some r) (met : p r = true) :
    settled s id calls p = calls.update := by
  unfold settled
  rw [found]
  simp [met]

theorem releaseStep_effect (here : s.handlers.lookup h = some (.releasing id))
    (stepped : releaseStep s h id calls = (t, es)) : Effect cfg s a es t := by
  simp only [releaseStep, releaseContinuation_table] at stepped
  rcases updateWhere_cases s.requests id
    (fun r => r.status = .approved ∧ r.continuationStatus = .running)
    (releasedRow s.now) with ⟨same, unmet⟩ | ⟨r, found, met, changed⟩
  · have release : s.requests.release id s.now = (s.requests, false) := same
    simp only [release, ite_self, settled_false unmet, false_eq_true, if_false] at stepped
    cases stepped
    exact quiet_without
  · have release : s.requests.release id s.now =
        (s.requests.insert id (releasedRow s.now r), true) := changed
    have conditions := of_decide_eq_true met
    have report : settled s id calls
        (fun r => r.status = .approved ∧ r.continuationStatus = .running) = calls.update :=
      settled_of_update found met
    simp only [release, report] at stepped
    cases update : calls.update with
    | false => grind [quiet_without]
    | true =>
      simp only [update, if_true] at stepped
      cases stepped
      exact .released h id r here found conditions.1 conditions.2 rfl rfl rfl

theorem completeStep_effect
    (here : s.handlers.lookup h = some (.completing id outcome))
    (stepped : completeStep s h id outcome calls = (t, es)) : Effect cfg s a es t := by
  simp only [completeStep, completeContinuation_table] at stepped
  rcases updateWhere_cases s.requests id (fun r => r.continuationStatus = .running)
    (finished (outcomeStatus outcome) outcome s.now) with
    ⟨same, unmet⟩ | ⟨r, found, met, changed⟩
  · have complete : s.requests.complete id (outcomeStatus outcome) outcome s.now =
        (s.requests, false) := same
    simp only [complete, ite_self, settled_false unmet, false_eq_true, if_false] at stepped
    cases stepped
    exact quiet_without
  · have complete : s.requests.complete id (outcomeStatus outcome) outcome s.now =
        (s.requests.insert id (finished (outcomeStatus outcome) outcome s.now r), true) :=
      changed
    have report : settled s id calls (fun r => r.continuationStatus = .running) = calls.update :=
      settled_of_update found met
    simp only [complete, report] at stepped
    cases update : calls.update with
    | false => grind [quiet_without]
    | true =>
      simp only [update, if_true] at stepped
      cases stepped
      exact .completed h id outcome r here found (of_decide_eq_true met) rfl rfl rfl

theorem createStep_cases
    (stepped : createStep manager s input ok = (t, es)) : t.handlers = s.handlers ∧
      (t.requests = s.requests ∧ es = [] ∨
        validateCreate manager input s.now = true ∧ s.requests.lookup s.nextID = none ∧
          t.requests = s.requests.insert s.nextID (newRequest input s.nextID s.now) ∧
          es = [.created s.nextID]) := by
  rw [createStep] at stepped
  split at stepped
  · rename_i _ r created
    cases stepped
    refine ⟨rfl, .inr ?_⟩
    rw [create] at created
    split at created
    · rename_i valid
      split at created
      · cases created
      rename_i inserted
      cases created
      cases ok with
      | false => cases inserted
      | true =>
        rw [if_pos rfl, Requests.create] at inserted
        split at inserted
        · cases inserted
        · rename_i fresh
          cases inserted
          exact ⟨valid, lookup_eq_none.mpr fresh, rfl, rfl⟩
    · cases created
  · grind [create]

theorem createStep_effect (silent : ∀ e ∈ before, e.silent = true)
    (stepped : createStep manager s input ok = (t, es)) : Effect cfg s a (before ++ es) t := by
  obtain ⟨handlers, ⟨same, rfl⟩ | ⟨_, fresh, inserted, rfl⟩⟩ := createStep_cases stepped
  · rw [append_nil]
    exact .quiet same (keepsHandlers_of_eq handlers) silent
  refine .created (newRequest input s.nextID s.now) fresh rfl inserted handlers ?_
    (mem_append_right before (mem_singleton_self _))
  intro e member
  rcases mem_append.mp member with earlier | now
  · exact silent e earlier
  · cases mem_singleton.mp now
    rfl

theorem silent_called (calls : List ExternalCall) :
    ∀ e ∈ [Event.called calls], e.silent = true := by
  intro e member
  cases mem_singleton.mp member
  rfl

/-- A tool call changes the table only by creating a request. -/
theorem callStep_effect
    (stepped : callStep cfg s correlation call tool world = (t, es)) : Effect cfg s a es t := by
  unfold callStep at stepped
  split at stepped
  · split at stepped
    · cases stepped
      exact .quiet rfl (keepsHandlers_of_eq rfl) (silent_called _)
    · cases stepped
      exact createStep_effect (silent_called _) rfl
  · cases stepped
    exact .quiet rfl (keepsHandlers_of_eq rfl) (silent_called _)

theorem executeStep_effect (action : a = .execute h world)
    (here : s.handlers.lookup h = some (.executing r))
    (stepped : executeStep cfg s h r world = (t, es)) : Effect cfg s a es t := by
  obtain ⟨result, calls, executed⟩ := executeApproved_result cfg world r
  rw [executeStep, executed] at stepped
  cases stepped
  exact .executed h r world result calls action here executed rfl rfl rfl

theorem handle_effect
    (stepped : step? cfg s (.handle id status) = some (t, es)) : Effect cfg s a es t := by
  simp only [step?] at stepped
  split at stepped
  · cases stepped
    refine .quiet rfl ?_ silent_nil
    intro h' pc found
    rcases GoMap.lookup_insert_some found with ⟨-, rfl⟩ | ⟨-, found⟩
    · exact .inl ⟨id, rfl⟩
    · exact .inr found
  · cases stepped
    exact .quiet rfl (keepsHandlers_of_eq rfl) silent_nil

theorem silent_approvedEvents : ∀ e ∈ approvedEvents table id authority, e.silent = true := by
  intro e member
  rw [approvedEvents] at member
  split at member
  · cases member
  split at member
  · cases mem_singleton.mp member
    rfl
  · cases member

theorem step_effect (stepped : step? cfg s a = some (t, es)) : Effect cfg s a es t := by
  cases a with
  | tick elapsed =>
    cases stepped
    exact .quiet rfl (keepsHandlers_of_eq rfl) silent_nil
  | call correlation call tool world => exact callStep_effect (Option.some.inj stepped)
  | create input ok => exact createStep_effect silent_nil (Option.some.inj stepped)
  | get id calls =>
    cases stepped
    exact .decided (get_settles (timely_expired _ _)) rfl silent_nil
  | listPending calls =>
    cases stepped
    exact .decided (listPending_settles (timely_expired _ _) (fun _ _ => And.left) _) rfl silent_nil
  | approve id authority calls =>
    cases stepped
    exact .decided (resolve_settles fun r found => ⟨fun early => .of_lt found early nofun,
      timely_expired _ _ _⟩) rfl silent_approvedEvents
  | deny id authority calls | cancel id calls =>
    cases stepped
    exact .decided (resolve_settles fun r found => ⟨fun early => .of_lt found early nofun,
      timely_expired _ _ _⟩) rfl silent_nil
  | expire id calls =>
    cases stepped
    exact .decided (expire_settles (timely_expired _ _)) rfl silent_nil
  | handle id status => exact handle_effect stepped
  | claim h calls => grind [claimStep_effect, step?]
  | execute h world => grind [executeStep_effect, step?]
  | settle h calls => grind [releaseStep_effect, completeStep_effect, step?]
  | recover ok =>
    cases ok with
    | false =>
      cases stepped
      exact .quiet rfl (keepsHandlers_of_eq rfl) silent_nil
    | true =>
      cases stepped
      exact .recovered rfl rfl rfl
  | restart =>
    cases stepped
    exact .restarted rfl rfl rfl rfl

end Steps

end NeonDoll.Permission
