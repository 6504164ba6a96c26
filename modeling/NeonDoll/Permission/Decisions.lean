import NeonDoll.Permission.Claims
import NeonDoll.SessionEvent.Event

/-!
# Decisions on permission requests

`Approve` and `Deny` of the manager are called by `DecisionService.Resolve` of
`Core/PermissionRequest/decision.go` and by `PermissionBridge.Decide` of
`Core/SessionEvent/permission.go` only.  Both load the request, compare its Owner with the actor,
and call the manager afterwards; anything may happen in between.
-/

namespace NeonDoll.Permission

open Lib Text Transition DollMind GoMap SessionEvent

inductive DecisionError where
  | invalidRequest
  | unauthenticated
  | manager (e : ManagerError)
  | expired
  | unauthorized
  deriving DecidableEq

/-- A decision whose checks have passed and that the manager has not recorded yet. -/
structure Ruling where
  id : RequestID
  actor : Text
  decision : Decision
  deriving DecidableEq

/-- The checks that both services make: the request is loaded, has not expired, and belongs to
the actor.  `check` is what the service asks of it afterwards. -/
def checkOwner (s : Requests) (ruling : Ruling) (now : Time) (calls : Calls)
    (check : Request → Except DecisionError Ruling) : Requests × Except DecisionError Ruling :=
  match get s ruling.id now calls with
  | (t, .error e) => (t, .error (.manager e))
  | (t, .ok r) =>
    (t, if r.status = .expired then .error .expired
      else if ruling.actor ≠ r.ownerID then .error .unauthorized
      else check r)

/-- The answers that `DecisionService.Resolve` gets. -/
structure ResolveCalls where
  /-- The Owner that `AuthenticateOwner` returns. -/
  owner : Option Text
  get : Calls
  authorizeDoll : Bool

/-- `DecisionService.Resolve` up to `Approve` or `Deny`. -/
def resolveDecision (s : Requests) (id : RequestID) (decision : Decision) (now : Time)
    (calls : ResolveCalls) : Requests × Except DecisionError Ruling :=
  if id = 0 ∨ decision = .other then (s, .error .invalidRequest)
  else
    match calls.owner with
    | none => (s, .error .unauthenticated)
    | some owner =>
      if owner.trimSpace = [] then (s, .error .unauthenticated)
      else
        checkOwner s ⟨id, owner, decision⟩ now calls.get fun _ =>
          if calls.authorizeDoll then .ok ⟨id, owner, decision⟩ else .error .unauthorized

/-- `PermissionBridge.Decide` up to `Approve` or `Deny`.  `admitted` says whether the acting
principal is a configured Owner, takes part in the session, and the request was presented there. -/
def decidePermission (s : Requests) (payload : PermissionDecidedPayload) (acting : Text)
    (admitted : Bool) (now : Time) (calls : Calls) : Requests × Except DecisionError Ruling :=
  if admitted then
    checkOwner s ⟨payload.requestID, acting, payload.decision⟩ now calls fun r =>
      if payload.decision = .other then .error .invalidRequest
      else .ok ⟨r.id, acting, payload.decision⟩
  else (s, .error .unauthorized)

/-! ## The services around the manager -/

/-- The manager and its handlers, with the decisions under way. -/
structure Office where
  state : State
  rulings : GoMap Nat Ruling
  nextCall : Nat

inductive OfficeAction where
  | decide (id : RequestID) (decision : Decision) (calls : ResolveCalls)
  | decidePresented (payload : PermissionDecidedPayload) (acting : Text) (admitted : Bool)
      (calls : Calls)
  /-- `Approve` or `Deny` of a decision whose checks have passed. -/
  | record (call : Nat) (calls : Calls)
  /-- Any other step of the manager or of a handler. -/
  | other (a : Action)

/-- The decision of a ruling, as the manager is asked for it. -/
def Ruling.action (ruling : Ruling) (calls : Calls) : Action :=
  if ruling.decision = .approve then .approve ruling.id ruling.actor calls
  else .deny ruling.id ruling.actor calls

/-- The outcome of the checks. -/
def Office.checked (o : Office) : Requests × Except DecisionError Ruling → Office
  | (t, .error _) => { o with state := o.state.withRequests t }
  | (t, .ok ruling) =>
    { state := o.state.withRequests t
      rulings := o.rulings.insert o.nextCall ruling
      nextCall := o.nextCall + 1 }

def Office.step? (cfg : ExecutorConfig) (o : Office) : OfficeAction → Option (Office × List Event)
  | .decide id decision calls =>
    some (o.checked (resolveDecision o.state.requests id decision o.state.now calls), [])
  | .decidePresented payload acting admitted calls =>
    some (o.checked (decidePermission o.state.requests payload acting admitted o.state.now calls),
      [])
  | .record call calls =>
    (o.rulings.lookup call).bind fun ruling =>
      (Permission.step? cfg o.state (ruling.action calls)).map fun (t, es) =>
        ({ o with state := t, rulings := o.rulings.erase call }, es)
  | .other (.approve _ _ _) | .other (.deny _ _ _) => none
  -- A restart ends the calls that are under way.
  | .other .restart =>
    (Permission.step? cfg o.state .restart).map fun (t, es) =>
      ({ o with state := t, rulings := ∅ }, es)
  | .other a =>
    (Permission.step? cfg o.state a).map fun (t, es) => ({ o with state := t }, es)

def office (cfg : ExecutorConfig) : System Office OfficeAction Event :=
  ⟨⟨State.init, ∅, 1⟩, Office.step? cfg⟩

/-! ## Rulings are the Owner's -/

/-- The actor is the Owner of the request. -/
def Ruling.Owned (s : Requests) (ruling : Ruling) : Prop :=
  ∃ r, s.lookup ruling.id = some r ∧ r.ownerID = ruling.actor

variable {cfg : ExecutorConfig} {s t : State} {o o' : Office} {ruling : Ruling}

theorem Ruling.Owned.kept (owned : ruling.Owned s.requests) (kept : RequestsKept s t) :
    ruling.Owned t.requests := by
  obtain ⟨r, found, owner⟩ := owned
  obtain ⟨r', found', row⟩ := kept.rows ruling.id r found
  exact ⟨r', found', row.owner.trans owner⟩

/-- What the checks of a service do: the table is the one that `Get` leaves, and a ruling is on a
request of its actor. -/
def Checks (s : State) (checked : Requests × Except DecisionError Ruling) : Prop :=
  (checked.1 = s.requests ∨ ∃ id calls, checked.1 = (get s.requests id s.now calls).1) ∧
    ∀ ruling, checked.2 = .ok ruling → ruling.Owned checked.1

theorem checks_refused (s : State) (e : DecisionError) : Checks s (s.requests, .error e) :=
  ⟨.inl rfl, nofun⟩

theorem checkOwner_checks (keyed : Keyed s.requests)
    {check : Request → Except DecisionError Ruling}
    (same : ∀ r passed, check r = .ok passed → r.id = ruling.id →
      passed.id = ruling.id ∧ passed.actor = ruling.actor) :
    Checks s (checkOwner s.requests ruling s.now calls check) := by
  unfold checkOwner
  split
  · rename_i t e loaded
    exact ⟨.inr ⟨ruling.id, calls, by rw [loaded]⟩, nofun⟩
  · rename_i t r loaded
    refine ⟨.inr ⟨ruling.id, calls, by rw [loaded]⟩, ?_⟩
    have row : t.lookup ruling.id = some r := get_row keyed loaded
    have key : r.id = ruling.id := by
      have settles :
          Settles (fun _ _ => True) s.requests (get s.requests ruling.id s.now calls).1 :=
        get_settles fun _ => trivial
      rw [loaded] at settles
      exact settles.keyed keyed ruling.id r row
    intro passed ended
    dsimp only at ended
    split at ended
    · cases ended
    split at ended
    · cases ended
    · rename_i owner
      obtain ⟨id, actor⟩ := same r passed ended key
      refine ⟨r, ?_, ?_⟩
      · rw [id]
        exact row
      · rw [actor]
        exact (not_not.mp owner).symm

theorem resolveDecision_checks {id : RequestID} (keyed : Keyed s.requests) :
    Checks s (resolveDecision s.requests id decision s.now calls) := by
  unfold resolveDecision
  split
  · exact checks_refused s _
  split
  · exact checks_refused s _
  split
  · exact checks_refused s _
  · refine checkOwner_checks keyed fun r passed ended _ => ?_
    split at ended
    · cases ended
      exact ⟨rfl, rfl⟩
    · cases ended

theorem decidePermission_checks (keyed : Keyed s.requests) :
    Checks s (decidePermission s.requests payload acting admitted s.now calls) := by
  unfold decidePermission
  split
  · refine checkOwner_checks keyed fun r passed ended key => ?_
    split at ended
    · cases ended
    · cases ended
      exact ⟨key, rfl⟩
  · exact checks_refused s _

/-- Every decision under way is one of the Owner of its request. -/
def Office.Owned (o : Office) : Prop :=
  ∀ call ruling, o.rulings.lookup call = some ruling → ruling.Owned o.state.requests

/-- What a step of the services is to the manager: nothing, or a step, which approves or denies
for the Owner of the request only. -/
def Office.Moves (cfg : ExecutorConfig) (o : Office) (es : List Event) (o' : Office) : Prop :=
  o'.state = o.state ∧ es = [] ∨
    ∃ a, Permission.step? cfg o.state a = some (o'.state, es) ∧
      ∀ id authority calls, a = .approve id authority calls →
        ∃ r, o.state.requests.lookup id = some r ∧ r.ownerID = authority

theorem checked_moves (keyed : Keyed o.state.requests) (owned : o.Owned)
    (checks : Checks o.state outcome) :
    o.Moves cfg [] (o.checked outcome) ∧ (o.checked outcome).Owned := by
  obtain ⟨table, ruled⟩ := checks
  have state : (o.checked outcome).state = o.state.withRequests outcome.1 := by
    unfold Office.checked
    split <;> rfl
  have moves : o.Moves cfg [] (o.checked outcome) := by
    rw [Office.Moves, state]
    rcases table with same | ⟨id, calls, got⟩
    · rw [same]
      exact .inl ⟨rfl, rfl⟩
    · rw [got]
      exact .inr ⟨.get id calls, rfl, nofun⟩
  have kept : RequestsKept o.state (o.checked outcome).state := by
    rcases moves with ⟨same, _⟩ | ⟨a, stepped, _⟩
    · rw [same]
      exact .refl _
    · exact step_kept keyed stepped
  refine ⟨moves, fun call ruling found => ?_⟩
  have old : o.rulings.lookup call = some ruling ∨ outcome.2 = .ok ruling := by
    rcases outcome with ⟨requests, e | passed⟩
    · exact .inl found
    · change (o.rulings.insert o.nextCall passed).lookup call = some ruling at found
      rcases lookup_insert_some found with ⟨_, eq⟩ | before
      · exact .inr (congrArg Except.ok eq.symm)
      · exact .inl before.2
  rcases old with before | passed
  · exact (owned call ruling before).kept kept
  · rw [state]
    exact ruled ruling passed

/-- The decisions that a step of the manager leaves under way stay the Owners'. -/
theorem Office.Owned.kept (owned : o.Owned) (kept : RequestsKept o.state o'.state)
    (rulings : ∀ call ruling, o'.rulings.lookup call = some ruling →
      o.rulings.lookup call = some ruling) : o'.Owned :=
  fun call ruling found => (owned call ruling (rulings call ruling found)).kept kept

/-- One step of the services. -/
theorem Office.step_moves (keyed : Keyed o.state.requests) (owned : o.Owned)
    (stepped : Office.step? cfg o a = some (o', es)) : o.Moves cfg es o' ∧ o'.Owned := by
  cases a with
  | decide id decision calls =>
    cases stepped
    exact checked_moves keyed owned (resolveDecision_checks keyed)
  | decidePresented payload acting admitted calls =>
    cases stepped
    exact checked_moves keyed owned (decidePermission_checks keyed)
  | record call calls =>
    obtain ⟨ruling, found, recorded⟩ := Option.bind_eq_some_iff.mp stepped
    obtain ⟨⟨t, events⟩, moved, ended⟩ := Option.map_eq_some_iff.mp recorded
    cases ended
    refine ⟨.inr ⟨_, moved, fun id authority calls' eq => ?_⟩,
      owned.kept (step_kept keyed moved) fun _ _ here => (lookup_erase_some here).2⟩
    rw [Ruling.action] at eq
    split at eq
    · cases eq
      exact owned call ruling found
    · cases eq
  | other b =>
    have passed : ∀ {rulings : GoMap Nat Ruling},
        (∀ call ruling, rulings.lookup call = some ruling →
          o.rulings.lookup call = some ruling) →
        (∀ id authority calls, b ≠ .approve id authority calls) →
        (Permission.step? cfg o.state b).map (fun (t, events) =>
          ({ o with state := t, rulings := rulings }, events)) = some (o', es) →
        o.Moves cfg es o' ∧ o'.Owned := by
      intro rulings fewer undecided stepped
      obtain ⟨⟨t, events⟩, moved, ended⟩ := Option.map_eq_some_iff.mp stepped
      cases ended
      exact ⟨.inr ⟨b, moved, fun id authority calls eq => absurd eq (undecided _ _ _)⟩,
        owned.kept (step_kept keyed moved) fewer⟩
    cases b with
    | approve | deny => cases stepped
    | restart => exact passed (fun _ _ found => by cases found) nofun stepped
    | tick | call | create | get | listPending | cancel | expire | handle | claim | execute
    | settle | recover => exact passed (fun _ _ => id) nofun stepped

end NeonDoll.Permission
