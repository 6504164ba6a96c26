import NeonDoll.Permission.AtMostOnce
import NeonDoll.SessionEvent.Delivery
import NeonDoll.SessionEvent.Permission

/-!
# Presentations that stay usable

`Present` of `Core/SessionEvent/permission.go` together with the delivery it makes or retries.
The first presentation of a request is stored with its session and its delivery, and every later
`Present` comes back to it.  Sessions close, participants leave and deliveries fail, so a pending
request can be left with a presentation in which its Owner cannot decide.
-/

namespace NeonDoll.SessionEvent

open Lib Transition Text Permission ExternalIdentity Session DollMind GoMap

/-- The state of the bridge with the deliveries; `presented` is the delivery of each row of
`presentations`. -/
structure Desk where
  state : State
  deliveries : Deliveries
  presented : GoMap RequestID Text

abbrev Desk.requests (s : Desk) : Requests := s.state.permissions.requests

/-- What a new delivery is made of besides its request and session. -/
structure Drawn where
  deliveryID : Text
  eventID : Text
  timestamp : Option Time
  payload : RawMessage
  now : Int
  named : trimSpace deliveryID ≠ []

/-- No delivery has one of the identifiers. -/
def Drawn.fresh (drawn : Drawn) (rows : Deliveries) : Bool :=
  drawn.deliveryID ∉ rows ∧ rows.entries.all fun row => row.2.event.id ≠ drawn.eventID

/-! ## Attempts -/

/-- The outcome of each call of an attempt. -/
structure AttemptCalls where
  check : CheckCalls
  listError : Text
  sent : Sent
  now : Int
  update : UpdateCalls

/-- `attempt`; the error that goes with the delivery is the one it records. -/
def attempt (sessions : Store) (rows : Deliveries) (delivery : Delivery) (calls : AttemptCalls) :
    Deliveries × Option Delivery :=
  let outcome := ((delivery.check sessions calls.check).outcome calls.listError).getD
    calls.sent.outcome
  updateDelivery rows delivery.id outcome.status outcome.error calls.now calls.update

/-- `RetryDelivery`; `load` says whether the delivery can be read. -/
def retryDelivery (sessions : Store) (rows : Deliveries) (id : Text) (load : Bool)
    (calls : AttemptCalls) : Deliveries × Option Delivery :=
  if trimSpace id = [] ∨ load = false then (rows, none)
  else
    match rows.lookup id with
    | none => (rows, none)
    | some delivery =>
      if delivery.status ≠ .pending then (rows, some delivery)
      else attempt sessions rows delivery calls

/-! ## Presentation -/

/-- The delivery that `EmitPermission` creates for a request in a session. -/
def permissionDelivery (r : Request) (session : InteractionSession) (sessionID : SessionID)
    (drawn : Drawn) : Delivery where
  id := drawn.deliveryID
  event :=
    { version := version
      id := drawn.eventID
      sessionID := sessionID
      type := .permissionRequested
      timestamp := drawn.timestamp
      correlatedRequest := some r.id
      payload := drawn.payload }
  targetPrincipalID := r.ownerID
  owner := session.owner
  status := .pending
  error := []
  createdAt := drawn.now
  updatedAt := drawn.now

/-- `Present` with the deliveries.  The row of the presentation and the delivery are created in
one transaction, which fails if an identifier is taken. -/
def Desk.present (valid : RawMessage → Bool) (s : Desk) (id : RequestID) (calls : PresentCalls)
    (drawn : Drawn) (load : Bool) (sending : AttemptCalls) : Desk × Option Delivery :=
  match SessionEvent.present valid s.state id
      { calls with createDelivery := calls.createDelivery && drawn.fresh s.deliveries } with
  | (t, some _) => ({ s with state := t }, none)
  | (t, none) =>
    match s.presented.lookup id with
    | some deliveryID =>
      let (rows, delivery) := retryDelivery t.sessions s.deliveries deliveryID load sending
      ({ s with state := t, deliveries := rows }, delivery)
    | none =>
      match t.presentations.lookup id with
      | none => ({ s with state := t }, none)
      | some sessionID =>
        match t.permissions.requests.lookup id, t.sessions.sessions.lookup sessionID with
        | some r, some session =>
          let delivery := permissionDelivery r session sessionID drawn
          let (rows, result) := attempt t.sessions
            (s.deliveries.insert delivery.id delivery) delivery sending
          (⟨t, rows, s.presented.insert id delivery.id⟩, result)
        | _, _ => ({ s with state := t }, none)

/-! ## Histories -/

inductive DeskAction where
  /-- An operation of the permission request manager. -/
  | manager (action : Permission.Action)
  | openSession (owner : Owner) (ref : Text) (id : SessionID) (ok : Bool)
  | closeSession (id : SessionID) (ok : Bool)
  | bind (sessionID : SessionID) (source : ParticipantSource) (ok : Bool)
  | reconcile (configured : List ParticipantSource)
  | configure (identities : Identities)
  | present (id : RequestID) (calls : PresentCalls) (drawn : Drawn) (load : Bool)
      (sending : AttemptCalls)
  /-- `Emit` creates a delivery. -/
  | emit (delivery : Delivery) (ok : Bool)
  /-- An attempt of `Emit`, `RetryDelivery` or `ReplayPending` that may have begun earlier records
  its outcome. -/
  | record (id : Text) (outcome : Outcome) (now : Int) (calls : UpdateCalls)

/-- The operations of the manager; what continues a decided request leaves the others alone. -/
def ofManager : Permission.Action → Bool
  | .tick _ | .create _ _ | .get _ _ | .listPending _ | .approve _ _ _ | .deny _ _ _
  | .cancel _ _ | .expire _ _ => true
  | _ => false

def Desk.withSessions (s : Desk) (sessions : Store) : Desk :=
  { s with state := { s.state with sessions := sessions } }

def deskStep? (cfg : ExecutorConfig) (s : Desk) : DeskAction → Option (Desk × List Unit)
  | .manager a =>
    if ofManager a then
      (Permission.step? cfg s.state.permissions a).map fun result =>
        ({ s with state := { s.state with permissions := result.1 } }, [])
    else none
  | .openSession owner ref id ok =>
    some (s.withSessions (Session.create s.state.sessions owner ref id ok).1, [])
  | .closeSession id ok => some (s.withSessions (close s.state.sessions id ok).1, [])
  | .bind sessionID source ok =>
    some (s.withSessions (bindResolvedParticipant s.state.sessions sessionID source ok).1, [])
  | .reconcile configured => some (s.withSessions (s.state.sessions.reconcile configured), [])
  | .configure identities =>
    some ({ s with state := { s.state with identities := identities } }, [])
  | .present id calls drawn load sending =>
    some ((s.present cfg.manager.validJSON id calls drawn load sending).1, [])
  | .emit delivery ok =>
    some ({ s with deliveries := (insertDelivery s.deliveries delivery ok).getD s.deliveries }, [])
  | .record id outcome now calls =>
    some ({ s with
      deliveries := (updateDelivery s.deliveries id outcome.status outcome.error now calls).1 },
      [])

def Desk.init (identities : Identities) : Desk :=
  ⟨⟨identities, Store.empty, Permission.State.init, ∅⟩, ∅, ∅⟩

def deskSystem (cfg : ExecutorConfig) (identities : Identities) : System Desk DeskAction Unit :=
  ⟨Desk.init identities, deskStep? cfg⟩

/-! ## A presentation in which the Owner can decide -/

def presentFaultFree : PresentCalls :=
  ⟨⟨true, true, true⟩, true, true, true, fun _ => true, true, true, true⟩

/-- Every call of an attempt succeeds, and the adapter acknowledges. -/
def attemptFaultFree (now : Int) : AttemptCalls := ⟨⟨true, true⟩, [], .ok, now, ⟨true, true⟩⟩

def decideFaultFree : DecideCalls :=
  ⟨true, true, true, ⟨true, true, true⟩, ⟨true, true, true⟩, true⟩

/-- A fault-free `Present` returns a delivery that is not failed, in an active session from which
the decision of the Owner is accepted. -/
def Desk.Presents (valid : RawMessage → Bool) (s : Desk) (id : RequestID) (owner : Principal)
    (drawn : Drawn) (now : Int) : Prop :=
  ∃ t delivery, s.present valid id presentFaultFree drawn true (attemptFaultFree now) =
      (t, some delivery) ∧
    delivery.status ≠ .failed ∧ t.state.available delivery.event.sessionID true = true ∧
    ∀ decision, decision = .approve ∨ decision = .deny →
      ∃ resolved, (bridgeDecide t.state delivery.event.sessionID owner ⟨id, decision⟩
        decideFaultFree).2 = .ok resolved

/-- The stored presentation of a request has not failed, and its session is active with the Owner
in it; if there is none, then its event can be encoded. -/
structure Desk.Usable (valid : RawMessage → Bool) (s : Desk) (id : RequestID) (r : Request) :
    Prop where
  fresh : s.state.presentations.lookup id = none → encodable valid r = true
  stored : ∀ sessionID deliveryID delivery, s.state.presentations.lookup id = some sessionID →
    s.presented.lookup id = some deliveryID → s.deliveries.lookup deliveryID = some delivery →
    delivery.status ≠ .failed ∧ s.state.available sessionID true = true ∧
      (sessionID, r.ownerID) ∈ s.state.sessions.participants

/-! ## What a history keeps -/

/-- The owner and the question are as `Create` stores them. -/
structure Asked (r : Request) : Prop where
  trimmed : trimSpace r.ownerID = r.ownerID
  owned : r.ownerID ≠ []
  question : trimSpace (questionOf r) ≠ []

theorem asked_newRequest (valid : validateCreate manager input now = true) (id : RequestID) :
    Asked (newRequest input id now) := by
  rw [validateCreate] at valid
  constructor <;> grind [newRequest, questionOf, trimSpace_trimSpace]

/-- The row asks the same of the same Owner. -/
@[grind] structure SameAsk (r r' : Request) : Prop where
  id : r'.id = r.id
  owner : r'.ownerID = r.ownerID
  question : r'.question = r.question
  action : r'.action = r.action

/-- Rows stay, and a new one has the next identifier. -/
structure KeepsRows (p q : Permission.State) : Prop where
  supply : p.nextID ≤ q.nextID
  forth : ∀ id r, p.requests.lookup id = some r →
    ∃ r', q.requests.lookup id = some r' ∧ SameAsk r r'
  back : ∀ id r', q.requests.lookup id = some r' →
    (∃ r, p.requests.lookup id = some r ∧ SameAsk r r') ∨ id = p.nextID ∧ r'.id = id ∧ Asked r'

theorem KeepsRows.of_eq (requests : q.requests = p.requests)
    (supply : q.nextID = p.nextID) : KeepsRows p q :=
  ⟨Nat.le_of_eq supply.symm, by grind, by grind⟩

theorem KeepsRows.of_settles
    (settles : Settles P p.requests table) : KeepsRows p (p.withRequests table) where
  supply := le_rfl
  forth id r found := by grind [Requests.decided, Permission.State.withRequests]
  back id r' found := by
    cases old : p.requests.lookup id with
    | none => grind [Permission.State.withRequests]
    | some r => grind [Requests.decided, Permission.State.withRequests]

theorem manager_keepsRows (manager : ofManager a = true)
    (stepped : Permission.step? cfg p a = some (q, es)) : KeepsRows p q := by
  cases a with
  | tick elapsed =>
    cases stepped
    exact .of_eq rfl rfl
  | create input ok =>
    have made := Option.some.inj stepped
    have supply : q.nextID = p.nextID + 1 := by grind [createStep]
    obtain ⟨_, ⟨_, _⟩ | ⟨valid, _, inserted, _⟩⟩ := createStep_cases made
    · exact ⟨by omega, by grind, by grind⟩
    have asked := asked_newRequest valid p.nextID
    refine ⟨by omega, by grind, fun id r' found => ?_⟩
    rw [inserted] at found
    rcases lookup_insert_some found with ⟨own, rfl⟩ | ⟨-, found⟩
    · exact .inr ⟨own, own.symm, asked⟩
    · exact .inl ⟨r', found, rfl, rfl, rfl, rfl⟩
  | get id calls =>
    cases stepped
    exact .of_settles (P := fun _ _ => True) (get_settles fun _ => trivial)
  | listPending calls =>
    cases stepped
    exact .of_settles (P := fun _ target => target ≠ .pending)
      (listPending_settles (fun _ => by simp) (fun _ _ final => final) _)
  | approve id authority calls | deny id authority calls | cancel id calls =>
    cases stepped
    exact .of_settles (P := fun _ _ => True)
      (resolve_settles fun _ _ => ⟨fun _ => trivial, trivial⟩)
  | expire id calls =>
    cases stepped
    exact .of_settles (P := fun _ _ => True) (expire_settles fun _ => trivial)
  | call | handle | claim | execute | settle | recover | restart => cases manager

/-- Sessions stay with their owners. -/
def KeepsOwners (s t : Store) : Prop :=
  ∀ id session, s.sessions.lookup id = some session →
    ∃ session', t.sessions.lookup id = some session' ∧ session'.owner = session.owner

theorem KeepsOwners.of_eq (same : t.sessions = s.sessions) : KeepsOwners s t := by
  grind [KeepsOwners]

theorem create_keepsOwners (owner : Owner) (id : SessionID) :
    KeepsOwners s (Session.create s owner ref id ok).1 := by
  rcases create_cases s owner ref id ok with ⟨e, failed⟩ | ⟨fresh, made⟩
  · rw [failed]
    exact .of_eq rfl
  · rw [made]
    exact fun id' session found =>
      ⟨session, lookup_insert_fresh (AList.lookup_eq_none.mpr fresh) found, rfl⟩

theorem close_keepsOwners (id : SessionID) : KeepsOwners s (close s id ok).1 := by
  unfold close
  split
  · exact .of_eq rfl
  split
  · exact .of_eq rfl
  rename_i _ resumed
  have found := (resumeSession_found resumed).1
  intro id' session' found'
  grind

/-- Deliveries stay what they are but for the result of an attempt. -/
def KeepsDeliveries (rows rows' : Deliveries) : Prop :=
  ∀ id d, rows.lookup id = some d → ∃ d', rows'.lookup id = some d' ∧ d'.id = d.id ∧
    d'.event = d.event ∧ d'.targetPrincipalID = d.targetPrincipalID ∧ d'.owner = d.owner

theorem KeepsDeliveries.refl (rows : Deliveries) : KeepsDeliveries rows rows :=
  fun _ d found => ⟨d, found, rfl, rfl, rfl, rfl⟩

theorem update_keepsDeliveries (id : Text) (failure : Text) (calls : UpdateCalls) :
    KeepsDeliveries rows (updateDelivery rows id status failure now calls).1 := by
  intro id' d found
  rw [updateDelivery_rows]
  grind [Delivery.recorded]

theorem retry_keepsDeliveries (rows : Deliveries) (id : Text)
    (calls : AttemptCalls) :
    KeepsDeliveries rows (retryDelivery sessions rows id load calls).1 := by
  unfold retryDelivery
  split
  · exact .refl rows
  split
  · exact .refl rows
  split
  · exact .refl rows
  · exact update_keepsDeliveries _ _ _

/-- The row of a presentation with its delivery, its request and its session. -/
structure Bound (s : Desk) (id : RequestID) (sessionID : SessionID) (deliveryID : Text)
    (delivery : Delivery) : Prop where
  named : trimSpace deliveryID ≠ []
  presented : s.presented.lookup id = some deliveryID
  stored : s.deliveries.lookup deliveryID = some delivery
  own : delivery.id = deliveryID
  session : delivery.event.sessionID = sessionID
  target : ∃ r, s.requests.lookup id = some r ∧ delivery.targetPrincipalID = r.ownerID
  owner : ∃ row, s.state.sessions.sessions.lookup sessionID = some row ∧
    row.owner = delivery.owner

structure DeskInv (s : Desk) : Prop where
  supply : 0 < s.state.permissions.nextID
  rows : ∀ id r, s.requests.lookup id = some r → r.id = id ∧ id ≠ 0 ∧ Asked r
  bound : ∀ id sessionID, s.state.presentations.lookup id = some sessionID →
    ∃ deliveryID delivery, Bound s id sessionID deliveryID delivery
  unbound : ∀ id, s.state.presentations.lookup id = none → s.presented.lookup id = none

variable {delivery : Delivery} {deliveryID : Text}

theorem Bound.kept {id : RequestID} (bound : Bound s id sessionID deliveryID delivery)
    (rows : KeepsRows s.state.permissions t.state.permissions)
    (sessions : KeepsOwners s.state.sessions t.state.sessions)
    (deliveries : KeepsDeliveries s.deliveries t.deliveries)
    (presented : t.presented.lookup id = s.presented.lookup id) :
    ∃ delivery', Bound t id sessionID deliveryID delivery' := by
  obtain ⟨named, old, stored, own, session, ⟨r, found, target⟩, ⟨row, here, owner⟩⟩ := bound
  obtain ⟨delivery', stored', own', event', target', owner'⟩ :=
    deliveries deliveryID delivery stored
  obtain ⟨r', found', same⟩ := rows.forth id r found
  obtain ⟨row', here', kept⟩ := sessions sessionID row here
  exact ⟨delivery', named, presented.trans old, stored', own'.trans own, event' ▸ session,
    ⟨r', found', by rw [target', target, same.owner]⟩, ⟨row', here', by rw [kept, owner, owner']⟩⟩

theorem DeskInv.rows_kept {s t : Desk} (inv : DeskInv s)
    (rows : KeepsRows s.state.permissions t.state.permissions) :
    ∀ id r, t.requests.lookup id = some r → r.id = id ∧ id ≠ 0 ∧ Asked r := by
  intro id r' found'
  rcases rows.back id r' found' with ⟨r, found, same⟩ | ⟨next, own, asked⟩
  · obtain ⟨own, positive, asked⟩ := inv.rows id r found
    refine ⟨same.id.trans own, positive, ?_, ?_, ?_⟩
    · rw [same.owner]
      exact asked.trimmed
    · rw [same.owner]
      exact asked.owned
    · rw [questionOf, same.question, same.action]
      exact asked.question
  · exact ⟨own, next ▸ Nat.ne_of_gt inv.supply, asked⟩

theorem DeskInv.kept (inv : DeskInv s) (rows : KeepsRows s.state.permissions t.state.permissions)
    (sessions : KeepsOwners s.state.sessions t.state.sessions)
    (deliveries : KeepsDeliveries s.deliveries t.deliveries)
    (presentations : t.state.presentations = s.state.presentations)
    (presented : t.presented = s.presented) : DeskInv t where
  supply := Nat.lt_of_lt_of_le inv.supply rows.supply
  rows := inv.rows_kept rows
  bound id sessionID found := by
    rw [presentations] at found
    obtain ⟨deliveryID, _, bound⟩ := inv.bound id sessionID found
    exact ⟨deliveryID, bound.kept rows sessions deliveries (by rw [presented])⟩
  unbound id absent := by
    rw [presented]
    exact inv.unbound id (by rw [← presentations, absent])

/-! ## A presentation -/

theorem available_iff {s : State} {id : SessionID} {ok : Bool} : s.available id ok = true ↔
    ok = true ∧ trimSpace id ≠ [] ∧
      ∃ session, s.sessions.sessions.lookup id = some session ∧ session.status = .active := by
  rw [State.available, lookup, loadSession]
  grind

/-- How a presentation ends: with an error, at the stored row, or with a new row for an available
session. -/
theorem present_cases (valid : RawMessage → Bool) (id : RequestID) (calls : PresentCalls) :
    (∃ t e, present valid s id calls = (t, some e) ∧ t.presentations = s.presentations) ∨
    (∃ t, present valid s id calls = (t, none) ∧ id ∈ s.presentations ∧
      t.presentations = s.presentations) ∨
    ∃ t requests r sessionID, present valid s id calls = (t, none) ∧ id ∉ s.presentations ∧
      get s.permissions.requests id s.permissions.now calls.get = (requests, .ok r) ∧
      calls.createDelivery = true ∧ s.available sessionID calls.emitLookup = true ∧
      t.presentations = s.presentations.insert r.id sessionID := by
  unfold present
  split
  · exact .inl ⟨_, _, rfl, rfl⟩
  rename_i requests r got
  dsimp only
  split
  · exact .inl ⟨_, _, rfl, rfl⟩
  split
  · exact .inl ⟨_, _, rfl, rfl⟩
  split
  · exact .inl ⟨_, _, rfl, rfl⟩
  split
  · rename_i here
    exact .inr (.inl ⟨_, rfl, here, rfl⟩)
  rename_i fresh
  split
  · exact .inl ⟨_, _, rfl, rfl⟩
  split
  · exact .inl ⟨_, _, rfl, rfl⟩
  split
  · exact .inl ⟨_, _, rfl, rfl⟩
  unfold emitPermission
  split
  · exact .inl ⟨_, _, rfl, rfl⟩
  split
  · exact .inl ⟨_, _, rfl, rfl⟩
  rename_i open_
  split
  · exact .inl ⟨_, _, rfl, rfl⟩
  split
  · exact .inl ⟨_, _, rfl, rfl⟩
  split
  · rename_i made
    exact .inr (.inr ⟨_, requests, r, _, rfl, fresh, got, made.1, Bool.of_not_eq_false open_, rfl⟩)
  · exact .inl ⟨_, _, rfl, rfl⟩

/-- The row of a request after the `Get` of its presentation. -/
theorem DeskInv.got (inv : DeskInv s) {id : RequestID} {requests : Requests}
    (got : get s.requests id s.state.permissions.now calls = (requests, .ok r)) :
    requests.lookup id = some r ∧ r.id = id := by
  have found : requests.lookup id = some r := get_row (fun id r here => (inv.rows id r here).1) got
  have settles : Settles (fun _ _ => True) s.requests
      (get s.requests id s.state.permissions.now calls).1 := get_settles fun _ => trivial
  rw [got] at settles
  rcases (KeepsRows.of_settles (p := s.state.permissions) settles).back id r found with
    ⟨before, old, same⟩ | ⟨_, own, _⟩
  · exact ⟨found, same.id.trans (inv.rows id before old).1⟩
  · exact ⟨found, own⟩

theorem present_inv {s : Desk} (inv : DeskInv s) (id : RequestID)
    (drawn : Drawn) (sending : AttemptCalls) :
    DeskInv (s.present valid id calls drawn load sending).1 := by
  unfold Desk.present
  generalize given : { calls with
    createDelivery := calls.createDelivery && drawn.fresh s.deliveries } = calls'
  have effect := present_effect valid s.state id calls'
  have kept : KeepsRows s.state.permissions
      (SessionEvent.present valid s.state id calls').1.permissions := by
    rw [effect.permissions]
    exact .of_settles (P := fun _ _ => True) (get_settles fun _ => trivial)
  have owners :
      KeepsOwners s.state.sessions (SessionEvent.present valid s.state id calls').1.sessions :=
    .of_eq (by rw [effect.sessions])
  rcases present_cases valid id calls' with
    ⟨t, e, ended, same⟩ | ⟨t, ended, here, same⟩ |
      ⟨t, requests, r, sessionID, ended, absent, got, created, available, made⟩
  · rw [ended] at kept owners ⊢
    exact inv.kept kept owners (.refl _) same rfl
  · rw [ended] at kept owners ⊢
    obtain ⟨sessionID, old⟩ := (mem_iff_lookup _ _).mp here
    obtain ⟨deliveryID, delivery, bound⟩ := inv.bound id sessionID old
    rw [bound.presented]
    exact inv.kept kept owners (retry_keepsDeliveries _ _ _) same rfl
  · -- The new row comes with its delivery.
    obtain ⟨found, own⟩ := inv.got got
    have table : t.permissions.requests.lookup id = some r := by
      have := effect.permissions
      rw [ended, got] at this
      rw [this]
      exact found
    obtain ⟨-, -, session, live, -⟩ := available_iff.mp available
    have live' : t.sessions.sessions.lookup sessionID = some session := by
      have := effect.sessions
      rw [ended] at this
      rw [this, live]
    have fresh : s.deliveries.lookup drawn.deliveryID = none := by
      rw [← given] at created
      have drawnFresh := (Bool.and_eq_true_iff.mp created).2
      exact AList.lookup_eq_none.mpr (of_decide_eq_true drawnFresh).1
    have row : t.presentations.lookup id = some sessionID := by
      rw [made, own, AList.lookup_insert]
    rw [ended] at kept owners ⊢
    rw [inv.unbound id (AList.lookup_eq_none.mpr absent)]
    simp only [row, table, live']
    generalize attempting : attempt t.sessions _ _ sending = attempted
    have stored : KeepsDeliveries (s.deliveries.insert drawn.deliveryID
        (permissionDelivery r session sessionID drawn)) attempted.1 := by
      rw [← attempting]
      exact update_keepsDeliveries _ _ _
    have grown : KeepsDeliveries s.deliveries attempted.1 := fun id' d here =>
      stored id' d (lookup_insert_fresh fresh here)
    obtain ⟨delivery, here, same, event, target, owner⟩ := stored _ _ (AList.lookup_insert _)
    refine ⟨Nat.lt_of_lt_of_le inv.supply kept.supply, inv.rows_kept kept, ?_, ?_⟩
    · intro id' sessionID' found'
      rw [made, own] at found'
      rcases lookup_insert_some found' with ⟨rfl, rfl⟩ | ⟨other, found'⟩
      · exact ⟨drawn.deliveryID, delivery, drawn.named, AList.lookup_insert _, here, same,
          by rw [event]; rfl, ⟨r, table, target⟩, ⟨session, live', owner.symm⟩⟩
      · obtain ⟨deliveryID, _, bound⟩ := inv.bound id' sessionID' found'
        exact ⟨deliveryID, bound.kept kept owners grown (AList.lookup_insert_ne other)⟩
    · grind [DeskInv]

theorem desk_step_inv (inv : DeskInv s) (stepped : deskStep? cfg s a = some (t, es)) :
    DeskInv t := by
  cases a with
  | manager a =>
    rw [deskStep?] at stepped
    split at stepped
    · rename_i manager
      obtain ⟨⟨q, _⟩, performed, reached⟩ := Option.map_eq_some_iff.mp stepped
      cases reached
      exact inv.kept (manager_keepsRows manager performed) (.of_eq rfl) (.refl _) rfl rfl
    · cases stepped
  | openSession owner ref id ok =>
    cases stepped
    exact inv.kept (.of_eq rfl rfl) (create_keepsOwners _ _) (.refl _) rfl rfl
  | closeSession id ok =>
    cases stepped
    exact inv.kept (.of_eq rfl rfl) (close_keepsOwners _) (.refl _) rfl rfl
  | bind sessionID source ok =>
    cases stepped
    exact inv.kept (.of_eq rfl rfl) (.of_eq (bindResolvedParticipant_sessions _ _ _ _))
      (.refl _) rfl rfl
  | reconcile configured =>
    cases stepped
    exact inv.kept (.of_eq rfl rfl) (.of_eq (reconcile_frame _ _).1) (.refl _) rfl rfl
  | configure identities =>
    cases stepped
    exact inv.kept (.of_eq rfl rfl) (.of_eq rfl) (.refl _) rfl rfl
  | present id calls drawn load sending =>
    cases stepped
    exact present_inv inv id drawn sending
  | emit delivery ok =>
    cases stepped
    refine inv.kept (.of_eq rfl rfl) (.of_eq rfl) ?_ rfl rfl
    intro id d found
    rw [insertDelivery]
    split
    · rename_i fresh
      exact ⟨d, lookup_insert_fresh (AList.lookup_eq_none.mpr fresh.2.1) found, rfl, rfl, rfl, rfl⟩
    · exact ⟨d, found, rfl, rfl, rfl, rfl⟩
  | record id outcome now calls =>
    cases stepped
    exact inv.kept (.of_eq rfl rfl) (.of_eq rfl) (update_keepsDeliveries _ _ _) rfl rfl

theorem desk_init_inv : DeskInv (Desk.init identities) where
  supply := Nat.one_pos
  rows id r found := by
    cases found
  bound id sessionID found := by
    cases found
  unbound _ _ := rfl

/-! ## The fault-free calls -/

section FaultFree

/-- The request is pending and has not expired, and its owner has Owner authority. -/
structure Ready (s : State) (id : RequestID) (r : Request) (owner : Principal) : Prop where
  found : s.permissions.requests.lookup id = some r
  own : r.id = id
  positive : id ≠ 0
  pending : r.status = .pending
  unexpired : s.permissions.now < r.expiresAt
  asked : Asked r
  authority : s.configuredOwner r.ownerID true = some owner
  acting : owner.id = r.ownerID

variable {s : State} {id : RequestID} {r : Request} {owner : Principal} {sessionID : SessionID}
  {valid : RawMessage → Bool}

theorem Ready.get (ready : Ready s id r owner) (calls : Calls) (load : calls.load = true) :
    Permission.get s.permissions.requests id s.permissions.now calls =
      (s.permissions.requests, .ok r) := by
  grind [Permission.get, loadRequest, expireIfDue, Ready]

theorem listParticipants_mem :
    (sessionID, principal) ∈ store.participants ∧ trimSpace sessionID ≠ [] ↔
      ∃ participants, listParticipants store sessionID true = .ok participants ∧
        principal ∈ participants := by
  rw [listParticipants]
  by_cases blank : trimSpace sessionID = []
  all_goals simp [blank]

theorem resolve_pending (found : table.lookup id = some r) (own : r.id = id) (positive : id ≠ 0)
    (pending : r.status = .pending) (unexpired : now < r.expiresAt)
    (named : trimSpace authority ≠ []) (final : target ≠ .pending) :
    resolve table id target authority now ⟨true, true, true⟩ =
      (table.insert id (Requests.decided target now (trimSpace authority) r),
        .ok (Requests.decided target now (trimSpace authority) r)) := by
  subst own
  have changed : table.transition r.id target now (trimSpace authority) =
      (table.insert r.id (Requests.decided target now (trimSpace authority) r), true) := by
    simp [Requests.transition, Requests.updateWhere, found, pending]
  have made : Permission.transition table r target (trimSpace authority) now ⟨true, true, true⟩ =
      (table.insert r.id (Requests.decided target now (trimSpace authority) r),
        .ok (Requests.decided target now (trimSpace authority) r)) := by
    simp [Permission.transition, changed, loadRequest]
  simp [resolve, loadRequest, found, pending, unexpired, named, positive, made, final.symm]

/-- The Owner's decision is accepted in the presented session. -/
theorem Ready.decides (ready : Ready s id r owner) (available : s.available sessionID true = true)
    (participates : (sessionID, r.ownerID) ∈ s.sessions.participants)
    (presented : s.presentations.lookup id = some sessionID) {decision : Decision}
    (decided : decision = .approve ∨ decision = .deny) :
    ∃ resolved, (bridgeDecide s sessionID owner ⟨id, decision⟩ decideFaultFree).2 =
      .ok resolved := by
  obtain ⟨_, listed, member⟩ := listParticipants_mem.mp
    ⟨participates, (available_iff.mp available).2.1⟩
  have loaded := ready.get decideFaultFree.get rfl
  obtain ⟨found, own, positive, pending, unexpired, asked, authority, acting⟩ := ready
  have named : trimSpace owner.id ≠ [] := by
    rw [acting, asked.trimmed]
    exact asked.owned
  have settled : ∃ table resolved, resolveBy (s.withRequests s.permissions.requests) r.id owner.id
      decideFaultFree.resolve decision = (table, .ok resolved) := by
    have passes : ∀ target, target ≠ .pending →
        resolve s.permissions.requests r.id target owner.id s.permissions.now ⟨true, true, true⟩ =
          (s.permissions.requests.insert id
            (Requests.decided target s.permissions.now (trimSpace owner.id) r),
            .ok (Requests.decided target s.permissions.now (trimSpace owner.id) r)) := by
      intro target final
      rw [own, resolve_pending found own positive pending unexpired named final]
    let answer (x : Requests × Except ManagerError Request) :=
      (x.1, x.2.mapError BridgeError.manager)
    rcases decided with rfl | rfl
    · exact ⟨_, _, congrArg answer (passes .approved (by simp))⟩
    · exact ⟨_, _, congrArg answer (passes .denied (by simp))⟩
  obtain ⟨_, resolved, settled⟩ := settled
  have granted : (decidePresented s owner ⟨id, decision⟩ decideFaultFree).2 = .ok resolved := by
    rw [acting] at settled
    simp only [decidePresented, loaded, pending, acting, reduceCtorEq, if_false, settled, ne_eq,
      not_true_eq_false]
    rfl
  refine ⟨resolved, ?_⟩
  simpa [bridgeDecide, decideFaultFree, authority, listed, acting, member, presented] using granted

theorem bridgeDecide_participant
    (accepted : (bridgeDecide s sessionID owner payload decideFaultFree).2 = .ok resolved) :
    (sessionID, owner.id) ∈ s.sessions.participants := by
  rw [bridgeDecide] at accepted
  split at accepted
  · cases accepted
  split at accepted
  · cases accepted
  rename_i participants listed
  split at accepted
  · cases accepted
  · rename_i member
    exact (listParticipants_mem.mpr ⟨participants, listed, not_not.mp member⟩).1

theorem selectSession_active {active : SessionID → Bool} (correlated : Text)
    (named : ∀ c, active c = true → c ≠ []) (candidates : List SessionID) (selected : SessionID)
    (some_ : selected ≠ [] ∨ ∃ c ∈ candidates, active c = true) :
    let chosen := selectSession active correlated candidates selected
    chosen ≠ [] ∧ (chosen = selected ∨ chosen ∈ candidates ∧ active chosen = true) := by
  induction candidates generalizing selected with
  | nil | cons candidate rest ih => grind [selectSession]

/-- A request that is not presented yet is emitted to an active session of its Owner. -/
theorem Ready.present_emits (ready : Ready s id r owner) (valid : RawMessage → Bool)
    (participates : ∃ sessionID, (sessionID, r.ownerID) ∈ s.sessions.participants ∧
      s.available sessionID true = true) (absent : s.presentations.lookup id = none) :
    ∃ sessionID, (sessionID, r.ownerID) ∈ s.sessions.participants ∧
      s.available sessionID true = true ∧ present valid s id presentFaultFree =
        emitPermission valid s r sessionID presentFaultFree := by
  have got := ready.get presentFaultFree.get rfl
  obtain ⟨_, _, _, pending, _, asked, authority, _⟩ := ready
  have named : ∀ c, s.available c true = true → c ≠ [] := by
    rintro c available rfl
    exact (available_iff.mp available).2.1 rfl
  have sessions : listParticipantSessions s.sessions r.ownerID true =
      .ok ((s.sessions.participants.filter fun binding => binding.2 = r.ownerID).map Prod.fst) := by
    simp [listParticipantSessions, asked.trimmed, asked.owned]
  generalize listed : (s.sessions.participants.filter fun binding =>
    decide (binding.2 = r.ownerID)).map Prod.fst = candidates at sessions
  have member : ∀ c, c ∈ candidates.insertionSort (· ≤ ·) ↔
      (c, r.ownerID) ∈ s.sessions.participants := by
    intro c
    rw [List.mem_insertionSort, ← listed]
    simp
  obtain ⟨c, bound, live⟩ := participates
  have chosen := selectSession_active r.correlation.sessionID named
    (candidates.insertionSort (· ≤ ·)) [] (.inr ⟨c, (member c).mpr bound, live⟩)
  generalize chosenIs : selectSession _ _ _ _ = sessionID at chosen
  obtain ⟨inside, available⟩ := chosen.2.resolve_left chosen.1
  have participant := (member sessionID).mp inside
  refine ⟨sessionID, participant, available, ?_⟩
  have stays : s.withRequests s.permissions.requests = s := rfl
  have fresh : id ∉ s.presentations := AList.lookup_eq_none.mp absent
  have selects : selectSession (fun id => s.available id (presentFaultFree.lookup id))
      r.correlation.sessionID (candidates.insertionSort (· ≤ ·)) [] = sessionID := chosenIs
  have loads : presentFaultFree.loadPresentation = true := rfl
  have finds : presentFaultFree.principal = true := rfl
  have lists : presentFaultFree.listSessions = true := rfl
  simp [present, got, stays, pending, fresh, loads, finds, lists, authority, sessions, selects,
    chosen.1]

theorem Ready.emit_new (ready : Ready s id r owner) (encoded : encodable valid r = true)
    (participant : (sessionID, r.ownerID) ∈ s.sessions.participants)
    (available : s.available sessionID true = true) (absent : s.presentations.lookup id = none) :
    emitPermission valid s r sessionID presentFaultFree =
      ({ s with presentations := s.presentations.insert id sessionID }, none) := by
  have named := (available_iff.mp available).2.1
  obtain ⟨_, bindings, eligible⟩ := listParticipants_mem.mp ⟨participant, named⟩
  have fresh : id ∉ s.presentations := AList.lookup_eq_none.mp absent
  simp [emitPermission, presentFaultFree, encoded, named, ready.own, ready.positive,
    ready.asked.question, available, bindings, eligible, fresh]

theorem check_deliverable (named : trimSpace delivery.event.sessionID ≠ [])
    (found : store.sessions.lookup delivery.event.sessionID = some session)
    (active : session.status = .active) (same : session.owner = delivery.owner)
    (participates : (delivery.event.sessionID, delivery.targetPrincipalID) ∈ store.participants) :
    delivery.check store ⟨true, true⟩ = .deliverable := by
  obtain ⟨_, listed, member⟩ := listParticipants_mem.mp ⟨participates, named⟩
  simp [Delivery.check, lookup, loadSession, named, found, active, same, listed, member]

variable {rows : Deliveries}

theorem attempt_accepted (now : Int)
    (deliverable : delivery.check store ⟨true, true⟩ = .deliverable)
    (stored : rows.lookup delivery.id = some delivery) :
    attempt store rows delivery (attemptFaultFree now) =
      (rows.insert delivery.id (delivery.recorded .accepted [] now),
        some (delivery.recorded .accepted [] now)) := by
  simp [attempt, attemptFaultFree, deliverable, Finding.outcome, Sent.outcome, updateDelivery,
    stored]

theorem configuredOwner_id
    (authority : s.configuredOwner ownerID true = some owner) : owner.id = trimSpace ownerID := by
  grind [State.configuredOwner, MemoryResolver.lookupPrincipal]

/-- A request that is presented is not presented anew. -/
theorem Ready.present_again (ready : Ready s id r owner)
    (here : s.presentations.lookup id = some sessionID) :
    present valid s id presentFaultFree = (s, none) := by
  have got := ready.get presentFaultFree.get rfl
  have stays : s.withRequests s.permissions.requests = s := rfl
  have member : id ∈ s.presentations := (mem_iff_lookup _ _).mpr ⟨sessionID, here⟩
  have loads : presentFaultFree.loadPresentation = true := rfl
  simp [present, got, stays, ready.pending, member, loads]

theorem retry_result (named : trimSpace deliveryID ≠ [])
    (stored : rows.lookup deliveryID = some delivery) (own : delivery.id = deliveryID)
    (result : (retryDelivery store rows deliveryID true (attemptFaultFree now)).2 =
      some delivery') :
    delivery'.event = delivery.event ∧ (delivery.status ≠ .pending → delivery' = delivery) := by
  grind [retryDelivery, attempt, updateDelivery, Delivery.recorded]

variable {drawn : Drawn}

/-- With fresh identifiers the transaction of a fault-free presentation succeeds. -/
theorem createDelivery_fresh (fresh : drawn.fresh rows = true) : { presentFaultFree with
      createDelivery := presentFaultFree.createDelivery && drawn.fresh rows } =
      presentFaultFree := by
  rw [fresh]
  rfl

section

variable {s : Desk} (ready : Ready s.state id r owner)
  (participates : ∃ sessionID, (sessionID, r.ownerID) ∈ s.state.sessions.participants ∧
    s.state.available sessionID true = true) (here : s.state.presentations.lookup id = none)
  (fresh : drawn.fresh s.deliveries = true)

include ready participates here fresh

/-- An event that cannot be encoded is not presented. -/
theorem Ready.encodable_of_presents (presents : s.Presents valid id owner drawn now) :
    encodable valid r = true := by
  obtain ⟨t, delivery, presented, _⟩ := presents
  obtain ⟨sessionID, _, _, emits⟩ := ready.present_emits valid participates here
  by_contra refused
  have failed : emitPermission valid s.state r sessionID presentFaultFree =
      (s.state, some .invalidEvent) := if_pos (.inl (Bool.eq_false_of_not_eq_true refused))
  simp only [Desk.present, createDelivery_fresh fresh, emits, failed] at presented
  cases presented

theorem Ready.presents_new (inv : DeskInv s) (encoded : encodable valid r = true) (now : Int) :
    s.Presents valid id owner drawn now := by
  obtain ⟨sessionID, participant, available, emits⟩ := ready.present_emits valid participates here
  have made := emits.trans (ready.emit_new encoded participant available here)
  obtain ⟨-, named, session, live, active⟩ := available_iff.mp available
  have row : (s.state.presentations.insert id sessionID).lookup id = some sessionID :=
    AList.lookup_insert _
  have deliverable : (permissionDelivery r session sessionID drawn).check s.state.sessions
      ⟨true, true⟩ = .deliverable := check_deliverable named live active rfl participant
  have stored : (s.deliveries.insert (permissionDelivery r session sessionID drawn).id
      (permissionDelivery r session sessionID drawn)).lookup
        (permissionDelivery r session sessionID drawn).id = some _ := AList.lookup_insert _
  have sent := congrArg Prod.snd (attempt_accepted now deliverable stored)
  have returned : s.present valid id presentFaultFree drawn true (attemptFaultFree now) =
      (⟨{ s.state with presentations := s.state.presentations.insert id sessionID },
        (attempt s.state.sessions (s.deliveries.insert
          (permissionDelivery r session sessionID drawn).id
          (permissionDelivery r session sessionID drawn))
          (permissionDelivery r session sessionID drawn) (attemptFaultFree now)).1,
        s.presented.insert id (permissionDelivery r session sessionID drawn).id⟩,
        some ((permissionDelivery r session sessionID drawn).recorded .accepted [] now)) := by
    simp only [Desk.present, createDelivery_fresh fresh, made, inv.unbound id here, row,
      ready.found, live]
    exact congrArg (Prod.mk _) sent
  refine ⟨_, _, returned, nofun, available, fun decision decided => ?_⟩
  exact Ready.decides (s := { s.state with
    presentations := s.state.presentations.insert id sessionID }) ⟨ready.found, ready.own,
    ready.positive, ready.pending, ready.unexpired, ready.asked, ready.authority, ready.acting⟩
    available participant row decided

end

section

variable {s : Desk} (ready : Ready s.state id r owner)
  (here : s.state.presentations.lookup id = some sessionID)
  (bound : Bound s id sessionID deliveryID delivery) (fresh : drawn.fresh s.deliveries = true)

include ready here bound fresh

theorem Ready.present_stored (valid : RawMessage → Bool) (now : Int) :
    s.present valid id presentFaultFree drawn true (attemptFaultFree now) =
      ({ s with
        deliveries := (retryDelivery s.state.sessions s.deliveries deliveryID true
          (attemptFaultFree now)).1 },
        (retryDelivery s.state.sessions s.deliveries deliveryID true
          (attemptFaultFree now)).2) := by
  simp only [Desk.present, createDelivery_fresh fresh, ready.present_again here, bound.presented]

theorem Ready.usable_of_presents (presents : s.Presents valid id owner drawn now) :
    delivery.status ≠ .failed ∧ s.state.available sessionID true = true ∧
      (sessionID, r.ownerID) ∈ s.state.sessions.participants := by
  obtain ⟨t, _, presented, alive, available, accepted⟩ := presents
  rw [ready.present_stored here bound fresh valid now] at presented
  obtain ⟨rfl, result⟩ := Prod.mk.inj presented
  obtain ⟨event, same⟩ := retry_result bound.named bound.stored bound.own result
  obtain ⟨_, ok⟩ := accepted .approve (.inl rfl)
  have participant := bridgeDecide_participant ok
  rw [event, bound.session] at available participant
  rw [ready.acting] at participant
  refine ⟨fun failed => ?_, available, participant⟩
  rw [same (by rw [failed]; decide)] at alive
  exact alive failed

theorem Ready.presents_of_usable (now : Int) (alive : delivery.status ≠ .failed)
    (available : s.state.available sessionID true = true)
    (participant : (sessionID, r.ownerID) ∈ s.state.sessions.participants) :
    s.Presents valid id owner drawn now := by
  have returns := ready.present_stored here bound fresh valid now
  have returned : ∃ delivery', (retryDelivery s.state.sessions s.deliveries deliveryID true
      (attemptFaultFree now)).2 = some delivery' ∧ delivery'.status ≠ .failed ∧
        delivery'.event = delivery.event := by
    by_cases waiting : delivery.status = .pending
    · -- The attempt finds the session and the Owner as the presentation did.
      obtain ⟨r', found', target⟩ := bound.target
      obtain ⟨session, live, _⟩ := bound.owner
      obtain ⟨-, _, session', live', _⟩ := available_iff.mp available
      obtain rfl : r = r' := Option.some.inj (ready.found.symm.trans found')
      obtain rfl : session = session' := Option.some.inj (live.symm.trans live')
      have deliverable : delivery.check s.state.sessions ⟨true, true⟩ = .deliverable := by
        grind [Bound, check_deliverable]
      have sent := attempt_accepted now deliverable (by rw [bound.own, bound.stored])
      exact ⟨delivery.recorded .accepted [] now,
        by simp [retryDelivery, bound.named, bound.stored, waiting, sent], by rintro ⟨⟩, rfl⟩
    · exact ⟨delivery, by simp [retryDelivery, bound.named, bound.stored, waiting], alive, rfl⟩
  obtain ⟨delivery', result, alive', event⟩ := returned
  rw [result] at returns
  refine ⟨_, delivery', returns, alive', ?_, fun decision decided => ?_⟩
  · rw [event, bound.session]
    exact available
  · rw [event, bound.session]
    exact ready.decides available participant here decided

end

end FaultFree

/-! ## Main result -/

/-- In every history: a fault-free `Present` of a pending request that has not expired, with an
Owner who takes part in some active session, gives the Owner a delivery to decide on exactly if
no presentation is stored and the event can be encoded, or the stored one has not failed and its
session is still active with the Owner in it. -/
theorem pending_request_presentable_iff (cfg : ExecutorConfig) (identities : Identities)
    {trace : List Unit} {s : Desk}
    (run : (deskSystem cfg identities).Run free (deskSystem cfg identities).init trace s)
    {id : RequestID} {r : Request} (found : s.requests.lookup id = some r)
    (pending : r.status = .pending) (unexpired : s.state.permissions.now < r.expiresAt)
    {owner : Principal} (authority : s.state.configuredOwner r.ownerID true = some owner)
    (participates : ∃ sessionID, (sessionID, r.ownerID) ∈ s.state.sessions.participants ∧
      s.state.available sessionID true = true)
    {drawn : Drawn} (fresh : drawn.fresh s.deliveries = true) (now : Int) :
    s.Presents cfg.manager.validJSON id owner drawn now ↔
      s.Usable cfg.manager.validJSON id r := by
  have inv : DeskInv s := run.invariant (desk_init_inv)
    fun inv _ stepped => desk_step_inv inv stepped
  obtain ⟨own, positive, asked⟩ := inv.rows id r found
  have ready : Ready s.state id r owner := ⟨found, own, positive, pending, unexpired, asked,
    authority, (configuredOwner_id authority).trans asked.trimmed⟩
  cases here : s.state.presentations.lookup id with
  | none =>
    constructor
    · intro presents
      refine ⟨fun _ => ready.encodable_of_presents participates here fresh presents, ?_⟩
      intro sessionID _ _ stored
      rw [here] at stored
      cases stored
    · intro usable
      exact ready.presents_new participates here fresh inv (usable.fresh here) now
  | some sessionID =>
    obtain ⟨deliveryID, delivery, bound⟩ := inv.bound id sessionID here
    constructor
    · intro presents
      refine ⟨fun none => absurd (here.symm.trans none) nofun, ?_⟩
      intro sessionID' deliveryID' delivery' here' presented' stored'
      cases here.symm.trans here'
      cases bound.presented.symm.trans presented'
      cases bound.stored.symm.trans stored'
      exact ready.usable_of_presents here bound fresh presents
    intro usable
    obtain ⟨alive, available, participant⟩ :=
      usable.stored sessionID deliveryID delivery here bound.presented bound.stored
    exact ready.presents_of_usable here bound fresh now alive available participant

/-! ## A request that is left with a closed session -/

def ownerIdentities : Identities where
  configured := [⟨⟨['g'], ['p'], ['u']⟩, ⟨['o'], .owner⟩⟩]
  resolver :=
    { mappings := (∅ : GoMap IdentityKey Principal).insert ⟨['g'], ['p'], ['u']⟩ ⟨['o'], .owner⟩
      principals := (∅ : GoMap Text Authority).insert ['o'] .owner }
  built := by
    rw [newMemoryResolver]
    rfl

def firstDrawn : Drawn := ⟨['d'], ['e'], some 0, [], 0, by decide⟩

def secondDrawn : Drawn := ⟨['k'], ['l'], some 0, [], 0, by decide⟩

/-- A question to the Owner is presented in the session in which the Owner takes part. -/
def presentedActions : List DeskAction :=
  [.manager (.create ⟨['d'], ['o'], .voluntary, [], ['q'], [], [], [], 100, ⟨[], [], [], [], []⟩⟩
      true),
    .openSession ⟨.gateway, ['g']⟩ ['c'] ['s'] true,
    .bind ['s'] ⟨['s'], ['g'], ['p'], ['u'], ['o']⟩ true,
    .present 1 presentFaultFree firstDrawn true (attemptFaultFree 0)]

/-- The session is closed, and the Owner goes on in another one. -/
def movedActions : List DeskAction :=
  [.closeSession ['s'] true, .openSession ⟨.gateway, ['g']⟩ ['c'] ['t'] true,
    .bind ['t'] ⟨['t'], ['g'], ['p'], ['u'], ['o']⟩ true]

/-- The first request is pending and the Owner takes part in the given active session. -/
def Desk.asksIn (s : Desk) (sessionID : SessionID) : Bool :=
  match s.requests.lookup 1 with
  | none => false
  | some r => r.status = .pending ∧ s.state.permissions.now < r.expiresAt ∧
      s.state.configuredOwner r.ownerID true = some ⟨['o'], .owner⟩ ∧
      (sessionID, r.ownerID) ∈ s.state.sessions.participants ∧
      s.state.available sessionID true ∧ secondDrawn.fresh s.deliveries

theorem Desk.asksIn_iff {s : Desk} {sessionID : SessionID} (asks : s.asksIn sessionID = true) :
    ∃ r, s.requests.lookup 1 = some r ∧ r.status = .pending ∧
      s.state.permissions.now < r.expiresAt ∧
      s.state.configuredOwner r.ownerID true = some ⟨['o'], .owner⟩ ∧
      (∃ sessionID, (sessionID, r.ownerID) ∈ s.state.sessions.participants ∧
        s.state.available sessionID true = true) ∧ secondDrawn.fresh s.deliveries = true := by
  rw [Desk.asksIn] at asks
  split at asks
  · cases asks
  · rename_i r found
    obtain ⟨pending, unexpired, authority, member, available, fresh⟩ := of_decide_eq_true asks
    exact ⟨r, found, pending, unexpired, authority, ⟨sessionID, member, available⟩, fresh⟩

/-- The delivery that a fault-free `Present` returns belongs to an active session. -/
def Desk.reopens (s : Desk) : Bool :=
  match s.present (fun _ => true) 1 presentFaultFree secondDrawn true (attemptFaultFree 0) with
  | (t, some delivery) => t.state.available delivery.event.sessionID true
  | (_, none) => false

/-- Every `Present` comes back to the closed session. -/
theorem closed_session_blocks_request :
    ∃ trace s r, (deskSystem sampleExecutor ownerIdentities).Run free
        (deskSystem sampleExecutor ownerIdentities).init trace s ∧
      s.requests.lookup 1 = some r ∧ r.status = .pending ∧
      s.state.permissions.now < r.expiresAt ∧
      s.state.configuredOwner r.ownerID true = some ⟨['o'], .owner⟩ ∧
      (∃ sessionID, (sessionID, r.ownerID) ∈ s.state.sessions.participants ∧
        s.state.available sessionID true = true) ∧
      secondDrawn.fresh s.deliveries = true ∧
        ¬s.Presents (fun _ => true) 1 ⟨['o'], .owner⟩ secondDrawn 0 := by
  obtain ⟨trace, s, run, facts⟩ := System.replays?_run
    (show (deskSystem sampleExecutor ownerIdentities).replays? free
      (presentedActions ++ movedActions)
      (fun _ s => s.asksIn ['t'] && !s.reopens) = true by decide +kernel)
  obtain ⟨asks, closed⟩ := Bool.and_eq_true_iff.mp facts
  obtain ⟨r, found, pending, unexpired, authority, participates, fresh⟩ := Desk.asksIn_iff asks
  refine ⟨trace, s, r, run, found, pending, unexpired, authority, participates, fresh, ?_⟩
  rintro ⟨t, _, presented, -, available, -⟩
  simp [Desk.reopens, presented, available] at closed

/-- As long as the session is open the stored presentation is good. -/
theorem pending_request_presentable_sample :
    ∃ trace s r, (deskSystem sampleExecutor ownerIdentities).Run free
        (deskSystem sampleExecutor ownerIdentities).init trace s ∧
      s.requests.lookup 1 = some r ∧
      (s.Presents (fun _ => true) 1 ⟨['o'], .owner⟩ secondDrawn 0 ↔
        s.Usable (fun _ => true) 1 r) := by
  obtain ⟨trace, s, run, asks⟩ := System.replays?_run
    (show (deskSystem sampleExecutor ownerIdentities).replays? free presentedActions
      (fun _ s => s.asksIn ['s']) = true by decide +kernel)
  obtain ⟨r, found, pending, unexpired, authority, participates, fresh⟩ := Desk.asksIn_iff asks
  exact ⟨trace, s, r, run, found, pending_request_presentable_iff sampleExecutor ownerIdentities run
    found pending unexpired authority participates fresh 0⟩

end NeonDoll.SessionEvent
