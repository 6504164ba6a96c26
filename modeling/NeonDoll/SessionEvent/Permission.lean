import NeonDoll.ExternalIdentity.Resolver
import NeonDoll.Permission.Continuation
import NeonDoll.SessionEvent.Event

/-!
# The permission bridge

`Core/SessionEvent/permission.go`: how a permission request is presented in a session of its
Owner, and how a decision that comes in through a session is recorded.  The deliveries of a
presentation are left out; of the row that binds a request to a session the session is kept.
-/

namespace NeonDoll.SessionEvent

open Lib Text Permission ExternalIdentity Session

/-- What the bridge reads and writes. -/
structure State where
  identities : Identities
  sessions : Store
  permissions : Permission.State
  presentations : GoMap RequestID SessionID

/-- The error of a bridge operation; errors of the manager and of the session service are passed
on. -/
inductive BridgeError where
  | unauthorized
  | expired
  | invalidTransition
  | invalidRequest
  | invalidEvent
  | recipientUnavailable
  | sessionUnavailable
  | manager (error : ManagerError)
  | session (error : SessionError)
  | presentation
  | resolution
  deriving DecidableEq

def State.withRequests (s : State) (requests : Requests) : State :=
  { s with permissions := s.permissions.withRequests requests }

/-- `LookupPrincipal`; the argument `ok` says whether the context is live. -/
def State.configuredOwner (s : State) (id : Text) (ok : Bool) : Option Principal :=
  if ok then
    match s.identities.resolver.lookupPrincipal id with
    | .error _ => none
    | .ok principal => if principal.authority = .owner then some principal else none
  else none

/-! ## Presentation -/

/-- Which calls of a presentation succeed. -/
structure PresentCalls where
  get : Calls
  loadPresentation : Bool
  principal : Bool
  listSessions : Bool
  lookup : SessionID → Bool
  emitLookup : Bool
  listParticipants : Bool
  createDelivery : Bool

/-- A session that can be looked up and is active. -/
def State.available (s : State) (id : SessionID) (ok : Bool) : Bool :=
  match lookup s.sessions id ok with
  | .error _ => false
  | .ok session => session.status = .active

/-- The loop over the candidates: the session of the request's own correlation, or else the
first one. -/
def selectSession (active : SessionID → Bool) (correlated : Text) :
    List SessionID → SessionID → SessionID
  | [], selected => selected
  | candidate :: rest, selected =>
    if active candidate then
      if correlated = candidate then candidate
      else selectSession active correlated rest (if selected = [] then candidate else selected)
    else selectSession active correlated rest selected

/-- The question that is put to the Owner. -/
def questionOf (r : Request) : Text := if r.question = [] then r.action else r.question

/-- The first instant of the year 10000, which the encoding of a time refuses. -/
def yearLimit : Time := 253402300800 * 1000000000

/-- `json.Marshal` of the payload succeeds: the arguments, unless they are empty and left out, are
a JSON document, and the expiry has a year of four digits. -/
def encodable (valid : RawMessage → Bool) (r : Request) : Bool :=
  (r.arguments = [] ∨ valid r.arguments) ∧ r.expiresAt < yearLimit

/-- `NewEvent`, and `EmitPermission` up to the row of the presentation, with which the delivery is
stored; `valid` is `json.Valid`. -/
def emitPermission (valid : RawMessage → Bool) (s : State) (r : Request) (sessionID : SessionID)
    (calls : PresentCalls) : State × Option BridgeError :=
  if encodable valid r = false ∨ trimSpace sessionID = [] ∨ r.id = 0 ∨
      trimSpace (questionOf r) = [] then
    (s, some .invalidEvent)
  else if s.available sessionID calls.emitLookup = false then (s, some .sessionUnavailable)
  else
    match listParticipants s.sessions sessionID calls.listParticipants with
    | .error e => (s, some (.session e))
    | .ok participants =>
      if r.ownerID ≠ [] ∧ r.ownerID ∉ participants then (s, some .recipientUnavailable)
      else if calls.createDelivery = true ∧ r.id ∉ s.presentations then
        ({ s with presentations := s.presentations.insert r.id sessionID }, none)
      else (s, some .presentation)

def present (valid : RawMessage → Bool) (s : State) (id : RequestID) (calls : PresentCalls) :
    State × Option BridgeError :=
  match get s.permissions.requests id s.permissions.now calls.get with
  | (requests, .error e) => (s.withRequests requests, some (.manager e))
  | (requests, .ok r) =>
    let t := s.withRequests requests
    if r.status = .expired then (t, some .expired)
    else if r.status ≠ .pending then (t, some .invalidTransition)
    else if calls.loadPresentation = false then (t, some .presentation)
    else if id ∈ t.presentations then (t, none)
    else
      match t.configuredOwner r.ownerID calls.principal with
      | none => (t, some .unauthorized)
      | some _ =>
        match listParticipantSessions t.sessions r.ownerID calls.listSessions with
        | .error e => (t, some (.session e))
        | .ok sessions =>
          let selected := selectSession (fun id => t.available id (calls.lookup id))
            r.correlation.sessionID (sessions.insertionSort (· ≤ ·)) []
          if selected = [] then (t, some .recipientUnavailable)
          else emitPermission valid t r selected calls

/-! ## Decision -/

/-- Which calls of a decision succeed. -/
structure DecideCalls where
  principal : Bool
  participants : Bool
  presentation : Bool
  get : Calls
  resolve : Calls
  resolution : Bool
  deriving DecidableEq

/-- The manager operation of a decision. -/
def resolveBy (s : State) (id : RequestID) (authority : Text) (calls : Calls) :
    Decision → Requests × Except BridgeError Request
  | .approve =>
    let (t, result) := approve s.permissions.requests id authority s.permissions.now calls
    (t, result.mapError .manager)
  | .deny =>
    let (t, result) := deny s.permissions.requests id authority s.permissions.now calls
    (t, result.mapError .manager)
  | .other => (s.permissions.requests, .error .invalidRequest)

/-- `HandlePermissionResolution` begins: a handler stands before its claim. -/
def State.handled (s : State) (r : Request) : State :=
  if r.status = .approved ∨ r.status = .denied then
    { s with
      permissions := ({ s.permissions with nextID := s.permissions.nextID + 1 }).at_
        s.permissions.nextID (.claiming r.id) }
  else s

/-- The decision once the acting principal is admitted and the request was presented here. -/
def decidePresented (s : State) (acting : Principal) (payload : PermissionDecidedPayload)
    (calls : DecideCalls) : State × Except BridgeError Request :=
  match get s.permissions.requests payload.requestID s.permissions.now calls.get with
  | (requests, .error e) => (s.withRequests requests, .error (.manager e))
  | (requests, .ok r) =>
    let t := s.withRequests requests
    if r.status = .expired then (t, .error .expired)
    else if r.ownerID ≠ acting.id then (t, .error .unauthorized)
    else
      match resolveBy t r.id acting.id calls.resolve payload.decision with
      | (requests, .error e) => (t.withRequests requests, .error e)
      | (requests, .ok resolved) =>
        ((t.withRequests requests).handled resolved,
          if calls.resolution then .ok resolved else .error .resolution)

/-- `PermissionBridge.Decide`. -/
def bridgeDecide (s : State) (sessionID : SessionID) (acting : Principal)
    (payload : PermissionDecidedPayload) (calls : DecideCalls) :
    State × Except BridgeError Request :=
  if s.configuredOwner acting.id calls.principal ≠ some acting then (s, .error .unauthorized)
  else
    match listParticipants s.sessions sessionID calls.participants with
    | .error e => (s, .error (.session e))
    | .ok participants =>
      if acting.id ∉ participants then (s, .error .unauthorized)
      else if calls.presentation = false then (s, .error .unauthorized)
      else if s.presentations.lookup payload.requestID ≠ some sessionID then
        (s, .error .unauthorized)
      else decidePresented s acting payload calls

/-! ## What the operations leave alone -/

@[simp] theorem handled_requests (s : State) (r : Request) :
    (s.handled r).permissions.requests = s.permissions.requests := by
  unfold State.handled
  split <;> rfl

/-- Only permission requests have changed. -/
structure State.Frame (s t : State) : Prop where
  identities : t.identities = s.identities
  sessions : t.sessions = s.sessions
  presentations : t.presentations = s.presentations

theorem State.Frame.refl (s : State) : s.Frame s := ⟨rfl, rfl, rfl⟩

theorem handled_frame (s : State) (r : Request) : s.Frame (s.handled r) := by
  unfold State.handled
  split
  · exact ⟨rfl, rfl, rfl⟩
  · exact .refl s

theorem decidePresented_frame (s : State) (payload : PermissionDecidedPayload) :
    s.Frame (decidePresented s acting payload calls).1 := by
  unfold decidePresented
  split
  · exact ⟨rfl, rfl, rfl⟩
  dsimp only
  split
  · exact ⟨rfl, rfl, rfl⟩
  split
  · exact ⟨rfl, rfl, rfl⟩
  split
  · exact ⟨rfl, rfl, rfl⟩
  · rename_i requests _ _ _ _ _ requests' resolved _
    have frame := handled_frame ((s.withRequests requests).withRequests requests') resolved
    exact ⟨frame.identities, frame.sessions, frame.presentations⟩

theorem bridgeDecide_frame (s : State) (sessionID : SessionID) (acting : Principal)
    (payload : PermissionDecidedPayload) (calls : DecideCalls) :
    s.Frame (bridgeDecide s sessionID acting payload calls).1 := by
  unfold bridgeDecide
  split
  · exact .refl s
  split
  · exact .refl s
  split
  · exact .refl s
  split
  · exact .refl s
  split
  · exact .refl s
  · exact decidePresented_frame s payload

/-- What a presentation does: the table is the one after its `Get`, and a new row belongs to the
request. -/
structure PresentEffect (s : State) (id : RequestID) (calls : PresentCalls) (t : State) : Prop where
  identities : t.identities = s.identities
  sessions : t.sessions = s.sessions
  permissions : t.permissions = s.permissions.withRequests
    (get s.permissions.requests id s.permissions.now calls.get).1
  presentations : t.presentations = s.presentations ∨ ∃ requests r sessionID,
    get s.permissions.requests id s.permissions.now calls.get = (requests, .ok r) ∧
      r.id ∉ s.presentations ∧ t.presentations = s.presentations.insert r.id sessionID

theorem emitPermission_effect :
    (emitPermission valid s r sessionID calls).1 = s ∨ r.id ∉ s.presentations ∧
      (emitPermission valid s r sessionID calls).1 =
        { s with presentations := s.presentations.insert r.id sessionID } := by
  grind [emitPermission]

theorem present_effect (valid : RawMessage → Bool) (s : State) (id : RequestID)
    (calls : PresentCalls) : PresentEffect s id calls (present valid s id calls).1 := by
  unfold present
  split
  · rename_i ended
    exact ⟨rfl, rfl, by rw [ended]; rfl, .inl rfl⟩
  rename_i requests r ended
  have quiet : PresentEffect s id calls (s.withRequests requests) :=
    ⟨rfl, rfl, by rw [ended]; rfl, .inl rfl⟩
  dsimp only
  split
  · exact quiet
  split
  · exact quiet
  split
  · exact quiet
  split
  · exact quiet
  split
  · exact quiet
  split
  · exact quiet
  split
  · exact quiet
  rcases emitPermission_effect with same | ⟨fresh, made⟩
  · rw [same]
    exact quiet
  · rw [made]
    exact ⟨rfl, rfl, quiet.permissions, .inr ⟨requests, r, _, ended, fresh, rfl⟩⟩

end NeonDoll.SessionEvent
