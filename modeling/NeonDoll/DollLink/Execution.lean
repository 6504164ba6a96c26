import NeonDoll.Lib.GoMap
import NeonDoll.Lib.Text
import NeonDoll.Lib.Transition

/-!
# Execution requests and results

`DollLink/Execution`: the messages and their validation, the `Dispatcher` of a Body and the
`Client` of the Core.  JSON objects are values of an arbitrary type `J`.  What the permission
check and the executor of a Body do is given to each call from outside; the calls it makes are
part of its outcome.  The client is a system whose steps are its critical sections.
-/

namespace NeonDoll.DollLink.Execution

open Lib

/-! ## Messages -/

/-- A `time.Time`: nanoseconds from the zero time, and the offset of its zone. -/
structure Timestamp where
  nanoseconds : Int
  offset : Int
  deriving DecidableEq

/-- Nanoseconds from the zero time to the Unix epoch. -/
def unixEpoch : Int := 62135596800 * 1000000000

/-- `time.Now().UTC()` of a clock that counts from the Unix epoch. -/
def Timestamp.utcNow (clock : Nat) : Timestamp := ⟨unixEpoch + clock, 0⟩

inductive Sender where
  | core
  | body
  deriving DecidableEq

def typeRequest : Text := "execution.request".toList
def typeResult : Text := "execution.result".toList

def statusSuccess : Text := "success".toList
def statusDenied : Text := "denied".toList
def statusUnsupported : Text := "unsupported".toList
def statusInvalid : Text := "invalid".toList
def statusUnavailable : Text := "unavailable".toList
def statusFailed : Text := "failed".toList
def statusCancelled : Text := "cancelled".toList
def statusExpired : Text := "expired".toList

/-- The terminal statuses. -/
def statuses : List Text :=
  [statusSuccess, statusDenied, statusUnsupported, statusInvalid, statusUnavailable, statusFailed,
    statusCancelled, statusExpired]

variable {J : Type}

/-- `none` stands for a nil map. -/
structure RequestPayload (J : Type) where
  executionID : Text
  capability : Text
  operation : Text
  arguments : Option J
  deriving DecidableEq

structure Request (J : Type) where
  type : Text
  id : Text
  timestamp : Timestamp
  dollID : Text
  bodyID : Text
  correlationID : Text
  payload : RequestPayload J
  deriving DecidableEq

structure ResultPayload (J : Type) where
  executionID : Text
  status : Text
  result : Option J
  deriving DecidableEq

structure Result (J : Type) where
  type : Text
  id : Text
  timestamp : Timestamp
  dollID : Text
  bodyID : Text
  correlationID : Text
  payload : ResultPayload J
  deriving DecidableEq

inductive ExecutionError where
  | requestSender
  | requestType (type : Text)
  | resultSender
  | resultType (type : Text)
  | messageID
  | timestampMissing
  | timestampZone
  | bodyID
  | requestCorrelation
  | requestPayload
  | requestArguments
  | resultCorrelation
  | resultExecution
  | unknownStatus (status : Text)
  | correlationMismatch (got want : Text)
  | executionMismatch (got want : Text)
  | bodyMismatch (got want : Text)
  | dollMismatch (got want : Text)
  | cannotCorrelate
  | otherBody (request here : Text)
  | foreignBody (result client : Text)
  | unsolicited (correlationID : Text)
  | disconnected
  | closed
  | send
  | cancelled
  | deadline
  deriving DecidableEq

/-! ## Validation -/

def validateEnvelope (id : Text) (timestamp : Timestamp) (bodyID : Text) :
    Except ExecutionError Unit :=
  if id = [] then .error .messageID
  else if timestamp.nanoseconds = 0 then .error .timestampMissing
  else if timestamp.offset ≠ 0 then .error .timestampZone
  else if bodyID = [] then .error .bodyID
  else .ok ()

def Request.validate (r : Request J) (sender : Sender) : Except ExecutionError Unit :=
  if sender ≠ .core then .error .requestSender
  else if r.type ≠ typeRequest then .error (.requestType r.type)
  else
    match validateEnvelope r.id r.timestamp r.bodyID with
    | .error e => .error e
    | .ok () =>
      if r.correlationID ≠ [] then .error .requestCorrelation
      else if r.payload.executionID = [] ∨ r.payload.capability = [] ∨
          r.payload.operation = [] then .error .requestPayload
      else if r.payload.arguments.isNone then .error .requestArguments
      else .ok ()

def Result.validate (r : Result J) (sender : Sender) : Except ExecutionError Unit :=
  if sender ≠ .body then .error .resultSender
  else if r.type ≠ typeResult then .error (.resultType r.type)
  else
    match validateEnvelope r.id r.timestamp r.bodyID with
    | .error e => .error e
    | .ok () =>
      if r.correlationID = [] then .error .resultCorrelation
      else if r.payload.executionID = [] then .error .resultExecution
      else if r.payload.status ∉ statuses then .error (.unknownStatus r.payload.status)
      else .ok ()

def Result.validateResponseTo (r : Result J) (request : Request J) : Except ExecutionError Unit :=
  if r.correlationID ≠ request.id then .error (.correlationMismatch r.correlationID request.id)
  else if r.payload.executionID ≠ request.payload.executionID then
    .error (.executionMismatch r.payload.executionID request.payload.executionID)
  else if r.bodyID ≠ request.bodyID then .error (.bodyMismatch r.bodyID request.bodyID)
  else if request.dollID ≠ [] ∧ r.dollID ≠ request.dollID then
    .error (.dollMismatch r.dollID request.dollID)
  else .ok ()

/-! ## The dispatcher of a Body -/

/-- What `errors.Is` says about the error of an executor. -/
structure LocalError where
  canceled : Bool
  deadlineExceeded : Bool
  unsupported : Bool
  invalid : Bool
  unavailable : Bool
  deriving DecidableEq

inductive ContextError where
  | canceled
  | deadlineExceeded
  deriving DecidableEq

/-- A text that `uuid.NewString` may return. -/
abbrev Uuid := { t : Text // t ≠ [] }

/-- What one call of the dispatcher meets. -/
structure Surroundings (J : Type) where
  context : Option ContextError
  /-- `none` when the Body has no permission check. -/
  permission : Option (Request J → Bool)
  executor : Text → Text → Option J → Except LocalError (Option J)
  uuid : Uuid
  clock : Nat

/-- The calls that the dispatcher makes. -/
inductive Call (J : Type) where
  | allowExecution (request : Request J)
  | executeCapability (capability operation : Text) (arguments : Option J)
  deriving DecidableEq

def Call.executes : Call J → Bool
  | .executeCapability .. => true
  | .allowExecution _ => false

structure Dispatcher where
  bodyID : Text
  named : bodyID ≠ []

namespace Dispatcher

def result (d : Dispatcher) (env : Surroundings J) (request : Request J) (status : Text)
    (value : Option J) : Result J :=
  { type := typeResult
    id := env.uuid.val
    timestamp := .utcNow env.clock
    dollID := request.dollID
    bodyID := d.bodyID
    correlationID := request.id
    payload :=
      { executionID := request.payload.executionID
        status := status
        result := value } }

/-- The status for an error of the executor. -/
def statusOf (e : LocalError) : Text :=
  if e.canceled then statusCancelled
  else if e.deadlineExceeded then statusExpired
  else if e.unsupported then statusUnsupported
  else if e.invalid then statusInvalid
  else if e.unavailable then statusUnavailable
  else statusFailed

/-- The call of the executor and what becomes of its outcome. -/
def execute (d : Dispatcher) (env : Surroundings J) (request : Request J) :
    List (Call J) × Result J :=
  let payload := request.payload
  ([.executeCapability payload.capability payload.operation payload.arguments],
    match env.executor payload.capability payload.operation payload.arguments with
    | .ok value => d.result env request statusSuccess value
    | .error e => d.result env request (statusOf e) none)

/-- A request that is valid and not cancelled. -/
def authorize (d : Dispatcher) (env : Surroundings J) (request : Request J) :
    List (Call J) × Result J :=
  match env.permission with
  | none => ([], d.result env request statusDenied none)
  | some allow =>
    if allow request then
      let (calls, result) := d.execute env request
      (.allowExecution request :: calls, result)
    else ([.allowExecution request], d.result env request statusDenied none)

def handleExecutionRequest (d : Dispatcher) (env : Surroundings J) (request : Request J) :
    List (Call J) × Except ExecutionError (Result J) :=
  if request.id = [] ∨ request.bodyID = [] ∨ request.payload.executionID = [] then
    ([], .error .cannotCorrelate)
  else if request.bodyID ≠ d.bodyID then ([], .error (.otherBody request.bodyID d.bodyID))
  else
    match request.validate .core with
    | .error _ => ([], .ok (d.result env request statusInvalid none))
    | .ok () =>
      match env.context with
      | some .deadlineExceeded => ([], .ok (d.result env request statusExpired none))
      | some .canceled => ([], .ok (d.result env request statusCancelled none))
      | none =>
        let (calls, result) := d.authorize env request
        (calls, .ok result)

end Dispatcher

/-! ## The client of the Core -/

/-- The identifiers that `uuid.NewString` returns, in order. -/
structure Uuids where
  text : Nat → Uuid
  injective : Function.Injective text

/-- A call of `Execute`; its number stands for the pointer to its `pendingRequest`. -/
abbrev CallID := Nat

structure PendingRequest (J : Type) where
  request : Request J
  call : CallID
  deriving DecidableEq

/-- Where a call of `Execute` stands after its request is pending. -/
inductive CallPc (J : Type) where
  | sending (request : Request J)
  | waiting (request : Request J)
  deriving DecidableEq

structure Client (J : Type) where
  bodyID : Text
  pending : GoMap Text (PendingRequest J)
  closed : Option ExecutionError
  calls : GoMap CallID (CallPc J)
  /-- The buffered channel of each call. -/
  buffers : GoMap CallID (Except ExecutionError (Result J))
  clock : Nat
  next : Nat

inductive ClientEvent (J : Type) where
  /-- The request of the call is pending and handed to the sender. -/
  | sent (call : CallID) (request : Request J)
  | returned (call : CallID) (outcome : Except ExecutionError (Result J))
  | refused (error : ExecutionError)
  | accepted (result : Result J)

inductive ClientAction (J : Type) where
  | tick (elapsed : Nat)
  | execute (dollID : Text) (payload : RequestPayload J)
  /-- `SendExecutionRequest` returns. -/
  | sendDone (call : CallID) (ok : Bool)
  /-- The channel of a waiting call has a value. -/
  | receive (call : CallID)
  /-- The context of a waiting call ends. -/
  | contextDone (call : CallID) (error : ContextError)
  | handleResult (result : Result J)
  | close (reason : Option ExecutionError)

namespace Client

def new (bodyID : Text) : Client J :=
  { bodyID := bodyID, pending := ∅, closed := none, calls := ∅, buffers := ∅, clock := 0,
    next := 0 }

/-- The request that `Execute` builds. -/
def requestOf (uuids : Uuids) (c : Client J) (dollID : Text) (payload : RequestPayload J) :
    Request J :=
  { type := typeRequest
    id := (uuids.text c.next).val
    timestamp := .utcNow c.clock
    dollID := dollID
    bodyID := c.bodyID
    correlationID := []
    payload := payload }

/-- `Execute` up to the sender. -/
def execute (uuids : Uuids) (c : Client J) (dollID : Text) (payload : RequestPayload J) :
    Client J × List (ClientEvent J) :=
  let request := c.requestOf uuids dollID payload
  let drawn := { c with next := c.next + 1 }
  match request.validate .core with
  | .error e => (drawn, [.refused e])
  | .ok () =>
    match c.closed with
    | some reason => (drawn, [.refused reason])
    | none =>
      ({ drawn with
          pending := c.pending.insert request.id ⟨request, c.next⟩
          calls := c.calls.insert c.next (.sending request) },
        [.sent c.next request])

/-- `remove`, and whether it removed the entry. -/
def remove (c : Client J) (id : Text) (call : CallID) : Client J × Bool :=
  match c.pending.lookup id with
  | none => (c, false)
  | some p =>
    if p.call = call then ({ c with pending := c.pending.erase id }, true) else (c, false)

def finish (c : Client J) (call : CallID) (outcome : Except ExecutionError (Result J)) :
    Client J × List (ClientEvent J) :=
  ({ c with calls := c.calls.erase call }, [.returned call outcome])

def contextError : ContextError → ExecutionError
  | .canceled => .cancelled
  | .deadlineExceeded => .deadline

def handleResult (c : Client J) (result : Result J) : Client J × Except ExecutionError Unit :=
  match result.validate .body with
  | .error e => (c, .error e)
  | .ok () =>
    if result.bodyID ≠ c.bodyID then (c, .error (.foreignBody result.bodyID c.bodyID))
    else
      match c.pending.lookup result.correlationID with
      | none => (c, .error (.unsolicited result.correlationID))
      | some pending =>
        match result.validateResponseTo pending.request with
        | .error e => (c, .error e)
        | .ok () =>
          ({ c with
              pending := c.pending.erase result.correlationID
              buffers := c.buffers.insert pending.call (.ok result) }, .ok ())

/-- `Close` releases every pending call. -/
def close (c : Client J) (reason : Option ExecutionError) : Client J :=
  match c.closed with
  | some _ => c
  | none =>
    let reason := reason.getD .closed
    { c with
      closed := some reason
      pending := ∅
      buffers :=
        c.pending.entries.foldl (fun buffers entry => buffers.insert entry.2.call (.error reason))
          c.buffers }

def step? (uuids : Uuids) (c : Client J) :
    ClientAction J → Option (Client J × List (ClientEvent J))
  | .tick elapsed => some ({ c with clock := c.clock + elapsed }, [])
  | .execute dollID payload => some (c.execute uuids dollID payload)
  | .sendDone call ok =>
    match c.calls.lookup call with
    | some (.sending request) =>
      if ok then some ({ c with calls := c.calls.insert call (.waiting request) }, [])
      else some ((c.remove request.id call).1.finish call (.error .send))
    | _ => none
  | .receive call =>
    match c.calls.lookup call, c.buffers.lookup call with
    | some (.waiting _), some outcome =>
      some (({ c with buffers := c.buffers.erase call }).finish call outcome)
    | _, _ => none
  | .contextDone call error =>
    match c.calls.lookup call with
    | some (.waiting request) =>
      match c.remove request.id call with
      | (removed, true) => some (removed.finish call (.error (contextError error)))
      -- A result won the race; the call goes on waiting for its channel.
      | (_, false) => some (c, [])
    | _ => none
  | .handleResult result =>
    match c.handleResult result with
    | (d, .ok ()) => some (d, [.accepted result])
    | (d, .error e) => some (d, [.refused e])
  | .close reason => some (c.close reason, [])

end Client

/-- The client of an authenticated Body. -/
def Client.system (uuids : Uuids) (bodyID : Text) :
    Transition.System (Client J) (ClientAction J) (ClientEvent J) :=
  ⟨.new bodyID, Client.step? uuids⟩

end NeonDoll.DollLink.Execution
