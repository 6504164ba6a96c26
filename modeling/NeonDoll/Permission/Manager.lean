import NeonDoll.ActionPolicy.Policy
import NeonDoll.Permission.Request

/-!
# The permission request manager

The operations of `Core/PermissionRequest/service.go`.  The manager runs one operation at a
time under its mutex, so an operation is a function of the table; `Calls` says which of its
store calls succeed.  A store call that fails has no effect, and the operation ends there.
-/

namespace NeonDoll.Permission

open Lib ActionPolicy

/-- The policy and the JSON codec that the manager uses. -/
structure ManagerConfig where
  policy : Option (ActionPolicy.Request → Result)
  validJSON : RawMessage → Bool
  unmarshal : RawMessage → Option Arguments

inductive ManagerError where
  | notFound
  | invalidRequest
  | invalidTransition
  | store
  deriving DecidableEq

structure CreateRequest where
  dollID : Text
  ownerID : Text
  origin : Origin
  action : Text
  question : Text
  capability : Text
  operation : Text
  arguments : RawMessage
  expiresAt : Time
  correlation : Correlation
  deriving DecidableEq

/-- The outcome of each store call of an operation, in the order of the calls. -/
structure Calls where
  load : Bool
  update : Bool
  reload : Bool
  deriving DecidableEq

open Text

/-! ## Creation -/

/-- The decoded arguments; a blank document stands for an empty map. -/
def decodeArguments (cfg : ManagerConfig) (encoded : RawMessage) : Option Arguments :=
  if encoded = [] then some (some []) else cfg.unmarshal encoded

/-- The checks of an executable action in `validateCreate`. -/
def validateAction (cfg : ManagerConfig) (input : CreateRequest) : Bool :=
  match cfg.policy with
  | none => false
  | some policy =>
    if trimSpace input.capability = [] ∨ trimSpace input.operation = [] then false
    else if input.arguments ≠ [] ∧ cfg.validJSON input.arguments = false then false
    else
      match decodeArguments cfg input.arguments with
      | none => false
      | some arguments =>
        let decision := (policy
          { doll := trimSpace input.dollID
            capability := trimSpace input.capability
            operation := trimSpace input.operation
            arguments := arguments }).decision
        if decision = .deny then false
        else if input.origin = .policyRequired ∧ decision ≠ .requireApproval then false
        else if input.origin = .voluntary ∧ decision ≠ .allow then false
        else true

/-- `validateCreate` accepts the input. -/
def validateCreate (cfg : ManagerConfig) (input : CreateRequest) (now : Time) : Bool :=
  if trimSpace input.dollID = [] ∨ trimSpace input.ownerID = [] ∨ input.expiresAt ≤ now then false
  else if input.origin = .other then false
  else if trimSpace input.action = [] then
    trimSpace input.question ≠ [] ∧ input.origin = .voluntary ∧
      trimSpace input.capability = [] ∧ trimSpace input.operation = []
  else validateAction cfg input

def hasExecutableAction (input : CreateRequest) : Bool :=
  trimSpace input.action ≠ [] ∧ trimSpace input.capability ≠ [] ∧ trimSpace input.operation ≠ []

def newRequest (input : CreateRequest) (id : RequestID) (now : Time) : Request :=
  { id := id
    dollID := trimSpace input.dollID
    ownerID := trimSpace input.ownerID
    origin := input.origin
    action := trimSpace input.action
    question := trimSpace input.question
    capability := trimSpace input.capability
    operation := trimSpace input.operation
    arguments := input.arguments
    status := .pending
    createdAt := now
    expiresAt := input.expiresAt
    resolvedAt := none
    resolvingAuthority := []
    correlation := input.correlation
    continuationStatus := if hasExecutableAction input then .waiting else .none
    continuationResult := none
    continuationUpdatedAt := none
    notificationStatus := .none
    notificationLeaseUntil := none
    notificationDeliveredAt := none
    notificationAttempts := 0
    notificationError := [] }

/-- `Create` with the identifier it has drawn. -/
def create (cfg : ManagerConfig) (s : Requests) (input : CreateRequest) (id : RequestID)
    (now : Time) (ok : Bool) : Requests × Except ManagerError Request :=
  if validateCreate cfg input now then
    match if ok then s.create (newRequest input id now) else none with
    | none => (s, .error .store)
    | some t => (t, .ok (newRequest input id now))
  else (s, .error .invalidRequest)

/-! ## Decisions -/

/-- `LoadPermissionRequest`. -/
def loadRequest (s : Requests) (id : RequestID) (ok : Bool) : Except ManagerError Request :=
  if ok then
    match s.lookup id with
    | none => .error .notFound
    | some r => .ok r
  else .error .store

def transition (s : Requests) (current : Request) (target : Status) (authority : Text)
    (now : Time) (calls : Calls) : Requests × Except ManagerError Request :=
  if calls.update then
    let (t, changed) := s.transition current.id target now authority
    match loadRequest t current.id calls.reload with
    | .error e => (t, .error e)
    | .ok updated =>
      if changed = false ∧ updated.status ≠ target then (t, .error .invalidTransition)
      else (t, .ok updated)
  else (s, .error .store)

def resolve (s : Requests) (id : RequestID) (target : Status) (authority : Text) (now : Time)
    (calls : Calls) : Requests × Except ManagerError Request :=
  if id = 0 ∨ (target = .approved ∨ target = .denied) ∧ trimSpace authority = [] then
    (s, .error .invalidRequest)
  else
    match loadRequest s id calls.load with
    | .error e => (s, .error e)
    | .ok current =>
      if current.status = target then (s, .ok current)
      else if current.status ≠ .pending then (s, .error .invalidTransition)
      else if now < current.expiresAt then
        transition s current target (trimSpace authority) now calls
      else
        match transition s current .expired [] now calls with
        | (t, .error .invalidTransition) => (t, .error .invalidTransition)
        | (t, .error e) => (t, .error e)
        | (t, .ok _) => (t, .error .invalidTransition)

def approve (s : Requests) (id : RequestID) (authority : Text) (now : Time) (calls : Calls) :
    Requests × Except ManagerError Request :=
  resolve s id .approved authority now calls

def deny (s : Requests) (id : RequestID) (authority : Text) (now : Time) (calls : Calls) :
    Requests × Except ManagerError Request :=
  resolve s id .denied authority now calls

def cancel (s : Requests) (id : RequestID) (now : Time) (calls : Calls) :
    Requests × Except ManagerError Request :=
  resolve s id .cancelled [] now calls

def expire (s : Requests) (id : RequestID) (now : Time) (calls : Calls) :
    Requests × Except ManagerError Request :=
  if id = 0 then (s, .error .invalidRequest)
  else
    match loadRequest s id calls.load with
    | .error e => (s, .error e)
    | .ok current =>
      if current.status = .expired then (s, .ok current)
      else if current.status ≠ .pending ∨ now < current.expiresAt then
        (s, .error .invalidTransition)
      else transition s current .expired [] now calls

def expireIfDue (s : Requests) (current : Request) (now : Time) (calls : Calls) :
    Requests × Except ManagerError Request :=
  if current.status ≠ .pending ∨ now < current.expiresAt then (s, .ok current)
  else
    match transition s current .expired [] now calls with
    | (t, .error .invalidTransition) => (t, loadRequest t current.id calls.load)
    | result => result

def get (s : Requests) (id : RequestID) (now : Time) (calls : Calls) :
    Requests × Except ManagerError Request :=
  if id = 0 then (s, .error .invalidRequest)
  else
    match loadRequest s id calls.load with
    | .error e => (s, .error e)
    | .ok current => expireIfDue s current now calls

/-- The loop of `ListPending` over the rows that its query has returned; it stops at the
first error. -/
def listPending (s : Requests) (now : Time) : List (Request × Calls) →
    Requests × Except ManagerError (List Request)
  | [] => (s, .ok [])
  | (current, calls) :: rest =>
    match expireIfDue s current now calls with
    | (t, .error e) => (t, .error e)
    | (t, .ok value) =>
      match listPending t now rest with
      | (u, .error e) => (u, .error e)
      | (u, .ok values) => (u, .ok (if value.status = .pending then value :: values else values))

/-! ## Continuations -/

inductive ClaimResult where
  | claimed (request : Request)
  | alreadyClaimed (request : Request)
  | failed (error : ManagerError)
  deriving DecidableEq

def claimContinuation (s : Requests) (id : RequestID) (now : Time) (calls : Calls) :
    Requests × ClaimResult :=
  if calls.update then
    let (t, changed) := s.claim id now
    match loadRequest t id calls.reload with
    | .error e => (t, .failed e)
    | .ok current => (t, if changed then .claimed current else .alreadyClaimed current)
  else (s, .failed .store)

def releaseContinuation (s : Requests) (id : RequestID) (now : Time) (calls : Calls) :
    Requests × Except ManagerError Request :=
  if calls.update then
    let (t, changed) := s.release id now
    match loadRequest t id calls.reload with
    | .error e => (t, .error e)
    | .ok current =>
      if changed = false ∧ current.continuationStatus ≠ .ready then
        (t, .error .invalidTransition)
      else (t, .ok current)
  else (s, .error .store)

/-- The end state that an outcome stands for. -/
def outcomeStatus (outcome : ContinuationOutcome) : ContinuationStatus :=
  if outcome.success then .succeeded else .failed

def completeContinuation (s : Requests) (id : RequestID) (outcome : ContinuationOutcome)
    (now : Time) (calls : Calls) : Requests × Except ManagerError Request :=
  if calls.update then
    let (t, changed) := s.complete id (outcomeStatus outcome) outcome now
    match loadRequest t id calls.reload with
    | .error e => (t, .error e)
    | .ok current =>
      if changed = false ∧ current.continuationStatus ≠ outcomeStatus outcome then
        (t, .error .invalidTransition)
      else (t, .ok current)
  else (s, .error .store)

/-- The outcome recorded for an approved action whose execution a restart has interrupted. -/
def ambiguousOutcome : ContinuationOutcome :=
  { success := false
    executionID := []
    output := []
    errorCode := "execution_outcome_ambiguous".toList
    error := ("Core restarted after action dispatch began; " ++
      "external execution outcome is unknown and was not replayed").toList }

def recoverInterruptedContinuations (s : Requests) (now : Time) (ok : Bool) : Requests :=
  if ok then s.recover ambiguousOutcome now else s

end NeonDoll.Permission
