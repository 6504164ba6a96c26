import NeonDoll.Lib.GoMap
import NeonDoll.Lib.Text

/-!
# Permission requests and their rows

The record of `Core/PermissionRequest/types.go` and the statements that
`Core/Persistence/permission_requests.go` runs on it.  Every statement but the creation and
the recovery is a conditional update of one row that reports whether the row changed.
-/

namespace NeonDoll.Permission

open Lib

/-- Nanoseconds since the epoch. -/
abbrev Time := Nat

/-- Request identifier; `0` is a blank text. -/
abbrev RequestID := Nat

/-- An encoded JSON document; the empty list is the empty text. -/
abbrev RawMessage := List Nat

inductive Origin where
  | policyRequired
  | voluntary
  | other
  deriving DecidableEq

inductive Status where
  | pending
  | approved
  | denied
  | expired
  | cancelled
  deriving DecidableEq

inductive ContinuationStatus where
  | none
  | waiting
  | ready
  | running
  | succeeded
  | failed
  | denied
  deriving DecidableEq

inductive NotificationStatus where
  | none
  | pending
  | delivering
  | delivered
  deriving DecidableEq

structure Correlation where
  cognitiveRunID : Text
  sessionID : Text
  turnID : Text
  toolCallID : Text
  intentionID : Text
  deriving DecidableEq

structure ContinuationOutcome where
  success : Bool
  executionID : Text
  output : RawMessage
  errorCode : Text
  error : Text
  deriving DecidableEq

structure Request where
  id : RequestID
  dollID : Text
  ownerID : Text
  origin : Origin
  action : Text
  question : Text
  capability : Text
  operation : Text
  arguments : RawMessage
  status : Status
  createdAt : Time
  expiresAt : Time
  resolvedAt : Option Time
  resolvingAuthority : Text
  correlation : Correlation
  continuationStatus : ContinuationStatus
  continuationResult : Option ContinuationOutcome
  continuationUpdatedAt : Option Time
  notificationStatus : NotificationStatus
  notificationLeaseUntil : Option Time
  notificationDeliveredAt : Option Time
  notificationAttempts : Nat
  notificationError : Text
  deriving DecidableEq

/-- The table `permission_requests`. -/
abbrev Requests := GoMap RequestID Request

namespace Requests

/-- `CreatePermissionRequest`; the identifier is the primary key. -/
def create (s : Requests) (r : Request) : Option Requests :=
  if r.id ∈ s then none else some (s.insert r.id r)

/-- `UPDATE … WHERE request_id = ? AND …`, with whether a row changed. -/
def updateWhere (s : Requests) (id : RequestID) (p : Request → Bool) (f : Request → Request) :
    Requests × Bool :=
  match s.lookup id with
  | none => (s, false)
  | some r => if p r then (s.insert id (f r), true) else (s, false)

def decided (target : Status) (now : Time) (authority : Text) (r : Request) : Request :=
  { r with
    status := target
    resolvedAt := some now
    resolvingAuthority := authority
    continuationStatus :=
      if target = .approved ∧ r.continuationStatus = .waiting then .ready
      else if target = .denied ∧ r.continuationStatus = .waiting then .denied
      else r.continuationStatus
    continuationUpdatedAt :=
      if r.continuationStatus = .none then r.continuationUpdatedAt else some now }

/-- `TransitionPermissionRequest`. -/
def transition (s : Requests) (id : RequestID) (target : Status) (now : Time)
    (authority : Text) : Requests × Bool :=
  s.updateWhere id (fun r => r.status = .pending) (decided target now authority)

/-- The continuation may be claimed: of an approved request to run the action, of a denied
one to report the refusal. -/
def claimable (r : Request) : Bool :=
  r.status = .approved ∧ r.continuationStatus = .ready ∨
    r.status = .denied ∧ r.continuationStatus = .denied

/-- `ClaimPermissionContinuation`. -/
def claim (s : Requests) (id : RequestID) (now : Time) : Requests × Bool :=
  s.updateWhere id claimable fun r =>
    { r with continuationStatus := .running, continuationUpdatedAt := some now }

/-- `ReleasePermissionContinuation`. -/
def release (s : Requests) (id : RequestID) (now : Time) : Requests × Bool :=
  s.updateWhere id (fun r => r.status = .approved ∧ r.continuationStatus = .running) fun r =>
    { r with continuationStatus := .ready, continuationUpdatedAt := some now }

def finished (target : ContinuationStatus) (outcome : ContinuationOutcome) (now : Time)
    (r : Request) : Request :=
  { r with
    continuationStatus := target
    continuationResult := some outcome
    continuationUpdatedAt := some now
    notificationStatus := .pending
    notificationLeaseUntil := none
    notificationDeliveredAt := none
    notificationError := [] }

/-- `CompletePermissionContinuation`. -/
def complete (s : Requests) (id : RequestID) (target : ContinuationStatus)
    (outcome : ContinuationOutcome) (now : Time) : Requests × Bool :=
  s.updateWhere id (fun r => r.continuationStatus = .running) (finished target outcome now)

/-- One row under the two updates of `RecoverInterruptedPermissionContinuations`. -/
def recovered (ambiguous : ContinuationOutcome) (now : Time) (r : Request) : Request :=
  if r.status = .approved ∧ r.continuationStatus = .running then
    finished .failed ambiguous now r
  else if r.status = .denied ∧ r.continuationStatus = .running then
    { r with continuationStatus := .denied, continuationUpdatedAt := some now }
  else r

/-- `RecoverInterruptedPermissionContinuations`, one transaction over all rows. -/
def recover (s : Requests) (ambiguous : ContinuationOutcome) (now : Time) : Requests :=
  s.mapValues (recovered ambiguous now)

/-! ## Rows after a statement -/

variable {s t : Requests} {id : RequestID} {p : Request → Bool} {f : Request → Request}

/-- A conditional update changes one row, which meets the condition, or there is no such row
and it changes nothing. -/
theorem updateWhere_cases (s : Requests) (id : RequestID) (p : Request → Bool)
    (f : Request → Request) :
    s.updateWhere id p f = (s, false) ∧ (∀ r, s.lookup id = some r → p r = false) ∨
      ∃ r, s.lookup id = some r ∧ p r = true ∧
        s.updateWhere id p f = (s.insert id (f r), true) := by
  unfold updateWhere
  split
  all_goals grind

end Requests

end NeonDoll.Permission
