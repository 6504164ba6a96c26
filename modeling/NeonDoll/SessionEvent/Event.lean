import NeonDoll.Permission.Request
import NeonDoll.Session.Store

/-!
# Session events

The event of `Core/SessionEvent/types.go` with its validation.  What `json.Unmarshal` makes of a
payload is a parameter, one function for each type of payload.
-/

namespace NeonDoll.SessionEvent

open Lib Text Permission

def version : Int := 1

inductive EventType where
  | message
  | permissionRequested
  | permissionDecided
  | status
  | error
  | other
  deriving DecidableEq

inductive PartType where
  | text
  | image
  | file
  | audio
  | video
  | other
  deriving DecidableEq

/-- The fields of a part that its validation reads. -/
structure MessagePart where
  type : PartType
  text : Text
  mediaID : Text
  sizeBytes : Int
  deriving DecidableEq

/-- The fields of a permission request event that its validation reads; the zero time is
`none`. -/
structure PermissionRequestedPayload where
  requestID : RequestID
  question : Text
  expiresAt : Option Time
  deriving DecidableEq

inductive Decision where
  | approve
  | deny
  | other
  deriving DecidableEq

structure PermissionDecidedPayload where
  requestID : RequestID
  decision : Decision
  deriving DecidableEq

structure ErrorPayload where
  code : Text
  message : Text
  deriving DecidableEq

/-- A document as a payload of each type. -/
structure Codec where
  valid : RawMessage → Bool
  message : RawMessage → Option (List MessagePart)
  permissionRequested : RawMessage → Option PermissionRequestedPayload
  permissionDecided : RawMessage → Option PermissionDecidedPayload
  status : RawMessage → Option Text
  error : RawMessage → Option ErrorPayload

/-- The event; of its correlation only the request is validated, and an empty one is `none`. -/
structure Event where
  version : Int
  id : Text
  sessionID : Session.SessionID
  type : EventType
  timestamp : Option Time
  correlatedRequest : Option RequestID
  payload : RawMessage
  deriving DecidableEq

def validPart (part : MessagePart) : Bool :=
  match part.type with
  | .text => trimSpace part.text ≠ [] ∧ part.mediaID = []
  | .image | .file | .audio | .video => trimSpace part.mediaID ≠ [] ∧ 0 ≤ part.sizeBytes
  | .other => false

/-- The correlation names no other request than the payload. -/
def Event.correlates (event : Event) (id : RequestID) : Bool :=
  event.correlatedRequest.all fun correlated => correlated = id

/-- The part of `Validate` that depends on the type. -/
def Event.validPayload (codec : Codec) (event : Event) : Bool :=
  match event.type with
  | .message =>
    (codec.message event.payload).any fun parts => parts ≠ [] ∧ parts.all validPart
  | .permissionRequested =>
    (codec.permissionRequested event.payload).any fun payload =>
      payload.requestID ≠ 0 ∧ trimSpace payload.question ≠ [] ∧ payload.expiresAt.isSome ∧
        event.correlates payload.requestID
  | .permissionDecided =>
    (codec.permissionDecided event.payload).any fun payload =>
      payload.requestID ≠ 0 ∧ (payload.decision = .approve ∨ payload.decision = .deny) ∧
        event.correlates payload.requestID
  | .status => (codec.status event.payload).any fun status => trimSpace status ≠ []
  | .error =>
    (codec.error event.payload).any fun payload =>
      trimSpace payload.code ≠ [] ∧ trimSpace payload.message ≠ []
  | .other => false

/-- `Validate` accepts the event. -/
def Event.validate (codec : Codec) (event : Event) : Bool :=
  if event.version ≠ SessionEvent.version ∨ trimSpace event.id = [] ∨
      trimSpace event.sessionID = [] ∨ event.timestamp = none ∨
      codec.valid event.payload = false then false
  else event.validPayload codec

def decodePermissionDecision (codec : Codec) (event : Event) : Option PermissionDecidedPayload :=
  if event.type ≠ .permissionDecided ∨ event.validate codec = false then none
  else codec.permissionDecided event.payload

end NeonDoll.SessionEvent
