import NeonDoll.SessionEvent.Event

/-!
# Deliveries of session events

The rows of `Core/Persistence/session_events.go` and the attempt of
`Core/SessionEvent/service.go`: the session and the recipient are checked, the event is handed
to the transport, and the result is recorded.
-/

namespace NeonDoll.SessionEvent

open Lib Session

inductive DeliveryStatus where
  | pending
  | accepted
  | failed
  deriving DecidableEq

/-- Times are in nanoseconds from the epoch. -/
structure Delivery where
  id : Text
  event : Event
  targetPrincipalID : Text
  owner : Owner
  status : DeliveryStatus
  error : Text
  createdAt : Int
  updatedAt : Int
  deriving DecidableEq

/-- The table `interaction_session_event_deliveries`. -/
abbrev Deliveries := GoMap Text Delivery

/-- `insertDelivery`: the delivery and its event have identifiers of their own. -/
def insertDelivery (rows : Deliveries) (delivery : Delivery) (ok : Bool) : Option Deliveries :=
  if ok = true ∧ delivery.id ∉ rows ∧
      rows.entries.all fun row => row.2.event.id ≠ delivery.event.id then
    some (rows.insert delivery.id delivery)
  else none

/-- Whether the statement of an update and the load after it work. -/
structure UpdateCalls where
  exec : Bool
  load : Bool
  deriving DecidableEq

def Delivery.recorded (delivery : Delivery) (status : DeliveryStatus) (failure : Text) (now : Int) :
    Delivery :=
  { delivery with status := status, error := failure, updatedAt := now }

/-- `UpdateDelivery`: the row is updated whatever its status is. -/
def updateDelivery (rows : Deliveries) (id : Text) (status : DeliveryStatus) (failure : Text)
    (now : Int) (calls : UpdateCalls) : Deliveries × Option Delivery :=
  if calls.exec then
    match rows.lookup id with
    | none => (rows, none)
    | some delivery =>
      (rows.insert id (delivery.recorded status failure now),
        if calls.load then some (delivery.recorded status failure now) else none)
  else (rows, none)

/-- `ListPendingDeliveries`, in the order of the table. -/
def pendingDeliveries (rows : Deliveries) : List Delivery :=
  (rows.entries.map Sigma.snd).filter fun delivery => delivery.status = .pending

/-! ## An attempt -/

def sessionUnavailableText : Text := "session event: session unavailable".toList

def recipientUnavailableText : Text := "session event: recipient unavailable".toList

/-- What an attempt finds before it sends. -/
inductive Finding where
  | sessionUnavailable
  | unlisted
  | recipientUnavailable
  | deliverable
  deriving DecidableEq

/-- Whether the queries of an attempt work. -/
structure CheckCalls where
  lookup : Bool
  listParticipants : Bool
  deriving DecidableEq

/-- The checks of `attempt` on the sessions and participants it finds. -/
def Delivery.check (delivery : Delivery) (sessions : Store) (calls : CheckCalls) : Finding :=
  match lookup sessions delivery.event.sessionID calls.lookup with
  | .error _ => .sessionUnavailable
  | .ok session =>
    if session.status ≠ .active ∨ session.owner ≠ delivery.owner then .sessionUnavailable
    else if delivery.targetPrincipalID = [] then .deliverable
    else
      match listParticipants sessions delivery.event.sessionID calls.listParticipants with
      | .error _ => .unlisted
      | .ok participants =>
        if delivery.targetPrincipalID ∈ participants then .deliverable
        else .recipientUnavailable

/-- What the transport answers; an error may be terminal. -/
inductive Sent where
  | ok
  | error (text : Text) (terminal : Bool)
  deriving DecidableEq

/-- The status and the error text that an attempt records. -/
structure Outcome where
  status : DeliveryStatus
  error : Text
  deriving DecidableEq

/-- The outcome of an attempt that does not send; `listError` is the error of the query for the
participants. -/
def Finding.outcome (listError : Text) : Finding → Option Outcome
  | .sessionUnavailable => some ⟨.failed, sessionUnavailableText⟩
  | .unlisted => some ⟨.pending, listError⟩
  | .recipientUnavailable => some ⟨.failed, recipientUnavailableText⟩
  | .deliverable => none

def Sent.outcome : Sent → Outcome
  | .ok => ⟨.accepted, []⟩
  | .error text terminal => ⟨if terminal then .failed else .pending, text⟩

theorem updateDelivery_rows {rows : Deliveries} {id : Text} {failure : Text} :
    (updateDelivery rows id status failure now calls).1.lookup other =
      if calls.exec = true ∧ other = id then
        (rows.lookup id).map fun delivery => delivery.recorded status failure now
      else rows.lookup other := by
  unfold updateDelivery
  cases calls.exec with
  | false => rfl
  | true =>
    rw [if_pos rfl]
    cases found : rows.lookup id with
    | none =>
      dsimp only
      split
      · rename_i same
        rw [same.2, found]
        rfl
      · rfl
    | some delivery =>
      rw [GoMap.lookup_insert_ite]
      simp only [true_and]
      split
      all_goals rfl

theorem mem_pendingDeliveries (member : delivery ∈ pendingDeliveries rows) :
    ∃ id, rows.lookup id = some delivery ∧ delivery.status = .pending := by
  obtain ⟨found, pending⟩ := List.mem_filter.mp member
  obtain ⟨entry, inside, rfl⟩ := List.mem_map.mp found
  exact ⟨entry.1, AList.mem_lookup_iff.mpr inside, of_decide_eq_true pending⟩

end NeonDoll.SessionEvent
