import NeonDoll.Permission.Request

/-!
# One replay of the gateway runtime

`GatewayRuntime.replay` of `Core/Runtime/gateway.go`, with `ReplayPending` of
`Core/SessionEvent/service.go` and `ReplayPermissionResolutions` of
`Core/DollMind/tool_executor.go`.  The context is live and the list queries work; each item comes
with what the calls of its processing return.  Only the attempts and the error are kept.
-/

namespace NeonDoll.Runtime

open Lib Permission List

/-! ## The processing of one item -/

/-- `attempt` on a delivery: whether the check and the transport accept it, and whether
`UpdateDelivery` records the result. -/
structure AttemptCalls where
  accepted : Bool
  update : Bool

/-- The delivery that `attempt` returns is nil only when the update fails. -/
def AttemptCalls.ends (calls : AttemptCalls) : Bool :=
  let error := !(calls.accepted && calls.update)
  let updated := calls.update
  error && !updated

/-- What `Present` returns. -/
structure PresentEnd where
  delivery : Bool
  error : Option Bool   -- whether the error is `ErrRecipientUnavailable`

def PresentEnd.ends (result : PresentEnd) : Bool :=
  result.error.isSome && !result.delivery && result.error != some true

inductive NotificationClaim where
  | claimed
  | alreadyClaimed
  | failed
  deriving DecidableEq

/-- The calls of `notifyCompletedOutcome`; without a notifier nothing is done. -/
structure NotifyCalls where
  notifier : Bool
  decodes : Bool
  claim : NotificationClaim
  notify : Bool
  complete : Bool

/-- Whether `notifyCompletedOutcome` returns an error: a failed notification is released and its
error returned. -/
def NotifyCalls.ends (calls : NotifyCalls) : Bool :=
  calls.notifier && (!calls.decodes ||
    match calls.claim with
    | .alreadyClaimed => false
    | .failed => true
    | .claimed => !calls.notify || !calls.complete)

inductive ContinuationClaim where
  | claimed (denied : Bool)
  | alreadyClaimed (completed : Bool)
  | failed
  deriving DecidableEq

/-- The calls of `HandlePermissionResolution`. -/
structure HandleCalls where
  decided : Bool
  claim : ContinuationClaim
  unavailable : Bool    -- no eligible Body, or it is unavailable
  release : Bool
  complete : Bool
  notify : NotifyCalls

def HandleCalls.ends (calls : HandleCalls) : Bool :=
  !calls.decided ||
    match calls.claim with
    | .failed => true
    | .alreadyClaimed completed => completed && calls.notify.ends
    | .claimed denied =>
      if !denied && calls.unavailable then !calls.release
      else !calls.complete || calls.notify.ends

/-- The outcome of the calls of one item. -/
inductive Outcome where
  | delivery (calls : AttemptCalls)
  | request (result : PresentEnd)
  | continuation (calls : HandleCalls)
  | notification (calls : NotifyCalls)

/-- Whether the loop that processes the item returns. -/
def Outcome.ends : Outcome → Bool
  | .delivery calls => calls.ends
  | .request result => result.ends
  | .continuation calls => calls.ends
  | .notification calls => calls.ends

/-! ## The replay -/

inductive Item where
  | delivery (id : Text)
  | request (id : RequestID)
  | continuation (id : RequestID)
  | notification (id : RequestID)
  deriving DecidableEq

/-- The resolution handler: a `ResolutionReplayer` has its manager configured or not, and may fail
to recover the interrupted continuations. -/
inductive Resolution where
  | none
  | handler
  | replayer (requests initialized : Bool)

/-- What a replay finds, with the outcome of every item. -/
structure Pending where
  deliveries : List (Text × AttemptCalls)
  requests : List (RequestID × PresentEnd)
  resolution : Resolution
  ready : List (RequestID × HandleCalls)
  notifications : List (RequestID × NotifyCalls)

/-- The items that are attempted, and whether the loop went through. -/
abbrev Attempts := List Item × Bool

/-- A loop that returns at the first item whose outcome ends it. -/
def attemptAll : List (Item × Outcome) → Attempts
  | [] => ([], true)
  | (item, outcome) :: rest =>
    if outcome.ends then ([item], false) else (item :: (attemptAll rest).1, (attemptAll rest).2)

/-- What follows runs only when no error was returned. -/
def Attempts.andThen (first next : Attempts) : Attempts :=
  if first.2 then (first.1 ++ next.1, next.2) else first

namespace Pending

def deliveryItems (p : Pending) : List (Item × Outcome) :=
  p.deliveries.map fun (id, calls) => (.delivery id, .delivery calls)

def requestItems (p : Pending) : List (Item × Outcome) :=
  p.requests.map fun (id, result) => (.request id, .request result)

def readyItems (p : Pending) : List (Item × Outcome) :=
  p.ready.map fun (id, calls) => (.continuation id, .continuation calls)

def notificationItems (p : Pending) : List (Item × Outcome) :=
  p.notifications.map fun (id, calls) => (.notification id, .notification calls)

def items (p : Pending) : List (Item × Outcome) :=
  p.deliveryItems ++ p.requestItems ++ (p.readyItems ++ p.notificationItems)

def replayPermissionResolutions (p : Pending) (requests initialized : Bool) : Attempts :=
  if requests && initialized then
    (attemptAll p.readyItems).andThen (attemptAll p.notificationItems)
  else ([], false)

def replay (p : Pending) : Attempts :=
  ((attemptAll p.deliveryItems).andThen (attemptAll p.requestItems)).andThen <|
    match p.resolution with
    | .replayer requests initialized => p.replayPermissionResolutions requests initialized
    | .handler => attemptAll p.readyItems
    | .none => ([], true)

/-- The resolution handler gets to everything that waits for it. -/
def resolves (p : Pending) : Prop :=
  match p.resolution with
  | .replayer requests initialized =>
    (requests && initialized) = true ∨ p.ready = [] ∧ p.notifications = []
  | .handler => p.notifications = []
  | .none => p.ready = [] ∧ p.notifications = []

end Pending

/-! ## The outcomes that a replay survives -/

/-- There is no notifier, or another holder has the notification, or it is sent and recorded. -/
def NotifyCalls.Settled (calls : NotifyCalls) : Prop :=
  calls.notifier = false ∨ calls.decodes = true ∧
    (calls.claim = .alreadyClaimed ∨
      calls.claim = .claimed ∧ calls.notify = true ∧ calls.complete = true)

/-- The continuation is claimed elsewhere, or given back for want of a Body, or completed; a
completed one has its outcome settled. -/
def HandleCalls.Settled (calls : HandleCalls) : Prop :=
  calls.decided = true ∧
    match calls.claim with
    | .failed => False
    | .alreadyClaimed completed => completed = true → calls.notify.Settled
    | .claimed denied =>
      if denied = false ∧ calls.unavailable = true then calls.release = true
      else calls.complete = true ∧ calls.notify.Settled

/-- A delivery has the result of its attempt recorded, and a question is presented, recorded as
pending or has no recipient. -/
def Outcome.Settled : Outcome → Prop
  | .delivery calls => calls.update = true
  | .request result => result.error = none ∨ result.delivery = true ∨ result.error = some true
  | .continuation calls => calls.Settled
  | .notification calls => calls.Settled

theorem NotifyCalls.ends_iff (calls : NotifyCalls) : calls.ends = false ↔ calls.Settled := by
  obtain ⟨notifier, decodes, claim, notify, complete⟩ := calls
  cases notifier <;> cases decodes <;> cases claim <;> simp [NotifyCalls.ends, NotifyCalls.Settled]

theorem HandleCalls.ends_iff (calls : HandleCalls) : calls.ends = false ↔ calls.Settled := by
  obtain ⟨decided, claim, unavailable, release, complete, notify⟩ := calls
  have notified := notify.ends_iff
  cases claim with
  | failed => simp [HandleCalls.ends, HandleCalls.Settled]
  | alreadyClaimed completed =>
    cases completed <;> simp [HandleCalls.ends, HandleCalls.Settled, notified]
  | claimed denied =>
    cases denied <;> cases unavailable <;>
      simp [HandleCalls.ends, HandleCalls.Settled, notified]

theorem Outcome.ends_iff (outcome : Outcome) : outcome.ends = false ↔ outcome.Settled := by
  cases outcome with
  | delivery calls =>
    obtain ⟨accepted, update⟩ := calls
    cases accepted <;> cases update <;> simp [Outcome.ends, AttemptCalls.ends, Outcome.Settled]
  | request result =>
    obtain ⟨delivery, error⟩ := result
    rcases error with _ | _ | _ <;> cases delivery <;>
      simp [Outcome.ends, PresentEnd.ends, Outcome.Settled]
  | continuation calls => exact calls.ends_iff
  | notification calls => exact calls.ends_iff

/-! ## What ends a replay -/

theorem attemptAll_append :
    attemptAll (first ++ second) = (attemptAll first).andThen (attemptAll second) := by
  induction first with
  | nil => rfl
  | cons head rest ih =>
    obtain ⟨_, outcome⟩ := head
    cases ends : outcome.ends <;> simp [attemptAll, ih, ends, Attempts.andThen]
    split <;> rfl

/-- A loop gets to every item exactly when every item but the last is settled. -/
theorem attemptAll_items :
    (attemptAll l).1 = l.map Prod.fst ↔ ∀ x ∈ l.dropLast, x.2.Settled := by
  induction l with
  | nil => simp [attemptAll]
  | cons head rest ih =>
    obtain ⟨_, outcome⟩ := head
    have settled := outcome.ends_iff
    cases rest with
    | nil => cases ends : outcome.ends <;> simp [attemptAll, ends]
    | cons next rest =>
      cases ends : outcome.ends with
      | false => simpa [attemptAll, ends, settled.mp ends] using ih
      | true => simp [attemptAll, ends, ← settled]

theorem attemptAll_length (l : List (Item × Outcome)) : (attemptAll l).1.length ≤ l.length := by
  induction l with
  | nil => exact Nat.le_refl 0
  | cons head rest ih =>
    obtain ⟨_, outcome⟩ := head
    cases ends : outcome.ends <;> simp [attemptAll, ih, ends]

/-- Attempts on the first items are attempts on all only when nothing follows. -/
theorem attemptAll_short (first next : List (Item × Outcome)) :
    (attemptAll first).1 = (first ++ next).map Prod.fst ↔
      next = [] ∧ (attemptAll (first ++ next)).1 = (first ++ next).map Prod.fst := by
  constructor
  · intro same
    have few := attemptAll_length first
    have lengths := congrArg List.length same
    have nothing : next = [] := length_eq_zero_iff.mp (by simp at lengths; omega)
    subst nothing
    exact ⟨rfl, by rwa [append_nil] at same ⊢⟩
  · rintro ⟨rfl, same⟩
    rwa [append_nil] at same ⊢

@[simp] theorem andThen_nothing (first : Attempts) :
    (first.andThen ([], ok)).1 = first.1 := by
  unfold Attempts.andThen
  split <;> simp

/-- A replay attempts every item of the four kinds exactly when its handler gets to those that
wait for it and the calls of every item with another one after it settle that item. -/
theorem replay_attempts_all_iff (p : Pending) : p.replay.1 = p.items.map Prod.fst ↔
      p.resolves ∧ ∀ x ∈ p.items.dropLast, x.2.Settled := by
  rw [← attemptAll_items]
  have none_ready : p.readyItems = [] ↔ p.ready = [] := map_eq_nil_iff
  have none_left : p.notificationItems = [] ↔ p.notifications = [] := map_eq_nil_iff
  unfold Pending.replay Pending.resolves Pending.items Pending.replayPermissionResolutions
  rw [← attemptAll_append]
  cases p.resolution with
  | none =>
    simp only [andThen_nothing]
    rw [attemptAll_short, append_eq_nil_iff, none_ready, none_left]
  | handler =>
    simp only
    rw [← attemptAll_append, ← append_assoc, attemptAll_short, none_left]
  | replayer requests initialized =>
    simp only
    split
    · rename_i recovered
      rw [← attemptAll_append, ← attemptAll_append]
      simp [recovered]
    · rename_i unrecovered
      rw [andThen_nothing, attemptAll_short, append_eq_nil_iff, none_ready, none_left]
      simp [unrecovered]

/-- An outcome notification that cannot be sent keeps the next one from its attempt. -/
def unnotified : Pending where
  deliveries := []
  requests := []
  resolution := .replayer true true
  ready := []
  notifications :=
    [(1, ⟨true, true, .claimed, false, true⟩), (2, ⟨true, true, .claimed, true, true⟩)]

theorem failed_notification_ends_replay : unnotified.replay = ([.notification 1], false) ∧
      Item.notification 2 ∈ unnotified.items.map Prod.fst := by
  decide

end NeonDoll.Runtime
