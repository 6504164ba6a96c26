import NeonDoll.Lib.Transition
import NeonDoll.Persistence.TimeText

/-!
# Leases of outcome notifications

Claimants hand out the notification of one permission request.  The row keeps the end of the last
lease and not who holds it, so `Complete` and `Release` change whatever claim is there.  A claimant
that has crashed takes no further steps.
-/

namespace NeonDoll.Permission.Lease

open Lib Persistence

/-- The update of a row that is being delivered, whoever has claimed it. -/
def settle (status : NotificationStatus) (row : OutcomeRow) : OutcomeRow :=
  if row.notificationStatus = .delivering then
    { row with notificationStatus := status, notificationLeaseUntil := none }
  else row

def completePermissionOutcomeNotification (row : OutcomeRow) : OutcomeRow := settle .delivered row

def releasePermissionOutcomeNotification (row : OutcomeRow) : OutcomeRow := settle .pending row

/-- `claims` has the claimants that have not ended, with the ends of their leases; `last` is who has
claimed last. -/
structure State where
  now : Int
  row : OutcomeRow
  claims : GoMap Nat Int
  last : Option Nat

inductive Action where
  | tick (time : Nat)
  | claim (claimant : Nat) (lease : Int)
  | complete (claimant : Nat)
  | release (claimant : Nat)
  deriving DecidableEq

def State.ended (s : State) (claimant : Nat) (row : OutcomeRow) : Option (State × List Empty) :=
  if (s.claims.lookup claimant).isSome then
    some ({ s with row := row, claims := s.claims.erase claimant }, [])
  else none

def step? (s : State) : Action → Option (State × List Empty)
  | .tick time => some ({ s with now := s.now + time }, [])
  | .claim claimant lease =>
    -- `ErrInvalidRequest`; a claimant is one attempt to notify
    if lease ≤ 0 ∨ (s.claims.lookup claimant).isSome then none
    else
      match claimPermissionOutcomeNotification formatTime s.row s.now (s.now + lease) with
      | (_, false) => some (s, [])
      | (row, true) =>
        some ({ s with
          row := row
          claims := s.claims.insert claimant (s.now + lease)
          last := some claimant }, [])
  | .complete claimant => s.ended claimant (completePermissionOutcomeNotification s.row)
  | .release claimant => s.ended claimant (releasePermissionOutcomeNotification s.row)

def system (row : OutcomeRow) (now : Int) : Transition.System State Action Empty where
  init := ⟨now, row, ∅, none⟩
  step? := step?

/-- At most one claimant has a lease that has not ended. -/
def Exclusive (s : State) : Prop := ∀ k k' u u', s.claims.lookup k = some u →
  s.claims.lookup k' = some u' → s.now < u → s.now < u' → k = k'

/-- A claimant whose lease has ended leaves a newer claim alone, and delivered is final. -/
structure Respects (s : State) (a : Action) (t : State) : Prop where
  newer : ∀ k u, a = .complete k ∨ a = .release k → s.claims.lookup k = some u → u ≤ s.now →
    s.last ≠ some k → t.row = s.row
  delivered : s.row.notificationStatus = .delivered → t.row.notificationStatus = .delivered

/-- A lease whose text is not after that of the clock has ended, and only the last claimant ends a
delivery. -/
def inOrder (s : State) : Action → Prop
  | .claim _ _ => ∀ lease ∈ s.row.notificationLeaseUntil,
    formatTime lease ≤ formatTime s.now → lease ≤ s.now
  | .complete k | .release k => s.row.notificationStatus = .delivering → s.last = some k
  | .tick _ => True

instance (s : State) : (a : Action) → Decidable (inOrder s a)
  | .claim _ _ => inferInstanceAs (Decidable (∀ lease ∈ s.row.notificationLeaseUntil, _ → _))
  | .complete _ | .release _ => inferInstanceAs (Decidable (_ → _))
  | .tick _ => inferInstanceAs (Decidable True)

/-- A lease that has not ended is the one in the row. -/
def Current (s : State) : Prop := ∀ k u, s.claims.lookup k = some u → s.now < u →
  s.row.notificationStatus = .delivering ∧ s.row.notificationLeaseUntil = some u ∧ s.last = some k

variable {s t : State} {a : Action} {es : List Empty}

theorem Current.exclusive (current : Current s) : Exclusive s := by
  intro k k' u u' held held' running running'
  have mine := (current k u held running).2.2
  exact Option.some.inj (mine.symm.trans (current k' u' held' running').2.2)

theorem step_current (current : Current s) (admitted : inOrder s a)
    (stepped : step? s a = some (t, es)) : Current t := by
  cases a with
  | tick time => grind [step?, Current]
  | claim k lease =>
    -- a claim that succeeds finds no lease that has not ended
    grind [step?, Current, inOrder, claimPermissionOutcomeNotification, notifiable]
  | complete k | release k =>
    grind [step?, State.ended, Current, inOrder]

theorem step_respects (admitted : inOrder s a) (stepped : step? s a = some (t, es)) :
    Respects s a t := by
  constructor
  · grind [step?, State.ended, inOrder, completePermissionOutcomeNotification,
      releasePermissionOutcomeNotification, settle]
  · cases a <;> grind [step?, State.ended, completePermissionOutcomeNotification,
      releasePermissionOutcomeNotification, settle, claimPermissionOutcomeNotification, notifiable]

/-- In every run whose steps are in order, the leases are exclusive and respected. -/
theorem leases_respected (row : OutcomeRow) (now : Int)
    (run : (system row now).Run inOrder (system row now).init trace s) (admitted : inOrder s a)
    (stepped : (system row now).step? s a = some (t, es)) : Exclusive t ∧ Respects s a t := by
  have current : Current s := run.invariant nofun step_current
  exact ⟨(step_current current admitted stepped).exclusive, step_respects admitted stepped⟩

/-- A notification that waits. -/
def sampleRow : OutcomeRow := ⟨[], .succeeded, none, .pending, none⟩

theorem leases_respected_second : ∃ trace s t es,
    (system sampleRow 0).Run inOrder (system sampleRow 0).init trace s ∧
      (system sampleRow 0).step? s (.release 2) = some (t, es) ∧ Exclusive t ∧
        Respects s (.release 2) t := by
  obtain ⟨trace, s, t, es, run, admitted, stepped, _⟩ := Transition.System.reaches?_run
    (show (system sampleRow 0).reaches? inOrder
      [.claim 1 1000000000, .tick 2000000000, .claim 2 1000000000] (.release 2)
      (fun _ _ _ => true) = true by decide)
  exact ⟨trace, s, t, es, run, stepped, leases_respected sampleRow 0 run admitted stepped⟩

/-- The lease of the claimant `1` ends and the claimant `2` claims the notification; the release of
the claimant `1` then makes it claimable again. -/
theorem stale_release_frees_newer_claim : ∃ trace s t es,
    (system sampleRow 0).Run Transition.free (system sampleRow 0).init trace s ∧
      (system sampleRow 0).step? s (.claim 3 1000000000) = some (t, es) ∧ ¬Exclusive t := by
  obtain ⟨trace, s, t, es, run, _, stepped, claimed⟩ := Transition.System.reaches?_run
    (show (system sampleRow 0).reaches? Transition.free
      [.claim 1 1000000000, .tick 2000000000, .claim 2 1000000000, .release 1] (.claim 3 1000000000)
      (fun _ t _ => t.claims.lookup 2 = some 3000000000 ∧ t.claims.lookup 3 = some 3000000000 ∧
        t.now = 2000000000) = true by decide)
  obtain ⟨second, third, now⟩ := of_decide_eq_true claimed
  refine ⟨trace, s, t, es, run, stepped, fun exclusive => ?_⟩
  cases exclusive 2 3 _ _ second third (by rw [now]; decide) (by rw [now]; decide)

end NeonDoll.Permission.Lease
