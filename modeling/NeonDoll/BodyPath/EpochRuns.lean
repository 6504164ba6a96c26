import NeonDoll.BodyPath.Epoch

/-!
# Who owns the recovery epoch

Any number of callers use one `RecoveryEpoch`.  Every method runs under its mutex, so a history is
a list of calls.
-/

namespace NeonDoll.BodyPath

open Epoch

namespace Epoch

@[grind] def nextGen (e : Epoch) : Epoch × Nat :=
  if e.closed then (e, 0) else ({ e with gen := e.gen + 1, committed := false }, e.gen + 1)

/-- `Shutdown`, without the stop of the active tunnel. -/
def shutdown (e : Epoch) : Epoch := { e with closed := true, active := none }

end Epoch

inductive EpochCall where
  | nextGen
  | nextGenForTunnel (old : Option TunnelID)
  | tryCommit (gen : Nat) (candidate : Option TunnelID)
  | tryCancel (gen : Nat)
  | tryReserveMigration (gen : Nat)
  | shutdown
  deriving DecidableEq

/-- The epoch with its history: the generations that were committed, and the last recovery that
reserved one for a tunnel until a commit or a cancellation of its generation resolves it.  A
recovery for nil is not counted: `NextGenForTunnel` leaves no mark of it. -/
structure OwnedEpoch where
  epoch : Epoch
  commits : List Nat
  recovery : Option (Nat × TunnelID)

namespace OwnedEpoch

/-- `NewRecoveryEpoch`, with or without a tunnel. -/
def start (initial : Option TunnelID) : OwnedEpoch := ⟨⟨0, initial, false, none, false⟩, [], none⟩

/-- The recovery that is left when generation `gen` is committed or cancelled. -/
def resolve (s : OwnedEpoch) (gen : Nat) : Option (Nat × TunnelID) :=
  s.recovery.filter fun reserved => reserved.1 ≠ gen

@[grind] def call (s : OwnedEpoch) : EpochCall → OwnedEpoch
  | .nextGen => { s with epoch := s.epoch.nextGen.1 }
  | .nextGenForTunnel old =>
    let (e, gen) := s.epoch.nextGenForTunnel old
    { s with
      epoch := e
      recovery := if gen = 0 then s.recovery else old.map fun tunnel => (gen, tunnel) }
  | .tryCommit gen candidate =>
    let (e, done) := s.epoch.tryCommit gen candidate
    ⟨e, if done then s.commits ++ [gen] else s.commits, s.resolve gen⟩
  | .tryCancel gen => { s with epoch := s.epoch.tryCancel gen, recovery := s.resolve gen }
  | .tryReserveMigration _ => s
  | .shutdown => { s with epoch := s.epoch.shutdown }

structure Inv (s : OwnedEpoch) : Prop where
  increasing : s.commits.Pairwise (· < ·)
  past : ∀ gen ∈ s.commits, gen ≤ s.epoch.gen
  fresh : s.epoch.committed = false → s.epoch.gen ∉ s.commits
  reserved : ∀ gen tunnel, s.recovery = some (gen, tunnel) → gen ≤ s.epoch.gen
  marked : ∀ tunnel, s.recovery = some (s.epoch.gen, tunnel) → s.epoch.closed = false →
    s.epoch.pendingRecovery = some tunnel
  closed : s.epoch.closed = true → s.epoch.active = none

theorem start_inv (initial : Option TunnelID) : (start initial).Inv := by
  constructor <;> simp [start]

theorem call_inv {s : OwnedEpoch} (inv : s.Inv) : (s.call c).Inv := by
  cases c with
  | nextGen => constructor <;> grind [Inv]
  | nextGenForTunnel old =>
    cases old <;> constructor <;> grind [Inv, Epoch.nextGenForTunnel]
  | tryCommit gen candidate =>
    constructor
    case increasing =>
      grind [Inv, Epoch.tryCommit]
    all_goals grind [Inv, Epoch.tryCommit, resolve, Option.filter_eq_some_iff]
  | tryCancel gen =>
    constructor <;> grind [Inv, Epoch.tryCancel, resolve, Option.filter_eq_some_iff]
  | tryReserveMigration _ => exact inv
  | shutdown => constructor <;> grind [Inv, Epoch.shutdown]

theorem calls_inv (calls : List EpochCall) :
    (calls.foldl call (start initial)).Inv := by
  have loop : ∀ (calls : List EpochCall) (s : OwnedEpoch), s.Inv → (calls.foldl call s).Inv := by
    intro calls
    induction calls with
    | nil => exact fun _ inv => inv
    | cons c rest ih => exact fun s inv => ih _ (call_inv inv)
  exact loop calls _ (start_inv initial)

theorem call_closed {s : OwnedEpoch} (closed : s.epoch.closed = true) :
    (s.call c).epoch.closed = true := by
  cases c <;> grind [nextGenForTunnel, tryCommit, tryCancel, shutdown]

theorem calls_closed {calls : List EpochCall} (shut : .shutdown ∈ calls) (s : OwnedEpoch) :
    (calls.foldl call s).epoch.closed = true := by
  have stays : ∀ (calls : List EpochCall) (s : OwnedEpoch), s.epoch.closed = true →
      (calls.foldl call s).epoch.closed = true := by
    intro calls
    induction calls with
    | nil => exact fun _ closed => closed
    | cons c rest ih => exact fun s closed => ih _ (call_closed closed)
  induction calls generalizing s with
  | nil => cases shut
  | cons c rest ih =>
    rcases List.mem_cons.mp shut with rfl | later
    · exact stays rest _ rfl
    · exact ih later _

theorem call_active (s : OwnedEpoch) (c : EpochCall) :
    (s.call c).epoch.active = s.epoch.active ∨ c = .shutdown ∨
      ∃ candidate, c = .tryCommit s.epoch.gen candidate ∧
        (s.call c).commits = s.commits ++ [s.epoch.gen] := by
  cases c <;> grind [nextGenForTunnel, tryCommit, tryCancel]

/-- After every history of calls: committed generations increase, a recovery that holds the current
generation for a tunnel, not for nil, keeps the tunnel from another one, a call changes the active
tunnel only as the owner or as the shutdown, and after the shutdown there is neither an active
tunnel nor a commit. -/
theorem epoch_ownership (initial : Option TunnelID) (calls : List EpochCall) :
    let s := calls.foldl call (start initial)
    s.commits.Pairwise (· < ·) ∧
      (∀ tunnel, s.recovery = some (s.epoch.gen, tunnel) →
        (s.epoch.nextGenForTunnel (some tunnel)).2 = 0) ∧
      (∀ c, (s.call c).epoch.active = s.epoch.active ∨ c = .shutdown ∨
        ∃ candidate, c = .tryCommit s.epoch.gen candidate ∧
          (s.call c).commits = s.commits ++ [s.epoch.gen]) ∧
      (.shutdown ∈ calls → s.epoch.active = none ∧
        ∀ gen candidate, (s.epoch.tryCommit gen candidate).2 = false) := by
  intro s
  have inv : s.Inv := calls_inv calls
  refine ⟨inv.increasing, fun tunnel holds => ?_, call_active s, fun shut => ?_⟩
  · grind [Inv, nextGenForTunnel]
  · have closed : s.epoch.closed = true := calls_closed shut _
    exact ⟨inv.closed closed, by grind [tryCommit]⟩

end OwnedEpoch

end NeonDoll.BodyPath
