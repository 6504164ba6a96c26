import Mathlib

/-!
# Tunnels and the recovery epoch

The tunnels of the Body (`Body/wgtunnel.go`) as far as their lifecycle goes, and the
`RecoveryEpoch` of `Body/recovery_epoch.go` that decides which one is active.  Tunnels are
numbered in the order in which they are built.
-/

namespace NeonDoll.BodyPath

abbrev TunnelID := Nat

/-- A tunnel over a bind of its own is a fallback.  `handshake` says that the device can be read
and has recorded a handshake. -/
structure Tunnel where
  fallback : Bool
  started : Bool
  shutdown : Bool
  handshake : Bool
  deriving DecidableEq

/-- A tunnel that was started and has completed its handshake. -/
def established (fallback : Bool) : Tunnel := ⟨fallback, true, false, true⟩

def Tunnel.healthy (t : Tunnel) : Bool := t.started && !t.shutdown && t.handshake

/-- How `Stop` ends.  A second `Stop` after one that failed closes a closed channel. -/
inductive StopResult where
  | done (tunnel : Tunnel)
  | failed (tunnel : Tunnel)
  | panics
  deriving DecidableEq

/-- `Stop`, where `closes` says that the bind could be closed. -/
def Tunnel.stop (t : Tunnel) (closes : Bool) : StopResult :=
  if t.started = false then .done t
  else if t.shutdown then .panics
  else if closes then .done { t with started := false, shutdown := true, handshake := false }
  else .failed { t with shutdown := true, handshake := false }

/-- Durations in nanoseconds. -/
structure LossObserverConfig where
  wgLivenessTimeout : Int
  pollInterval : Int
  deriving DecidableEq

def LossObserverConfig.validate (cfg : LossObserverConfig) : Bool :=
  0 < cfg.wgLivenessTimeout ∧ 0 < cfg.pollInterval

/-- Whether `StartLossObserver` starts an observer. -/
def startLossObserver (cfg : LossObserverConfig) (t : Tunnel) : Bool :=
  cfg.validate && t.started && t.handshake

/-! ## The epoch -/

structure Epoch where
  gen : Nat
  active : Option TunnelID
  committed : Bool
  pendingRecovery : Option TunnelID
  closed : Bool
  deriving DecidableEq

namespace Epoch

/-- `NewRecoveryEpoch`. -/
def new (initial : TunnelID) : Epoch := ⟨0, some initial, false, none, false⟩

/-- `NextGenForTunnel`; generation 0 is none. -/
def nextGenForTunnel (e : Epoch) (old : Option TunnelID) : Epoch × Nat :=
  if e.closed then (e, 0)
  else if e.active ≠ none ∧ e.active ≠ old then (e, 0)
  else if e.pendingRecovery ≠ none ∧ e.pendingRecovery = old then (e, 0)
  else ({ e with gen := e.gen + 1, committed := false, pendingRecovery := old }, e.gen + 1)

def tryCommit (e : Epoch) (gen : Nat) (candidate : Option TunnelID) : Epoch × Bool :=
  if e.closed ∨ gen ≠ e.gen ∨ e.committed then
    (if gen = e.gen then { e with pendingRecovery := none } else e, false)
  else ({ e with active := candidate, committed := true, pendingRecovery := none }, true)

def tryCancel (e : Epoch) (gen : Nat) : Epoch :=
  if e.closed = false ∧ gen = e.gen then { e with pendingRecovery := none } else e

def tryReserveMigration (e : Epoch) (gen : Nat) : Bool := !e.closed && gen = e.gen

/-- The epoch with the next generation reserved for its active tunnel. -/
def reserve (e : Epoch) : Epoch :=
  { e with gen := e.gen + 1, committed := false, pendingRecovery := e.active }

theorem reserve_gen (e : Epoch) : e.gen + 1 = e.reserve.gen := rfl

variable {e : Epoch} {gen : Nat}

section

variable (open_ : e.closed = false)

include open_

theorem nextGenForTunnel_active (idle : e.pendingRecovery = none) :
    e.nextGenForTunnel e.active = (e.reserve, e.gen + 1) := by
  rw [nextGenForTunnel, if_neg (by rw [open_]; exact Bool.false_ne_true),
    if_neg fun other => other.2 rfl, if_neg fun pending => pending.1 idle, reserve]

theorem nextGenForTunnel_cases : e.nextGenForTunnel e.active = (e, 0) ∧ e.pendingRecovery ≠ none ∨
      e.nextGenForTunnel e.active = (e.reserve, e.gen + 1) := by
  rw [nextGenForTunnel, if_neg (by rw [open_]; exact Bool.false_ne_true),
    if_neg fun other => other.2 rfl]
  split
  · rename_i pending
    exact .inl ⟨rfl, pending.1⟩
  · exact .inr rfl

theorem tryCommit_current (current : gen = e.gen)
    (fresh : e.committed = false) (candidate : Option TunnelID) : e.tryCommit gen candidate =
      ({ e with active := candidate, committed := true, pendingRecovery := none }, true) := by
  rw [tryCommit, if_neg]
  rintro (shut | stale | committed)
  · rw [open_] at shut
    cases shut
  · exact stale current
  · rw [fresh] at committed
    cases committed

theorem tryReserveMigration_current (current : gen = e.gen) : e.tryReserveMigration gen = true := by
  rw [tryReserveMigration, open_, current, decide_eq_true rfl]
  rfl

theorem tryCancel_current (current : gen = e.gen) :
    e.tryCancel gen = { e with pendingRecovery := none } := by
  rw [tryCancel, if_pos ⟨open_, current⟩]

end

end Epoch

/-! ## Stopping again -/

/-- A call and what it meets: a device that comes up, a bind that closes. -/
inductive TunnelCall where
  | start (comesUp : Bool)
  | stop (closes : Bool)
  deriving DecidableEq

namespace Tunnel

/-- `NewBodyTunnel`. -/
def new (fallback : Bool) : Tunnel := ⟨fallback, false, false, false⟩

/-- `Start` ends as `Stop` does, with the tunnel and perhaps an error. -/
def start (t : Tunnel) (comesUp : Bool) : StopResult :=
  if t.started then .failed t
  else if comesUp then .done { t with started := true }
  else .failed t

def call (t : Tunnel) : TunnelCall → StopResult
  | .start comesUp => t.start comesUp
  | .stop closes => t.stop closes

/-- The calls in turn with their results; a panic ends them. -/
def results (t : Tunnel) : List TunnelCall → List (TunnelCall × StopResult)
  | [] => []
  | c :: rest =>
    match t.call c with
    | .done next => (c, .done next) :: next.results rest
    | .failed next => (c, .failed next) :: next.results rest
    | .panics => [(c, .panics)]

end Tunnel

/-- A call returns, and a `Stop` without an error leaves nothing started. -/
def safeResult : TunnelCall × StopResult → Bool
  | (_, .panics) => false
  | (.stop _, .done t) => !t.started
  | _ => true

/-- How many calls of `Stop` find the tunnel started; `up` says whether it is at first. -/
def effectiveStops (up : Bool) : List TunnelCall → Nat
  | [] => 0
  | .start comesUp :: rest => effectiveStops (up || comesUp) rest
  | .stop closes :: rest => effectiveStops (up && !closes) rest + if up then 1 else 0

theorem results_safe_iff (t : Tunnel) :
    (t.results calls).all safeResult = true ↔
      effectiveStops t.started calls + (if t.shutdown then 1 else 0) ≤ 1 := by
  induction calls generalizing t with
  | nil => cases shut : t.shutdown <;> simp [Tunnel.results, effectiveStops]
  | cons c rest ih =>
    obtain ⟨_, started, shutdown, _⟩ := t
    rw [Tunnel.results]
    cases c with
    | start comesUp =>
      cases started <;> cases comesUp <;>
        simp [Tunnel.call, Tunnel.start, effectiveStops, safeResult, ih]
    | stop closes =>
      cases started <;> cases shutdown <;> cases closes <;>
        simp [Tunnel.call, Tunnel.stop, effectiveStops, safeResult, ih]

/-- Stopping is safe to retry exactly if at most one `Stop` finds the tunnel started. -/
theorem stop_retry_safe_iff (fallback : Bool) (calls : List TunnelCall) :
    ((Tunnel.new fallback).results calls).all safeResult = true ↔
      effectiveStops false calls ≤ 1 := by
  rw [results_safe_iff, Tunnel.new, if_neg Bool.false_ne_true, Nat.add_zero]

/-- A `Stop` panics after one that could not close the bind, and after a restart. -/
theorem stop_retry_panics :
    (.stop true, .panics) ∈ (Tunnel.new true).results [.start true, .stop false, .stop true] ∧
      (.stop true, .panics) ∈
        (Tunnel.new true).results [.start true, .stop true, .start true, .stop true] := by
  decide

end NeonDoll.BodyPath
