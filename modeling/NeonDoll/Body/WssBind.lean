import NeonDoll.Lib.Transition

/-!
# The epochs of the WSS bind

`Open`, `Close` and the goroutines they start, cut where `closeMu` is released; a connection that a
section gives up is closed with it.  A context and a connection are named by the `Open` they were
made for.  Frames touch none of this and are left out.
-/

namespace NeonDoll.Body.WssBind

open Lib.Transition

/-- Where one attempt of `connectWithRetry` or `reconnect` stands. -/
inductive Stage where
  | backoff | alive | dial | install

/-- Where the goroutine of an `Open` stands.  It runs `connectWithRetry` under the context of its
`Open`, then the read loop and `reconnect` under the one that `readLoop` captured. -/
inductive Phase where
  | idle
  | attempt (captured : Option Nat) (left : Nat) (stage : Stage)
  | failed | connected
  | loop (ctx : Nat)
  | read (ctx : Nat)
  | terminating
  | done

/-- A goroutine that nothing keeps from going on in a later epoch: it has yet to capture its
context, it dials for the last time, or it is about to terminate. -/
def Phase.unsettled : Phase → Bool
  | .connected | .terminating | .attempt (some _) 0 .dial => true
  | _ => false

/-- A goroutine runs under the context of its own `Open`, which is the last one while the goroutine
is unsettled. -/
def Phase.Own (p : Phase) (n ctx : Nat) : Prop :=
  (p.unsettled = true → n = ctx) ∧
    match p with
    | .attempt (some captured) _ _ | .loop captured | .read captured => captured = n
    | _ => True

structure Bind where
  closed : Bool
  ws : Option Nat
  /-- The last `Open`, zero before the first. -/
  ctx : Nat
  /-- Contexts whose `cancel` is due, and those that are cancelled. -/
  due : List Nat
  cancelled : List Nat
  phase : Nat → Phase

inductive Effect where
  | markClosed | installed
  | closeConn (ws : Nat)
  deriving DecidableEq

inductive Action where
  | start | close
  | cancel (ctx : Nat)
  /-- The goroutine of `Open` number `n`; `ok` is what the network or the timer answers. -/
  | go (n : Nat) (ok : Bool)

namespace Bind

def goto (b : Bind) (n : Nat) (p : Phase) : Bind :=
  { b with phase := fun m => if m = n then p else b.phase m }

/-- `epochAlive`; the same test guards an installation. -/
def epochAlive (b : Bind) (ctx : Nat) : Bool := !b.closed && b.ctx == ctx

def shut (b : Bind) : Bind × List Effect :=
  ({ b with closed := true, ws := none, due := b.ctx :: b.due },
    .markClosed :: b.ws.toList.map .closeConn)

/-- The head of either retry loop with `tries` attempts to go. -/
def retry (captured : Option Nat) : Nat → Phase
  | 0 => if captured.isSome then .terminating else .failed
  | left + 1 => .attempt captured left (if captured.isSome then .backoff else .alive)

def quit (captured : Option Nat) : Phase := if captured.isSome then .done else .failed

/-- One step of `connectWithRetry`, or of `reconnect` with a captured context. -/
def attempt (b : Bind) (n : Nat) (captured : Option Nat) (left : Nat) (ok : Bool) :
    Stage → Option (Bind × List Effect)
  | .backoff =>
    if ok then
      some (b.goto n (if captured.isSome then .attempt captured left .alive
        else retry captured left), [])
    else if captured.getD n ∈ b.cancelled then some (b.goto n (quit captured), [])
    else none
  | .alive =>
    some (b.goto n (if b.epochAlive (captured.getD n) then .attempt captured left .dial
      else quit captured), [])
  | .dial =>
    some (b.goto n (if ok then .attempt captured left .install
      else if captured.isSome then retry captured left else .attempt captured left .backoff), [])
  | .install =>
    if b.epochAlive (captured.getD n) then
      some ({ b with ws := some n }.goto n (captured.elim .connected .loop),
        .installed :: b.ws.toList.map .closeConn)
    else some (b.goto n (quit captured), [.closeConn n])

def step? (tries : Nat) (b : Bind) : Action → Option (Bind × List Effect)
  | .start =>
    if !b.closed && b.ws.isSome then none
    else
      some ({ b with
        closed := false, ws := none, ctx := b.ctx + 1
        cancelled := b.ctx :: b.cancelled }.goto (b.ctx + 1) (retry none tries),
        b.ws.toList.map .closeConn)
  | .close => some (if b.closed then (b, []) else b.shut)
  | .cancel ctx =>
    if ctx ∈ b.due then some ({ b with cancelled := ctx :: b.cancelled }, []) else none
  | .go n ok =>
    match b.phase n with
    | .idle | .done => none
    | .attempt captured left stage => b.attempt n captured left ok stage
    -- `Open` cancels whatever epoch is current by now.
    | .failed => some ({ b with cancelled := b.ctx :: b.cancelled }.goto n .done, [])
    -- `readLoop` captures the current context, not the one of its `Open`.
    | .connected => some (b.goto n (.loop b.ctx), [])
    | .loop ctx =>
      some (b.goto n (if b.epochAlive ctx && b.ws.isSome then .read ctx else .done), [])
    | .read ctx =>
      some (b.goto n (if ok then .loop ctx
        else if ctx ∈ b.cancelled then .done else retry (some ctx) tries), [])
    -- `terminate` tests `closed` but not the epoch.
    | .terminating => some (if b.closed then (b.goto n .done, []) else (b.goto n .done).shut)

/-- A new bind, with `effectiveReconnectTries` attempts. -/
def system (tries : Nat) : System Bind Action Effect :=
  ⟨⟨false, none, 0, [], [], fun _ => .idle⟩, step? tries⟩

/-- A goroutine of `Open` number `n` marks the bind closed, installs a connection or closes one of a
later `Open`, after that `Open` took the bind. -/
def Interferes (b : Bind) (n : Nat) (effects : List Effect) : Prop :=
  n < b.ctx ∧ ∃ e ∈ effects, ∀ ws, e = .closeConn ws → n < ws

/-- `Open` takes the bind only when no goroutine is unsettled. -/
def orderly (b : Bind) : Action → Prop
  | .start => ∀ n ≤ b.ctx, (b.phase n).unsettled = false
  | _ => True

instance (b : Bind) : (a : Action) → Decidable (orderly b a)
  | .start => inferInstanceAs (Decidable (∀ n ≤ b.ctx, (b.phase n).unsettled = false))
  | .close | .cancel _ | .go _ _ => inferInstanceAs (Decidable True)

structure Epochs (b : Bind) : Prop where
  unstarted : ∀ n, b.ctx < n → b.phase n = .idle
  cancelled : ∀ n < b.ctx, n ∈ b.cancelled
  own : ∀ n, (b.phase n).Own n b.ctx

variable {b b' : Bind} {ok : Bool} {n tries : Nat}

theorem epochAlive_ctx {ctx : Nat} (alive : b.epochAlive ctx = true) : ctx = b.ctx := by
  simp only [epochAlive, Bool.and_eq_true, beq_iff_eq] at alive
  exact alive.2.symm

theorem Epochs.goto (epochs : b.Epochs) (started : n ≤ b.ctx) (own : p.Own n b.ctx) :
    (b.goto n p).Epochs where
  unstarted m later := by
    have other : m ≠ n := by
      have : b.ctx < m := later
      omega
    exact (if_neg other).trans (epochs.unstarted m later)
  cancelled := epochs.cancelled
  own m := by
    by_cases same : m = n
    · rw [same]
      simpa only [Bind.goto, if_true] using own
    · simpa only [Bind.goto, if_neg same] using epochs.own m

/-- The epochs do not depend on the connection, and more contexts may be cancelled. -/
theorem Epochs.update (epochs : b.Epochs) (ctx : b'.ctx = b.ctx) (phase : b'.phase = b.phase)
    (cancelled : ∀ n ∈ b.cancelled, n ∈ b'.cancelled) : b'.Epochs where
  unstarted n later := by
    rw [phase]
    exact epochs.unstarted n (ctx ▸ later)
  cancelled n earlier := cancelled n (epochs.cancelled n (ctx ▸ earlier))
  own n := by
    rw [phase, ctx]
    exact epochs.own n

theorem attempt_own {captured : Option Nat} (mine : ∀ c ∈ captured, c = n)
    (current : left = 0 → stage = .dial → n = last) :
    (Phase.attempt captured left stage).Own n last := by
  cases captured with
  | none => exact ⟨nofun, trivial⟩
  | some c =>
    refine ⟨fun unsettled => ?_, mine c rfl⟩
    cases left with
    | zero =>
      cases stage with
      | dial => exact current rfl rfl
      | _ => cases unsettled
    | succ left => cases stage <;> cases unsettled

theorem retry_own {captured : Option Nat} (mine : ∀ c ∈ captured, c = n)
    (current : captured.isSome → n = last) : (retry captured left).Own n last := by
  cases left with
  | zero =>
    cases captured with
    | none => exact ⟨nofun, trivial⟩
    | some c => exact ⟨fun _ => current rfl, trivial⟩
  | succ left =>
    refine attempt_own mine fun _ dials => ?_
    cases captured <;> cases dials

theorem quit_own (captured : Option Nat) : (quit captured).Own n last := by
  cases captured <;> exact ⟨nofun, trivial⟩

theorem silent : ¬b.Interferes n [] := by
  rintro ⟨_, _, none, _⟩
  cases none

/-- One step of a retry loop keeps the epochs apart: it acts on the last one or closes its own
connection. -/
theorem attempt_epochs {captured : Option Nat} (epochs : b.Epochs) (started : n ≤ b.ctx)
    (stands : b.phase n = .attempt captured left stage)
    (stepped : b.attempt n captured left ok stage = some (b', effects)) :
    b'.Epochs ∧ ¬b.Interferes n effects := by
  have own := epochs.own n
  rw [stands] at own
  have mine : ∀ c ∈ captured, c = n := by
    rintro c rfl
    exact own.2
  have under : captured.getD n = n := by
    cases captured with
    | none => rfl
    | some c => exact own.2
  cases stage with
  | backoff =>
    simp only [attempt] at stepped
    split at stepped
    · cases stepped
      refine ⟨epochs.goto started ?_, silent⟩
      cases captured with
      | none => exact retry_own mine nofun
      | some c => exact attempt_own mine nofun
    · split at stepped
      · cases stepped
        exact ⟨epochs.goto started (quit_own captured), silent⟩
      · cases stepped
  | alive =>
    cases stepped
    refine ⟨epochs.goto started ?_, silent⟩
    split
    · rename_i alive
      exact attempt_own mine fun _ _ => epochAlive_ctx (under ▸ alive)
    · exact quit_own captured
  | dial =>
    cases stepped
    refine ⟨epochs.goto started ?_, silent⟩
    split
    · exact attempt_own mine nofun
    · cases captured with
      | none => exact attempt_own mine nofun
      | some c =>
        -- only the last dial ends in `terminate`
        cases left with
        | zero => exact (retry_own mine fun _ => own.1 rfl : (retry (some c) 0).Own n b.ctx)
        | succ left => exact attempt_own mine nofun
  | install =>
    simp only [attempt] at stepped
    split at stepped
    · rename_i alive
      cases stepped
      have current : n = b.ctx := epochAlive_ctx (under ▸ alive)
      refine ⟨Epochs.goto (b := { b with ws := some n }) (epochs.update rfl rfl fun _ => id)
        started ?_, fun interferes => absurd interferes.1 (by omega)⟩
      cases captured with
      | none => exact ⟨fun _ => current, trivial⟩
      | some c => exact ⟨nofun, own.2⟩
    · cases stepped
      refine ⟨epochs.goto started (quit_own captured), ?_⟩
      rintro ⟨_, e, closed, later⟩
      rw [List.mem_singleton] at closed
      exact absurd (later n closed) (Nat.lt_irrefl n)

/-- A step of a goroutine keeps the epochs apart and leaves the later ones alone. -/
theorem go_epochs (epochs : b.Epochs)
    (stepped : (system tries).step? b (.go n ok) = some (b', effects)) :
    b'.Epochs ∧ ¬b.Interferes n effects := by
  have own := epochs.own n
  have started : n ≤ b.ctx := by
    by_contra later
    simp [system, step?, epochs.unstarted n (by omega)] at stepped
  simp only [system, step?] at stepped
  cases stands : b.phase n with
  | idle =>
    rw [stands] at stepped
    cases stepped
  | done =>
    rw [stands] at stepped
    cases stepped
  | attempt captured left stage =>
    rw [stands] at stepped
    exact attempt_epochs epochs started stands stepped
  | failed =>
    rw [stands] at stepped
    cases stepped
    exact ⟨Epochs.goto (b := { b with cancelled := b.ctx :: b.cancelled })
      (epochs.update rfl rfl fun _ => .tail _) started ⟨nofun, trivial⟩, silent⟩
  | connected =>
    rw [stands] at stepped own
    cases stepped
    exact ⟨epochs.goto started ⟨nofun, (own.1 rfl).symm⟩, silent⟩
  | loop ctx =>
    rw [stands] at stepped own
    cases stepped
    refine ⟨epochs.goto started ?_, silent⟩
    split
    · exact ⟨nofun, own.2⟩
    · exact ⟨nofun, trivial⟩
  | read ctx =>
    rw [stands] at stepped own
    cases stepped
    refine ⟨epochs.goto started ?_, silent⟩
    split
    · exact ⟨nofun, own.2⟩
    · split
      · exact ⟨nofun, trivial⟩
      · rename_i live
        -- the context of an earlier epoch is cancelled
        have current : ¬ctx < b.ctx := fun earlier => live (epochs.cancelled ctx earlier)
        have same : ctx = n := own.2
        exact retry_own (fun c found => by cases found; exact same) fun _ => by omega
  | terminating =>
    rw [stands] at stepped own
    have current : n = b.ctx := own.1 rfl
    refine ⟨?_, fun interferes => absurd interferes.1 (by omega)⟩
    have ended := epochs.goto (p := .done) started ⟨nofun, trivial⟩
    dsimp only at stepped
    split at stepped
    · cases stepped
      exact ended
    · cases stepped
      exact ended.update rfl rfl fun _ => id

theorem step_epochs {a : Action} (epochs : b.Epochs) (admitted : b.orderly a)
    (stepped : (system tries).step? b a = some (b', effects)) : b'.Epochs := by
  cases a with
  | start =>
    simp only [system, step?] at stepped
    split at stepped
    · cases stepped
    cases stepped
    refine Epochs.goto (b := { b with
      closed := false, ws := none, ctx := b.ctx + 1, cancelled := b.ctx :: b.cancelled }) ?_
      (Nat.le_refl _) (retry_own nofun nofun)
    refine ⟨fun n later => epochs.unstarted n (Nat.lt_of_succ_lt later), fun n earlier => ?_,
      fun n => ?_⟩
    · rcases Nat.lt_succ_iff_lt_or_eq.mp earlier with before | rfl
      · exact .tail _ (epochs.cancelled n before)
      · exact .head _
    · by_cases started : n ≤ b.ctx
      · exact ⟨fun unsettled => absurd unsettled (by simp [admitted n started]), (epochs.own n).2⟩
      · show (b.phase n).Own n (b.ctx + 1)
        rw [epochs.unstarted n (by omega)]
        exact ⟨nofun, trivial⟩
  | close =>
    simp only [system, step?, Option.some.injEq] at stepped
    split at stepped
    · cases stepped
      exact epochs
    · cases stepped
      exact epochs.update rfl rfl fun _ => id
  | cancel ctx =>
    simp only [system, step?] at stepped
    split at stepped
    · cases stepped
      exact epochs.update rfl rfl fun _ => .tail _
    · cases stepped
  | go n ok => exact (go_epochs epochs stepped).1

/-- If `Open` waits for the unsettled goroutines, no goroutine of an `Open` marks the bind closed,
installs a connection or closes one for a later `Open`. -/
theorem noninterference (run : (system tries).Run orderly (system tries).init trace b)
    (stepped : (system tries).step? b (.go n ok) = some (b', effects)) :
    ¬b.Interferes n effects := by
  have start : (system tries).init.Epochs :=
    ⟨fun _ _ => rfl, fun n earlier => absurd earlier n.not_lt_zero, fun _ => ⟨nofun, trivial⟩⟩
  have epochs : b.Epochs := run.invariant start step_epochs
  exact (go_epochs epochs stepped).2

/-- The goroutine of the first epoch has dialled again when the bind is closed and opened. -/
def overtaken : List Action :=
  .start :: List.replicate 5 (.go 1 true) ++ .go 1 false :: List.replicate 3 (.go 1 true) ++
    [.close, .start]

theorem noninterference_overtaken : ∃ trace b b' effects,
    (system 3).Run orderly (system 3).init trace b ∧ b.ctx = 2 ∧
      (system 3).step? b (.go 1 true) = some (b', effects) ∧ effects = [.closeConn 1] ∧
      ¬b.Interferes 1 effects := by
  obtain ⟨trace, b, b', effects, run, -, stepped, seen⟩ := System.reaches?_run
    (Q := fun b _ effects => b.ctx = 2 ∧ effects = [.closeConn 1])
    (show (system 3).reaches? orderly overtaken (.go 1 true) _ = true by decide)
  obtain ⟨second, own⟩ := of_decide_eq_true seen
  exact ⟨trace, b, b', effects, run, second, stepped, own, noninterference run stepped⟩

/-- The first epoch loses its connection and fails to get another; the bind is closed and opened
again before the goroutine of the first epoch terminates. -/
def reopened : List Action :=
  .start :: List.replicate 5 (.go 1 true) ++ .go 1 false ::
    (List.replicate 3 [.go 1 true, .go 1 true, .go 1 false]).flatten ++
    [.close, .start, .go 2 true, .go 2 true, .go 2 true]

/-- The exhausted reconnect of the first epoch closes the bind and the connection of the second. -/
theorem exhaustion_closes_later_epoch : ∃ trace b b' effects,
    (system 3).Run free (system 3).init trace b ∧
      (system 3).step? b (.go 1 true) = some (b', effects) ∧
      effects = [.markClosed, .closeConn 2] ∧ b.Interferes 1 effects := by
  obtain ⟨trace, b, b', effects, run, -, stepped, seen⟩ := System.reaches?_run
    (Q := fun b _ effects => b.ctx = 2 ∧ effects = [.markClosed, .closeConn 2])
    (show (system 3).reaches? free reopened (.go 1 true) _ = true by decide)
  obtain ⟨second, rfl⟩ := of_decide_eq_true seen
  exact ⟨trace, b, b', _, run, stepped, rfl, by omega, .markClosed, .head _, nofun⟩

end Bind

end NeonDoll.Body.WssBind
