import NeonDoll.BodyPath.Supervisor

/-!
# The supervisor works on the active tunnel

The supervisor keeps the tunnel it works on in a variable of its own.  The variable agrees with
the epoch as long as no discovery is dropped that has committed a tunnel: a rollback commits a
tunnel which the discovery does not return, and the branches for a loss do not read the result.
-/

namespace NeonDoll.BodyPath

open Lib Transition State Tunnel Epoch

/-- No recovery or migration of the epoch is in flight. -/
structure Epoch.Idle (e : Epoch) : Prop where
  open_ : e.closed = false
  idle : e.pendingRecovery = none

structure Epoch.Settled (e : Epoch) (active : TunnelID) : Prop extends e.Idle where
  active : e.active = some active

/-! ## Stopping and recovering -/

theorem State.stop_eq {s t : State} {x : TunnelID} {closes ok : Bool}
    (stopped : s.stop x closes = some (t, ok)) : ∃ tunnels, t = { s with tunnels := tunnels } := by
  rw [stop] at stopped
  split at stopped
  · obtain ⟨rfl, -⟩ := Prod.mk.inj (Option.some.inj stopped)
    exact ⟨s.tunnels, rfl⟩
  · grind

variable {closes : Bool}

theorem Tunnel.healthy_of_stop_panics {t : Tunnel}
    (panicked : t.stop closes = .panics) : t.healthy = false := by
  grind [healthy, stop]

theorem State.healthy_of_stop_none {s : State} {x : TunnelID}
    (panicked : s.stop x closes = none) : s.healthy x = false := by
  grind [healthy_of_stop_panics, stop, healthy]

/-- What a recovery of the settled tunnel leads to. -/
inductive RecoverOutcome (s : State) (old : TunnelID) :
    Option (State × Except RecoverError Path) → Prop where
  | panics : s.healthy old = false → RecoverOutcome s old none
  | retries {t : State} {e : RecoverError} : isRecoveryTerminal e = false →
      t.current = s.current → t.epoch.Settled old → RecoverOutcome s old (some (t, .error e))
  | recovers {t : State} {path : Path} (candidate : TunnelID) :
      t.epoch.Settled candidate → RecoverOutcome s old (some (t, .ok path))

/-- Releasing the generation that was just reserved settles the epoch again. -/
theorem settled_of_cancelled {e : Epoch} (settled : e.Settled old) :
    (e.reserve.tryCancel (e.gen + 1)).Settled old := by
  have released : e.reserve.tryCancel (e.gen + 1) = { e.reserve with pendingRecovery := none } :=
    tryCancel_current settled.open_ e.reserve_gen
  rw [released]
  exact ⟨⟨settled.open_, rfl⟩, settled.active⟩

/-- The settled tunnel is neither refused nor superseded. -/
theorem recoverPath_outcome {s : State} (settled : s.epoch.Settled old)
    (calls : RecoverCalls) : RecoverOutcome s old (recoverPath s old calls) := by
  have reserved := nextGenForTunnel_active settled.open_ settled.idle
  have stillOpen : s.epoch.reserve.closed = false := settled.open_
  rw [recoverPath, ← settled.active, reserved]
  dsimp only
  rw [if_neg (Nat.succ_ne_zero _)]
  split
  · rename_i panicked
    have unhealthy := healthy_of_stop_none panicked
    exact .panics unhealthy
  · rename_i t stopped
    obtain ⟨tunnels, rfl⟩ := stop_eq stopped
    exact .retries rfl rfl (settled_of_cancelled settled)
  rename_i t stopped
  obtain ⟨tunnels, rfl⟩ := stop_eq stopped
  cases calls.selected with
  | none => exact .retries rfl rfl (settled_of_cancelled settled)
  | some path =>
    dsimp only [build]
    rw [tryCommit_current stillOpen s.epoch.reserve_gen rfl]
    exact .recovers tunnels.length ⟨⟨settled.open_, rfl⟩, rfl⟩

/-! ## Discovery -/

/-- The discovery owns the current generation and has not used it. -/
structure Reserved (e : Epoch) (d : Discovery) (gen : Nat) : Prop where
  current : gen = e.gen
  positive : 0 < gen
  fresh : e.committed = false
  pending : d.pendingGen = gen

/-- What a discovery knows of the epoch in each of its stages. -/
@[grind] def StageHolds (e : Epoch) (d : Discovery) : Prop :=
  match d.stage with
  | .probing => e.pendingRecovery = none ∨ 0 < d.pendingGen ∧ d.pendingGen = e.gen
  | .migrating gen => Reserved e d gen
  | .making gen _ => Reserved e d gen
  | .rolling gen _ => Reserved e d gen
  | .done none => e.pendingRecovery = none
  | .done (some t) => e.pendingRecovery = none ∧ e.active = some t

/-- A discovery that was started when `current` was the active tunnel. -/
structure Ongoing (e : Epoch) (current : TunnelID) (d : Discovery) : Prop where
  open_ : e.closed = false
  unchanged : d.committed = false → e.active = some current
  stage : StageHolds e d

variable {current : TunnelID}

theorem Ongoing.start (settled : e.Settled current) : Ongoing e current .start where
  open_ := settled.open_
  unchanged _ := settled.active
  stage := .inl settled.idle

inductive DiscoverOutcome (s : State) : Progress → Prop where
  | panics : (∀ x, s.epoch.active = some x → s.healthy x = false) → DiscoverOutcome s .panics
  | goes {t : State} {d : Discovery} : t.current = s.current →
      Ongoing t.epoch s.current d → DiscoverOutcome s (.goes t d)

variable {s t : State} {d : Discovery} {x : DiscoveryStep} {p : Progress} {gen : Nat}

variable {committed : Bool}

theorem giveUp_outcome (ongoing : Ongoing s.epoch s.current ⟨.probing, gen, committed⟩) :
    DiscoverOutcome s (.goes
      { s with epoch := if 0 < gen then s.epoch.tryCancel gen else s.epoch }
      ⟨.done none, gen, committed⟩) := by
  refine .goes rfl ?_
  obtain idle | ⟨positive, current⟩ := ongoing.stage
  · have kept : (if 0 < gen then s.epoch.tryCancel gen else s.epoch) = s.epoch := by
      -- The marker is clear already, so that releasing it again changes nothing.
      have same : { s.epoch with pendingRecovery := none } = s.epoch := by rw [← idle]
      rw [tryCancel]
      split
      · split
        · exact same
        · rfl
      · rfl
    rw [kept]
    exact ⟨ongoing.open_, ongoing.unchanged, idle⟩
  · rw [if_pos positive, tryCancel_current ongoing.open_ current]
    exact ⟨ongoing.open_, ongoing.unchanged, rfl⟩

variable {pendingGen : Nat}

theorem migrate_outcome (ongoing : Ongoing s.epoch s.current ⟨.probing, pendingGen, committed⟩)
    (stepped : discover s ⟨.probing, pendingGen, committed⟩ .migrate = some p) :
    DiscoverOutcome s p := by
  dsimp only [discover] at stepped
  obtain ⟨refused, pending⟩ | reserved := nextGenForTunnel_cases ongoing.open_
  · -- A reservation of its own is still in flight, so the generation is not 0.
    obtain idle | ⟨_, _⟩ := ongoing.stage
    · exact absurd idle pending
    have stale : s.epoch.tryReserveMigration 0 = false := by grind [tryReserveMigration]
    rw [refused] at stepped
    rw [stale, if_neg Bool.false_ne_true] at stepped
    cases stepped
    exact .goes rfl ongoing
  · have stillOpen : s.epoch.reserve.closed = false := ongoing.open_
    rw [reserved] at stepped
    rw [tryReserveMigration_current stillOpen s.epoch.reserve_gen, if_pos rfl] at stepped
    cases stepped
    exact .goes rfl ⟨ongoing.open_, ongoing.unchanged, rfl, Nat.succ_pos _, rfl, rfl⟩

theorem break_outcome (ongoing : Ongoing s.epoch s.current ⟨.migrating gen, pendingGen, committed⟩)
    (stepped : discover s ⟨.migrating gen, pendingGen, committed⟩ (.break_ closes) = some p) :
    DiscoverOutcome s p := by
  have reserved : Reserved s.epoch ⟨.migrating gen, pendingGen, committed⟩ gen := ongoing.stage
  dsimp only [discover] at stepped
  rw [tryReserveMigration_current ongoing.open_ reserved.current, if_pos rfl] at stepped
  split at stepped
  · grind [DiscoverOutcome]
  · grind [Ongoing, DiscoverOutcome, Reserved, healthy_of_stop_none, stop_eq]

/-- A cutover commits whatever it has built, since its generation is still the current one. -/
theorem commitCutover_outcome {fallback : Bool} {next : Option TunnelID → Stage}
    (open_ : s.epoch.closed = false) (reserved : Reserved s.epoch d gen)
    (holds : ∀ (e : Epoch) (pendingGen : Nat), e.pendingRecovery = none →
      StageHolds e ⟨next e.active, pendingGen, true⟩) :
    DiscoverOutcome s (commitCutover s d gen fallback next) := by
  dsimp only [commitCutover, build]
  rw [tryCommit_current open_ reserved.current reserved.fresh]
  refine .goes rfl ⟨open_, ?_, holds _ _ rfl⟩
  intro uncommitted
  cases uncommitted

theorem stageHolds_probing_of_reserved
    (reserved : Reserved e d gen) (same : d.pendingGen = pendingGen) :
    StageHolds e ⟨.probing, pendingGen, committed⟩ := by
  grind [Reserved]

/-- Every step of a discovery keeps what it knows of the epoch. -/
theorem discover_outcome (ongoing : Ongoing s.epoch s.current d)
    (stepped : discover s d x = some p) : DiscoverOutcome s p := by
  obtain ⟨stage, _, _⟩ := d
  cases stage with
  | probing =>
    cases x with
    | giveUp =>
      cases stepped
      exact giveUp_outcome ongoing
    | unreachable =>
      cases stepped
      exact .goes rfl ongoing
    | migrate => exact migrate_outcome ongoing stepped
    | break_ | make | rollback => cases stepped
  | migrating gen =>
    cases x with
    | break_ closes => exact break_outcome ongoing stepped
    | giveUp | unreachable | migrate | make | rollback => cases stepped
  | making gen fallback =>
    have reserved : Reserved s.epoch _ gen := ongoing.stage
    cases x with
    | make ok =>
      cases ok with
      | true =>
        cases stepped
        refine commitCutover_outcome ongoing.open_ reserved ?_
        intro e _ idle
        cases active : e.active with
        | none => exact idle
        | some t => exact ⟨idle, active⟩
      | false =>
        cases stepped
        exact .goes rfl ⟨ongoing.open_, ongoing.unchanged,
          ⟨reserved.current, reserved.positive, reserved.fresh, reserved.pending⟩⟩
    | giveUp | unreachable | migrate | break_ | rollback => cases stepped
  | rolling gen fallback =>
    have reserved : Reserved s.epoch _ gen := ongoing.stage
    cases x with
    | rollback ok =>
      cases ok with
      | true =>
        cases stepped
        refine commitCutover_outcome ongoing.open_ reserved ?_
        intro e _ idle
        exact .inl idle
      | false =>
        cases stepped
        exact .goes rfl ⟨ongoing.open_, ongoing.unchanged,
          stageHolds_probing_of_reserved reserved rfl⟩
    | giveUp | unreachable | migrate | break_ | make => cases stepped
  | done result => cases x <;> cases stepped

/-- A discovery that has ended without a commit leaves the epoch as it was. -/
theorem Ongoing.settled
    (ongoing : Ongoing e current ⟨.done result, pendingGen, false⟩) : e.Settled current := by
  constructor <;> grind [Ongoing, Epoch.Idle]

/-! ## The supervisor -/

/-- What holds between the supervisor and its epoch in each phase. -/
@[grind] def Sound (s : State) : Prop :=
  match s.phase with
  | .discovering _ d => Ongoing s.epoch s.current d
  | .exited _ => True
  | _ => s.epoch.Settled s.current

/-- The event concerns the active tunnel, and an exit with an error leaves no healthy one. -/
def worksOn (s : State) : Event → Bool
  | .observes x => s.epoch.active = some x
  | .recovers x => s.epoch.active = some x
  | .exits reason => !reason.isError || !s.epoch.active.any s.healthy

def State.discoveryCommitted (s : State) : Bool :=
  match s.phase with
  | .discovering _ d => d.committed
  | _ => false

/-- The step goes on without a tunnel from the discovery: its result is nil, or it is not read
because of a loss. -/
def State.drops (s : State) (a : Action) : Bool :=
  match a, s.phase with
  | .takeResult, .discovering _ d => d.stage = .done none
  | .drained, .discovering (.leaving exits) _ => !exits
  | _, _ => false

/-- No discovery is dropped that has committed a tunnel. -/
def Received (s : State) (a : Action) : Prop :=
  s.drops a = true → s.discoveryCommitted = false

instance (s : State) (a : Action) : Decidable (Received s a) :=
  inferInstanceAs (Decidable (_ → _))

/-- What a step of the supervisor has to establish. -/
@[grind] structure Kept (s t : State) (es : List Event) : Prop where
  sound : Sound t
  works : ∀ e ∈ es, worksOn s e = true

theorem Kept.quiet (sound : Sound t) : Kept s t [] := ⟨sound, nofun⟩

/-- Ending because of the context needs nothing. -/
theorem Kept.cancelled (s : State) : Kept s (s.exit .cancelled []).1 (s.exit .cancelled []).2 := by
  refine ⟨trivial, ?_⟩
  intro e member
  obtain rfl := List.mem_singleton.mp member
  rfl

theorem works_singleton (works : worksOn s e = true) : ∀ e' ∈ [e], worksOn s e' = true := by
  grind

theorem worksOn_observes {s : State} {x : TunnelID} (active : s.epoch.active = some x) :
    worksOn s (.observes x) = true := decide_eq_true active

theorem worksOn_recovers {s : State} {x : TunnelID} (active : s.epoch.active = some x) :
    worksOn s (.recovers x) = true := decide_eq_true active

theorem worksOn_exits (unhealthy : ∀ x, s.epoch.active = some x → s.healthy x = false) :
    worksOn s (.exits reason) = true := by
  cases active : s.epoch.active with
  | none => simp [worksOn, active]
  | some x => simp [worksOn, active, unhealthy x active]

theorem works_exit (works : worksOn s e = true)
    (unhealthy : ∀ x, s.epoch.active = some x → s.healthy x = false) :
    ∀ e' ∈ [e] ++ [Event.exits reason], worksOn s e' = true := by
  grind [worksOn_exits]

theorem unhealthy_of_unobservable
    (valid : cfg.lossObserver.validate = true) (failed : s.observable cfg = false) :
    s.healthy s.current = false := by
  rw [State.observable] at failed
  rw [State.healthy]
  cases found : s.tunnels[s.current]? with
  | none => rfl
  | some tunnel => grind [startLossObserver, Tunnel.healthy]

variable {cfg : Config} {a : Action} {es : List Event}

theorem observe_kept (valid : cfg.lossObserver.validate = true)
    (settled : s.epoch.Settled s.current) :
    Kept s (observe cfg s due cools).1 (observe cfg s due cools).2 := by
  have works := worksOn_observes settled.active
  rw [observe]
  split
  · exact .cancelled s
  split
  · rename_i failed
    refine ⟨trivial, works_exit works ?_⟩
    intro x active
    obtain rfl := Option.some.inj (settled.active.symm.trans active)
    exact unhealthy_of_unobservable valid failed
  · grind

theorem startDiscovery_kept (settled : s.epoch.Settled s.current) :
    Kept s (startDiscovery cfg s after).1 (startDiscovery cfg s after).2 := by
  have works := works_singleton (worksOn_observes settled.active)
  unfold startDiscovery
  split
  · exact ⟨Ongoing.start settled, works⟩
  · grind

theorem recover_kept (settled : s.epoch.Settled s.current) :
    Kept s (recover cfg s calls).1 (recover cfg s calls).2 := by
  have works := worksOn_recovers settled.active
  rw [recover]
  split
  · exact .cancelled s
  have outcome := recoverPath_outcome settled calls
  revert outcome
  generalize recoverPath s s.current calls = result
  intro outcome
  cases outcome with
  | panics unhealthy =>
    refine ⟨trivial, works_exit works ?_⟩
    intro x active
    obtain rfl := Option.some.inj (settled.active.symm.trans active)
    exact unhealthy
  | retries retryable same after => grind
  | recovers candidate after =>
    dsimp only
    rw [after.active]
    split
    all_goals exact ⟨after, works_singleton works⟩

theorem Sound.congr (sound : Sound s) (phase : t.phase = s.phase)
    (epoch : t.epoch = s.epoch) (current : t.current = s.current) : Sound t := by
  rw [Sound, phase, epoch, current]
  exact sound

theorem discovery_kept (phase : s.phase = .discovering mode d)
    (ongoing : Ongoing s.epoch s.current d)
    (stepped : step? cfg s (.discovery x) = some (t, es)) : Kept s t es := by
  dsimp only [step?] at stepped
  rw [phase] at stepped
  dsimp only at stepped
  split at stepped
  · cases stepped
  · rename_i progressed
    cases stepped
    cases discover_outcome ongoing progressed with
    | panics unhealthy => exact ⟨trivial, works_singleton (worksOn_exits unhealthy)⟩
  · rename_i progressed
    cases stepped
    cases discover_outcome ongoing progressed with
    | goes same after =>
      refine .quiet ?_
      rw [← same] at after
      exact after

/-- The discovery that the supervisor goes on without has left the epoch to it. -/
theorem settled_of_received (phase : s.phase = .discovering mode d)
    (ongoing : Ongoing s.epoch s.current d) (received : Received s a) (drops : s.drops a = true)
    (ended : d.stage = .done result) : s.epoch.Settled s.current := by
  have uncommitted := received drops
  rw [discoveryCommitted, phase] at uncommitted
  obtain ⟨_, _, _⟩ := d
  dsimp only at ended uncommitted
  rw [ended, uncommitted] at ongoing
  exact ongoing.settled

theorem takeResult_kept (sound : Sound s) (received : Received s .takeResult)
    (stepped : step? cfg s .takeResult = some (t, es)) : Kept s t es := by
  dsimp only [step?] at stepped
  split at stepped
  · rename_i result _ _ phase
    cases stepped
    rw [Sound, phase] at sound
    refine .quiet ?_
    cases result with
    | none =>
      have drops : s.drops .takeResult = true := by simp [State.drops, phase]
      have settled := settled_of_received phase sound received drops rfl
      exact settled
    | some x => constructor <;> grind [Epoch.Idle, Ongoing]
  · cases stepped

theorem drained_kept (sound : Sound s) (received : Received s .drained)
    (stepped : step? cfg s .drained = some (t, es)) : Kept s t es := by
  dsimp only [step?] at stepped
  split at stepped
  · cases stepped
    exact .cancelled s
  · rename_i _ _ _ phase
    cases stepped
    rw [Sound, phase] at sound
    have drops : s.drops .drained = true := by simp [State.drops, phase]
    have settled := settled_of_received phase sound received drops rfl
    exact .quiet settled
  · cases stepped

/-- Every step that receives what discovery has committed is sound. -/
theorem step_kept (valid : cfg.lossObserver.validate = true) (sound : Sound s)
    (received : Received s a) (stepped : step? cfg s a = some (t, es)) : Kept s t es := by
  cases a with
  | observe due cools =>
    grind [observe_kept, step?]
  | startDiscovery =>
    grind [startDiscovery_kept, step?]
  | loss | takeLoss | takeWake | retry => grind [step?]
  | takeResult => exact takeResult_kept sound received stepped
  | takeCancel => grind [Kept.cancelled, step?]
  | drained => exact drained_kept sound received stepped
  | recover calls =>
    grind [recover_kept, step?]
  | discovery x => grind [discovery_kept, step?]
  | cancel | device x handshake =>
    cases stepped
    exact .quiet (sound.congr rfl rfl rfl)

/-! ## Runs -/

variable {start : State}

theorem startPathSupervisor_sound
    (started : startPathSupervisor initial shared = some start) (idle : start.epoch.Idle) :
    Sound start := by
  dsimp only [startPathSupervisor] at started
  split at started
  · rename_i active
    cases started
    exact ⟨idle, active⟩
  · cases started

theorem run_sound (valid : cfg.lossObserver.validate = true) (sound : Sound start)
    (run : (system cfg start).Run Received start trace s) : Sound s :=
  run.invariant sound fun before received stepped =>
    (step_kept valid before received stepped).sound

/-- If every discovery that the supervisor goes on without has committed no tunnel, it observes
and recovers the active tunnel only, and an error never ends it while that tunnel is healthy. -/
theorem supervisor_works_on_active {initial : Tunnel} {shared : Option Epoch} {start : State}
    {trace : List Event} (valid : cfg.lossObserver.validate = true)
    (started : startPathSupervisor initial shared = some start) (idle : start.epoch.Idle)
    (run : (system cfg start).Run Received start trace s) (received : Received s a)
    (stepped : (system cfg start).step? s a = some (t, es)) : ∀ e ∈ es, worksOn s e = true := by
  have sound := run_sound valid (startPathSupervisor_sound started idle) run
  exact (step_kept valid sound received stepped).works

/-- Discovery enabled and one second for the liveness and the polls. -/
def discoveringConfig : Config := ⟨⟨1000000000, 1000000000⟩, true⟩

/-- A started supervisor on an established fallback. -/
def fallbackStart : State := ⟨[established true], .new 0, 0, .top, false, false⟩

/-- A migration that succeeds, and then the observation of its tunnel. -/
theorem supervisor_works_on_active_migrated :
    ∃ trace s t es, (system discoveringConfig fallbackStart).Run Received fallbackStart trace s ∧
      (system discoveringConfig fallbackStart).step? s (.observe true false) = some (t, es) ∧
      es = [.observes 1] ∧ ∀ e ∈ es, worksOn s e = true := by
  have reached : (system discoveringConfig fallbackStart).reaches? Received
      [.observe true false, .startDiscovery, .discovery .migrate, .discovery (.break_ true),
        .discovery (.make true), .takeResult]
      (.observe true false) (fun _ _ es => es = [.observes 1]) = true := by decide
  obtain ⟨trace, s, t, es, run, received, stepped, found⟩ := System.reaches?_run reached
  have started : startPathSupervisor (established true) none = some fallbackStart := rfl
  exact ⟨trace, s, t, es, run, stepped, of_decide_eq_true found,
    supervisor_works_on_active rfl started ⟨rfl, rfl⟩ run received stepped⟩

/-- A cutover is rolled back and the next probe fails.  The supervisor then observes the tunnel
that the cutover has stopped, and ends with an error although the tunnel of the rollback is
active and healthy. -/
theorem rolled_back_tunnel_abandoned :
    ∃ trace s t, (system discoveringConfig fallbackStart).Run free fallbackStart trace s ∧
      (system discoveringConfig fallbackStart).step? s (.observe false true) =
        some (t, [.observes 0, .exits .observer]) ∧
      s.epoch.active = some 1 ∧ s.healthy 1 = true ∧ s.cancelled = false := by
  have reached : (system discoveringConfig fallbackStart).reaches? free
      [.observe true false, .startDiscovery, .discovery .migrate, .discovery (.break_ true),
        .discovery (.make false), .discovery (.rollback true), .discovery .unreachable,
        .discovery .giveUp, .takeResult]
      (.observe false true) (fun s _ es => es = [.observes 0, .exits .observer] ∧
        s.epoch.active = some 1 ∧ s.healthy 1 = true ∧ s.cancelled = false) = true := by decide
  obtain ⟨trace, s, t, _, run, -, stepped, found⟩ := System.reaches?_run reached
  obtain ⟨rfl, active, healthy, live⟩ := of_decide_eq_true found
  exact ⟨trace, s, t, run, stepped, active, healthy, live⟩

end NeonDoll.BodyPath
