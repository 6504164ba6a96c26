import NeonDoll.BodyPath.Epoch
import NeonDoll.Lib.Transition

/-!
# The path supervisor

`runSupervisor` and `runDiscovery` of `Body/body_supervisor.go` with `RecoverPath` of
`Body/recovery.go` and the cutover of `Body/migrate.go`.  The supervisor and a discovery that it
has started run concurrently; every select of the supervisor is an action of its own.  Which
probes, handshakes and path selections succeed and when the cooldown of discovery is over are
part of the actions.
-/

namespace NeonDoll.BodyPath

open Lib Transition

structure Config where
  lossObserver : LossObserverConfig
  discoveryEnabled : Bool
  deriving DecidableEq

/-! ## State -/

/-- Where a discovery is.  After a reservation it carries its generation, and from the break on
whether the old path was a fallback. -/
inductive Stage where
  | probing
  | migrating (gen : Nat)
  | making (gen : Nat) (fallback : Bool)
  | rolling (gen : Nat) (fallback : Bool)
  | done (result : Option TunnelID)
  deriving DecidableEq

/-- A running discovery; `committed` says that one of its cutovers has committed a tunnel. -/
structure Discovery where
  stage : Stage
  pendingGen : Nat
  committed : Bool
  deriving DecidableEq

def Discovery.start : Discovery := ⟨.probing, 0, false⟩

/-- The discovery on a path that the supervisor observes, or after a recovery. -/
inductive After where
  | observation
  | recovery
  deriving DecidableEq

/-- The supervisor waits in its select, or it has left it and waits for the discovery to end in
order to recover or to exit. -/
inductive Mode where
  | waiting (after : After)
  | leaving (exits : Bool)
  deriving DecidableEq

inductive RecoverError where
  | epochClosed
  | superseded
  | stop
  | selection
  deriving DecidableEq

def isRecoveryTerminal : RecoverError → Bool
  | .epochClosed => true
  | .superseded => true
  | .stop => false
  | .selection => false

inductive Exit where
  | cancelled
  /-- The loss observer could not be started. -/
  | observer
  | terminal (error : RecoverError)
  | panicked
  deriving DecidableEq

def Exit.isError : Exit → Bool
  | .cancelled => false
  | _ => true

inductive Phase where
  | top
  /-- Observation without discovery; `cools` says that a cooldown is running. -/
  | observing (cools : Bool)
  | starting (after : After)
  | discovering (mode : Mode) (discovery : Discovery)
  | recovering
  | backingOff
  | exited (reason : Exit)
  deriving DecidableEq

structure State where
  tunnels : List Tunnel
  epoch : Epoch
  /-- The tunnel that the supervisor works on. -/
  current : TunnelID
  phase : Phase
  lossSent : Bool
  cancelled : Bool
  deriving DecidableEq

inductive Event where
  | observes (tunnel : TunnelID)
  | recovers (tunnel : TunnelID)
  | exits (reason : Exit)
  deriving DecidableEq

def State.healthy (s : State) (t : TunnelID) : Bool := s.tunnels[t]?.any Tunnel.healthy

def State.fallback (s : State) (t : TunnelID) : Bool := s.tunnels[t]?.any Tunnel.fallback

/-- Whether an observer can be started on the current tunnel. -/
def State.observable (cfg : Config) (s : State) : Bool :=
  s.tunnels[s.current]?.any (startLossObserver cfg.lossObserver)

/-- A new tunnel and its number. -/
def State.build (s : State) (t : Tunnel) : State × TunnelID :=
  ({ s with tunnels := s.tunnels ++ [t] }, s.tunnels.length)

/-- `Stop` of a tunnel, which panics or reports whether it worked. -/
def State.stop (s : State) (t : TunnelID) (closes : Bool) : Option (State × Bool) :=
  match s.tunnels[t]? with
  | none => some (s, true)
  | some tunnel =>
    match tunnel.stop closes with
    | .done stopped => some ({ s with tunnels := s.tunnels.set t stopped }, true)
    | .failed stopped => some ({ s with tunnels := s.tunnels.set t stopped }, false)
    | .panics => none

/-! ## Recovery -/

inductive Path where
  | direct
  | relayUDP
  | relayWSS
  deriving DecidableEq

/-- What a recovery meets: whether the bind of the old tunnel closes, and the path that was
selected, if any. -/
structure RecoverCalls where
  closes : Bool
  selected : Option Path
  deriving DecidableEq

/-- `RecoverPath`; `none` is a panic. -/
def recoverPath (s : State) (old : TunnelID) (calls : RecoverCalls) :
    Option (State × Except RecoverError Path) :=
  let (epoch, gen) := s.epoch.nextGenForTunnel (some old)
  if gen = 0 then some (s, .error .epochClosed)
  else
    match { s with epoch := epoch }.stop old calls.closes with
    | none => none
    | some (s, false) => some ({ s with epoch := s.epoch.tryCancel gen }, .error .stop)
    | some (s, true) =>
      match calls.selected with
      | none => some ({ s with epoch := s.epoch.tryCancel gen }, .error .selection)
      | some path =>
        let (built, candidate) := s.build (established (path = .relayWSS))
        match s.epoch.tryCommit gen (some candidate) with
        | (epoch, true) => some ({ built with epoch := epoch }, .ok path)
        -- The candidate is stopped and nothing refers to it any more.
        | (epoch, false) => some ({ s with epoch := epoch }, .error .superseded)

/-! ## Discovery -/

inductive DiscoveryStep where
  /-- The context is done or there is no slot for a further probe. -/
  | giveUp
  | unreachable
  | migrate
  | break_ (closes : Bool)
  /-- The new tunnel is started and has its handshake, or not. -/
  | make (ok : Bool)
  | rollback (ok : Bool)
  deriving DecidableEq

/-- What a step of a discovery leads to. -/
inductive Progress where
  | goes (state : State) (discovery : Discovery)
  | panics

/-- The commit of a tunnel that a cutover has built. -/
def commitCutover (s : State) (d : Discovery) (gen : Nat) (fallback : Bool)
    (next : Option TunnelID → Stage) : Progress :=
  let (built, candidate) := s.build (established fallback)
  match s.epoch.tryCommit gen (some candidate) with
  | (epoch, true) =>
    .goes { built with epoch := epoch } ⟨next epoch.active, d.pendingGen, true⟩
  | (epoch, false) => .goes { s with epoch := epoch } { d with stage := .probing }

/-- A step of `runDiscovery` with `MigratePath`, `CutoverPath` and `buildAndCommitRollback`. -/
def discover (s : State) (d : Discovery) (x : DiscoveryStep) : Option Progress :=
  match d.stage, x with
  | .probing, .giveUp =>
    let epoch := if 0 < d.pendingGen then s.epoch.tryCancel d.pendingGen else s.epoch
    some (.goes { s with epoch := epoch } { d with stage := .done none })
  | .probing, .unreachable => some (.goes s d)
  | .probing, .migrate =>
    let (epoch, gen) := s.epoch.nextGenForTunnel s.epoch.active
    if epoch.tryReserveMigration gen then
      some (.goes { s with epoch := epoch } { d with stage := .migrating gen, pendingGen := gen })
    else some (.goes { s with epoch := epoch } d)
  | .migrating gen, .break_ closes =>
    if s.epoch.tryReserveMigration gen then
      match s.epoch.active with
      | none => some .panics
      | some old =>
        match s.stop old closes with
        | none => some .panics
        | some (t, true) =>
          some (.goes t { d with stage := .making gen (s.fallback old) })
        | some (t, false) =>
          some (.goes t { d with stage := .rolling gen (s.fallback old) })
    else some (.goes s { d with stage := .probing })
  | .making gen fallback, .make ok =>
    if ok then some (commitCutover s d gen false .done)
    else some (.goes s { d with stage := .rolling gen fallback })
  | .rolling gen fallback, .rollback ok =>
    -- The tunnel of a rollback is committed, but the discovery goes on without returning it.
    if ok then some (commitCutover s d gen fallback fun _ => .probing)
    else some (.goes s { d with stage := .probing })
  | _, _ => none

/-! ## The supervisor -/

inductive Action where
  /-- The head of the loop.  The clock is read twice: `due` is after the cooldown, `cools` before
  its end. -/
  | observe (due cools : Bool)
  | startDiscovery
  /-- An observer of the current tunnel sends a loss. -/
  | loss
  | takeLoss
  | takeWake
  | takeResult
  | takeCancel
  /-- The discovery that the supervisor waits for has ended. -/
  | drained
  | recover (calls : RecoverCalls)
  | retry
  | discovery (step : DiscoveryStep)
  | cancel
  /-- The device of a tunnel records a handshake or forgets it. -/
  | device (tunnel : TunnelID) (handshake : Bool)
  deriving DecidableEq

def State.exit (s : State) (reason : Exit) (before : List Event) : State × List Event :=
  ({ s with phase := .exited reason }, before ++ [.exits reason])

def observe (cfg : Config) (s : State) (due cools : Bool) : State × List Event :=
  if s.cancelled then s.exit .cancelled []
  else if s.observable cfg = false then s.exit .observer [.observes s.current]
  else
    let s := { s with lossSent := false }
    if cfg.discoveryEnabled = true ∧ s.fallback s.current = true ∧ due = true then
      ({ s with phase := .starting .observation }, [.observes s.current])
    else
      ({ s with phase := .observing (s.fallback s.current && cools) }, [.observes s.current])

def startDiscovery (cfg : Config) (s : State) (after : After) : State × List Event :=
  if s.observable cfg then
    ({ s with phase := .discovering (.waiting after) .start }, [.observes s.current])
  else
    match after with
    | .observation => ({ s with phase := .observing false }, [.observes s.current])
    | .recovery => ({ s with phase := .top }, [.observes s.current])

def recover (cfg : Config) (s : State) (calls : RecoverCalls) : State × List Event :=
  if s.cancelled then s.exit .cancelled []
  else
    match recoverPath s s.current calls with
    | none => s.exit .panicked [.recovers s.current]
    | some (t, .error e) =>
      if isRecoveryTerminal e then t.exit (.terminal e) [.recovers s.current]
      else ({ t with phase := .backingOff }, [.recovers s.current])
    | some (t, .ok path) =>
      let t := { t with current := t.epoch.active.getD t.current, lossSent := false }
      if cfg.discoveryEnabled = true ∧ path ≠ .direct then
        ({ t with phase := .starting .recovery }, [.recovers s.current])
      else ({ t with phase := .top }, [.recovers s.current])

/-- An observer is running.  It may have read the device before its tunnel was stopped, so a loss
can still follow the stop. -/
def Phase.observed : Phase → Bool
  | .observing _ => true
  | .starting .observation => true
  | .discovering _ _ => true
  | _ => false

def step? (cfg : Config) (s : State) : Action → Option (State × List Event)
  | .observe due cools =>
    match s.phase with
    | .top => some (observe cfg s due cools)
    | _ => none
  | .startDiscovery =>
    match s.phase with
    | .starting after => some (startDiscovery cfg s after)
    | _ => none
  | .loss => if s.phase.observed then some ({ s with lossSent := true }, []) else none
  | .takeLoss =>
    if s.lossSent then
      match s.phase with
      | .observing _ => some ({ s with phase := .recovering }, [])
      | .discovering (.waiting _) d =>
        some ({ s with phase := .discovering (.leaving false) d }, [])
      | _ => none
    else none
  | .takeWake =>
    match s.phase with
    | .observing true => some ({ s with phase := .top }, [])
    | _ => none
  | .takeResult =>
    match s.phase with
    | .discovering (.waiting _) ⟨.done result, _, _⟩ =>
      some ({ s with current := result.getD s.current, phase := .top }, [])
    | _ => none
  | .takeCancel =>
    if s.cancelled then
      match s.phase with
      | .observing _ => some (s.exit .cancelled [])
      | .backingOff => some (s.exit .cancelled [])
      | .discovering (.waiting _) d =>
        some ({ s with phase := .discovering (.leaving true) d }, [])
      | _ => none
    else none
  | .drained =>
    match s.phase with
    | .discovering (.leaving true) ⟨.done _, _, _⟩ => some (s.exit .cancelled [])
    | .discovering (.leaving false) ⟨.done _, _, _⟩ => some ({ s with phase := .recovering }, [])
    | _ => none
  | .recover calls =>
    match s.phase with
    | .recovering => some (recover cfg s calls)
    | _ => none
  | .retry =>
    match s.phase with
    | .backingOff => some ({ s with phase := .recovering }, [])
    | _ => none
  | .discovery x =>
    match s.phase with
    | .discovering mode d =>
      match discover s d x with
      | none => none
      | some .panics => some (s.exit .panicked [])
      | some (.goes t d) => some ({ t with phase := .discovering mode d }, [])
    | _ => none
  | .cancel => some ({ s with cancelled := true }, [])
  | .device t handshake =>
    some ({ s with tunnels := s.tunnels.modify t fun tunnel =>
      { tunnel with handshake := handshake && tunnel.started && !tunnel.shutdown } }, [])

/-- `StartPathSupervisor`: a shared epoch must have the initial tunnel as its active one. -/
def startPathSupervisor (initial : Tunnel) (shared : Option Epoch) : Option State :=
  let epoch := shared.getD (.new 0)
  if epoch.active = some 0 then some ⟨[initial], epoch, 0, .top, false, false⟩ else none

/-- The runs of a supervisor from the state in which it was started. -/
def system (cfg : Config) (start : State) : System State Action Event where
  init := start
  step? := step? cfg

end NeonDoll.BodyPath
