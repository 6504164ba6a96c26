import NeonDoll.Lib.Duration
import NeonDoll.Lib.Text
import NeonDoll.Lib.Transition

/-!
# The Pulse runner

Ticks, guards, wakes and checkpoints of `Core/Pulse`, with the process restarts of
`cmd/neondolld/main.go`.  A tick is cut at every point at which a crash can be told apart: before
and after each checkpoint write, and while cognition runs.  The pressure of a tick and its random
sample are floating-point numbers; which of the comparisons with them hold is part of the action.
-/

namespace NeonDoll.Pulse

open Lib Transition Duration

/-- An instant, in nanoseconds after the zero value of `time.Time`. -/
abbrev Time := Int

abbrev SubjectID := Text

/-- `PulseConfig`; the spacing is in seconds. -/
structure Config where
  enabled : Bool
  minWakeSpacing : Int64
  deriving DecidableEq

structure SubjectState where
  subjectID : SubjectID
  lastPresentedAt : Time
  revisionAtLastPresent : Int64
  changesSincePresent : Int64
  lastSettledAt : Time
  lifecycleState : Text
  deriving DecidableEq

def SubjectState.markPresented (now : Time) (s : SubjectState) : SubjectState :=
  if now = 0 then s
  else if s.lastPresentedAt < now then { s with lastPresentedAt := now } else s

def SubjectState.markSettled (now : Time) (s : SubjectState) : SubjectState :=
  if now = 0 then s
  else if s.lastSettledAt < now then { s with lastSettledAt := now } else s

structure SubjectCheckpoint where
  subjectID : SubjectID
  lastPresentedAt : Time
  revisionAtLastPresent : Int64
  changesSincePresent : Int64
  lastSettledAt : Time
  deriving DecidableEq

structure Checkpoint where
  lastCognitionAt : Time
  lastSpontaneousWakeAt : Time
  subjects : List SubjectCheckpoint
  deriving DecidableEq

/-- The bookkeeping in memory; `cognitionRun` is the occupancy flag. -/
structure Runner where
  tickCount : Nat
  lastTickAt : Time
  lastCognitionAt : Time
  lastSpontaneousWakeAt : Time
  subjects : List SubjectState
  cognitionRun : Bool
  mindEntry : Bool
  deriving DecidableEq

def newRunner (mindEntry : Bool) (subjects : List SubjectState) : Runner :=
  ⟨0, 0, 0, 0, subjects, false, mindEntry⟩

def Runner.toCheckpoint (r : Runner) : Checkpoint where
  lastCognitionAt := r.lastCognitionAt
  lastSpontaneousWakeAt := r.lastSpontaneousWakeAt
  subjects := r.subjects.map fun s =>
    ⟨s.subjectID, s.lastPresentedAt, s.revisionAtLastPresent, s.changesSincePresent,
      s.lastSettledAt⟩

/-- A subject with the data of the last entry that the checkpoint has for it. -/
def restoreSubject (saved : List SubjectCheckpoint) (s : SubjectState) : SubjectState :=
  match saved.reverse.find? fun c => c.subjectID = s.subjectID with
  | none => s
  | some c =>
    { s with
      lastPresentedAt := c.lastPresentedAt
      revisionAtLastPresent := c.revisionAtLastPresent
      changesSincePresent := c.changesSincePresent
      lastSettledAt := c.lastSettledAt }

def Runner.restoreFromCheckpoint (r : Runner) (cp : Checkpoint) : Runner :=
  { r with
    lastCognitionAt := cp.lastCognitionAt
    lastSpontaneousWakeAt := cp.lastSpontaneousWakeAt
    subjects := r.subjects.map (restoreSubject cp.subjects) }

/-! ## Guards and opportunities -/

inductive GuardReason where
  | minWakeSpacing
  | cognitionRun
  deriving DecidableEq

structure GuardResult where
  reason : GuardReason
  blocked : Bool
  message : Text
  deriving DecidableEq

/-- `elapsed.Seconds() < float64(seconds)` for a positive number of seconds. -/
def secondsBelow (elapsed : Int) (seconds : Int64) : Bool :=
  elapsed < 0 ∨ (wholeSeconds elapsed.toNat : Int) < seconds.toInt

/-- The spacing guard; a zero time is no wake at all. -/
def spacingBlocked (cfg : Config) (now last : Time) : Bool :=
  0 < cfg.minWakeSpacing ∧ last ≠ 0 ∧ secondsBelow (sub now last) cfg.minWakeSpacing

def evaluateGuards (cfg : Config) (now last : Time) (active : Bool) : Bool × List GuardResult :=
  let spacing := spacingBlocked cfg now last
  (!(spacing || active),
    [ ⟨.minWakeSpacing, spacing,
        if spacing then "min wake spacing not met".toList else "spacing ok".toList⟩,
      ⟨.cognitionRun, active,
        if active then "cognition run already active".toList
        else "no active cognition run".toList⟩ ])

/-- What the floating-point part of a tick decides: whether the effective pressure is positive,
whether the sample is below it, and which subjects were activated. -/
structure Draw where
  pressing : Bool
  below : Bool
  subjects : List SubjectID
  deriving DecidableEq

def evaluateOpportunity (cfg : Config) (now : Time) (r : Runner) (draw : Draw) : Bool :=
  let eligible := (evaluateGuards cfg now r.lastSpontaneousWakeAt r.cognitionRun).1
  eligible && draw.pressing && draw.below

/-- `PulseWake`, as far as the runner reads it again. -/
structure Wake where
  admittedAt : Time
  subjects : List SubjectID
  deriving DecidableEq

/-- The first subject of the given identifier is changed. -/
def changeSubject (change : SubjectState → SubjectState) (id : SubjectID) :
    List SubjectState → List SubjectState
  | [] => []
  | s :: rest => if s.subjectID = id then change s :: rest else s :: changeSubject change id rest

def changeSubjects (change : SubjectState → SubjectState) (ids : List SubjectID)
    (subjects : List SubjectState) : List SubjectState :=
  ids.foldl (fun subjects id => changeSubject change id subjects) subjects

/-- The admission of a wake in memory, with the occupancy claimed. -/
def Runner.admission (r : Runner) (wake : Wake) : Runner :=
  { r with
    subjects := changeSubjects (SubjectState.markPresented wake.admittedAt) wake.subjects r.subjects
    lastSpontaneousWakeAt :=
      if r.lastSpontaneousWakeAt < wake.admittedAt then wake.admittedAt
      else r.lastSpontaneousWakeAt
    cognitionRun := true }

/-- The settlement of a wake in memory. -/
def Runner.settle (r : Runner) (wake : Wake) (completion : Time) : Runner :=
  { r with
    subjects := changeSubjects (SubjectState.markSettled completion) wake.subjects r.subjects
    lastCognitionAt := if r.lastCognitionAt < completion then completion else r.lastCognitionAt }

def Runner.release (r : Runner) : Runner := { r with cognitionRun := false }

/-! ## The system -/

/-- Where the runner is in a tick. -/
inductive Phase where
  | idle
  /-- The wake is admitted in memory and the checkpoint is to be written. -/
  | admitting (wake : Wake)
  /-- The checkpoint was written and cognition is to start. -/
  | entering (wake : Wake)
  /-- `EnterPulseWake` has been called. -/
  | thinking (wake : Wake)
  /-- The wake is settled in memory and the checkpoint is to be written. -/
  | settling (wake : Wake)
  deriving DecidableEq

/-- The process and the checkpoint on disk. -/
structure State where
  runner : Runner
  phase : Phase
  saved : Option Checkpoint
  deriving DecidableEq

/-- How a checkpoint write ends; one that reports an error may have been stored. -/
inductive WriteResult where
  | saved
  | failed (stored : Bool)
  deriving DecidableEq

inductive Event where
  | admitted (wake : Wake)
  | saved (checkpoint : Checkpoint)
  /-- A call of `EnterPulseWake`. -/
  | entered (wake : Wake)
  deriving DecidableEq

inductive Action where
  /-- A tick; `due` says that due intentions were dispatched if the occupancy could be claimed. -/
  | tick (now : Time) (due : Bool) (draw : Draw)
  | saveAdmission (result : WriteResult)
  | enter
  | finish (ok : Bool) (completion : Time)
  | saveSettlement (result : WriteResult)
  | updateSubjects (subjects : List SubjectState)
  | recordCognition (time : Time)
  | setCognitionRunActive (active : Bool)
  | restart (mindEntry : Bool) (subjects : List SubjectState)
  deriving DecidableEq

/-- The tick of `evaluate` once no due intention was dispatched. -/
def evaluate (cfg : Config) (s : State) (now : Time) (draw : Draw) : State × List Event :=
  let r := s.runner
  if cfg.enabled = false then (s, [])
  else if r.lastTickAt ≠ 0 ∧ now < r.lastTickAt then (s, [])
  else
    let ticked := { r with tickCount := r.tickCount + 1, lastTickAt := now }
    if evaluateOpportunity cfg now r draw = true ∧ r.mindEntry = true ∧ r.cognitionRun = false then
      let wake := ⟨now, draw.subjects⟩
      ({ s with runner := ticked.admission wake, phase := .admitting wake }, [.admitted wake])
    else ({ s with runner := ticked }, [])

/-- The checkpoint on disk after a write, with the event of a stored one. -/
def save (s : State) (stored : Bool) : Option Checkpoint × List Event :=
  if stored then (some s.runner.toCheckpoint, [.saved s.runner.toCheckpoint]) else (s.saved, [])

def saveAdmission (s : State) (wake : Wake) : WriteResult → State × List Event
  | .saved => ({ s with phase := .entering wake, saved := (save s true).1 }, (save s true).2)
  | .failed stored =>
    ({ runner := s.runner.release, phase := .idle, saved := (save s stored).1 },
      (save s stored).2)

def saveSettlement (s : State) (stored : Bool) : State × List Event :=
  ({ runner := s.runner.release, phase := .idle, saved := (save s stored).1 }, (save s stored).2)

def WriteResult.stored : WriteResult → Bool
  | .saved => true
  | .failed stored => stored

/-- A new process: the subjects are registered and the checkpoint, if there is one, restored. -/
def restarted (mindEntry : Bool) (subjects : List SubjectState) (saved : Option Checkpoint) :
    State where
  runner :=
    match saved with
    | none => newRunner mindEntry subjects
    | some cp => (newRunner mindEntry subjects).restoreFromCheckpoint cp
  phase := .idle
  saved := saved

def step? (cfg : Config) (s : State) : Action → Option (State × List Event)
  | .tick now due draw =>
    if s.phase = .idle then
      if due = true ∧ s.runner.cognitionRun = false then some (s, [])
      else some (evaluate cfg s now draw)
    else none
  | .saveAdmission result =>
    match s.phase with
    | .admitting wake => some (saveAdmission s wake result)
    | _ => none
  | .enter =>
    match s.phase with
    | .entering wake => some ({ s with phase := .thinking wake }, [.entered wake])
    | _ => none
  | .finish ok completion =>
    match s.phase with
    | .thinking wake =>
      if ok then
        some ({ s with runner := s.runner.settle wake completion, phase := .settling wake }, [])
      else some ({ s with runner := s.runner.release, phase := .idle }, [])
    | _ => none
  | .saveSettlement result =>
    match s.phase with
    | .settling _ => some (saveSettlement s result.stored)
    | _ => none
  | .updateSubjects subjects =>
    some ({ s with runner := { s.runner with subjects := subjects } }, [])
  | .recordCognition time =>
    let last := s.runner.lastCognitionAt
    some ({ s with runner :=
      { s.runner with lastCognitionAt := if last < time then time else last } }, [])
  | .setCognitionRunActive active =>
    some ({ s with runner := { s.runner with cognitionRun := active } }, [])
  | .restart mindEntry subjects => some (restarted mindEntry subjects s.saved, [])

/-- The first process starts without a checkpoint. -/
def system (cfg : Config) : System State Action Event where
  init := restarted false [] none
  step? := step? cfg

/-! ## What a step does -/

/-- The time that the spacing guard reads. -/
def State.last (s : State) : Time := s.runner.lastSpontaneousWakeAt

/-- The time that the checkpoint on disk would restore. -/
def State.savedLast (s : State) : Time := (s.saved.map Checkpoint.lastSpontaneousWakeAt).getD 0

/-- A wake that still has to enter the Mind. -/
def Phase.upcoming : Phase → Option Wake
  | .admitting wake => some wake
  | .entering wake => some wake
  | _ => none

/-- The kinds of steps, as far as wakes and checkpoints are concerned. -/
inductive Moves (cfg : Config) (s t : State) : Action → List Event → Prop
  /-- Nothing that concerns wakes, unless an upcoming one is dropped. -/
  | quiet (a : Action) (last : t.last = s.last) (saved : t.saved = s.saved)
      (phase : t.phase = s.phase ∨ t.phase.upcoming = none) : Moves cfg s t a []
  | admitted (now : Time) (due : Bool) (draw : Draw) (idle : s.phase = .idle)
      (spaced : spacingBlocked cfg now s.last = false)
      (last : t.last = max s.last now) (saved : t.saved = s.saved)
      (phase : t.phase = .admitting ⟨now, draw.subjects⟩) :
      Moves cfg s t (.tick now due draw) [.admitted ⟨now, draw.subjects⟩]
  | recorded (wake : Wake) (admitting : s.phase = .admitting wake) (last : t.last = s.last)
      (saved : t.saved = some s.runner.toCheckpoint) (phase : t.phase = .entering wake) :
      Moves cfg s t (.saveAdmission .saved) [.saved s.runner.toCheckpoint]
  /-- A checkpoint is stored and the tick ends. -/
  | stored (a : Action) (last : t.last = s.last) (saved : t.saved = some s.runner.toCheckpoint)
      (phase : t.phase = .idle) : Moves cfg s t a [.saved s.runner.toCheckpoint]
  | entered (wake : Wake) (entering : s.phase = .entering wake) (last : t.last = s.last)
      (saved : t.saved = s.saved) (phase : t.phase = .thinking wake) :
      Moves cfg s t .enter [.entered wake]
  | restarted (mindEntry : Bool) (subjects : List SubjectState) (last : t.last = s.savedLast)
      (saved : t.saved = s.saved) (phase : t.phase = .idle) :
      Moves cfg s t (.restart mindEntry subjects) []

theorem admission_last (r : Runner) :
    (r.admission wake).lastSpontaneousWakeAt = max r.lastSpontaneousWakeAt wake.admittedAt := by
  grind [Runner.admission]

variable {draw : Draw} {now : Time}

theorem spacing_of_opportunity (opportunity : evaluateOpportunity cfg now r draw = true) :
    spacingBlocked cfg now r.lastSpontaneousWakeAt = false := by
  simp only [evaluateOpportunity, evaluateGuards, Bool.and_eq_true, Bool.not_eq_true',
    Bool.or_eq_false_iff] at opportunity
  exact opportunity.1.1.1

variable {s : State}

theorem evaluate_moves (idle : s.phase = .idle) :
    Moves cfg s (evaluate cfg s now draw).1 (.tick now due draw) (evaluate cfg s now draw).2 := by
  unfold evaluate
  dsimp only
  split
  · exact .quiet _ rfl rfl (.inl rfl)
  split
  · exact .quiet _ rfl rfl (.inl rfl)
  split
  · rename_i admission
    apply Moves.admitted now due draw idle (spacing_of_opportunity admission.1)
    · exact admission_last _
    all_goals rfl
  · exact .quiet _ rfl rfl (.inl rfl)

theorem save_moves :
    Moves cfg s ⟨s.runner.release, .idle, (save s stored).1⟩ a (save s stored).2 := by
  cases stored with
  | true => exact .stored a rfl rfl rfl
  | false => exact .quiet a rfl rfl (.inr rfl)

theorem restarted_last : (restarted mindEntry subjects s.saved).last = s.savedLast := by
  unfold State.last State.savedLast restarted
  cases s.saved with
  | none => rfl
  | some cp => rfl

theorem step_moves (stepped : step? cfg s a = some (t, es)) : Moves cfg s t a es := by
  cases a <;> rw [step?] at stepped
  case tick now due draw => grind [Moves, evaluate_moves, step?]
  case saveAdmission result =>
    split at stepped
    · rename_i wake admitting
      cases result with
      | saved =>
        cases stepped
        exact .recorded wake admitting rfl rfl rfl
      | failed stored =>
        cases stepped
        exact save_moves
    · cases stepped
  case enter =>
    split at stepped
    · rename_i wake entering
      cases stepped
      exact .entered wake entering rfl rfl rfl
    · cases stepped
  case finish ok completion =>
    split at stepped
    · split at stepped
      all_goals
        cases stepped
        exact .quiet _ rfl rfl (.inr rfl)
    · cases stepped
  case saveSettlement result =>
    split at stepped
    · cases stepped
      exact save_moves
    · cases stepped
  case updateSubjects subjects | recordCognition time | setCognitionRunActive active =>
    cases stepped
    exact .quiet _ rfl rfl (.inl rfl)
  case restart mindEntry subjects =>
    cases stepped
    exact .restarted mindEntry subjects (restarted_last) rfl rfl

end NeonDoll.Pulse
