import NeonDoll.Lib.Trace
import NeonDoll.Pulse.Runner

/-!
# Wakes are spaced and recorded first

The guard reads a time in memory that a restart takes from the checkpoint on disk.  Both cover
every wake that has entered the Mind, since a wake enters only after the checkpoint with its
admission was stored.
-/

namespace NeonDoll.Pulse

open Lib Transition Duration List

/-! ## A wake enters after its checkpoint -/

/-- Right before a wake enters the Mind it was admitted and then a checkpoint was stored that
does not let the guard forget it. -/
def RecordedFirst (before : List Event) : Event → Prop
  | .entered wake => ∃ earlier cp, before = earlier ++ [.admitted wake, .saved cp] ∧
      wake.admittedAt ≤ cp.lastSpontaneousWakeAt
  | _ => True

/-- The end of the trace while a wake is upcoming. -/
def Prepared (past : List Event) (s : State) : Prop :=
  match s.phase with
  | .admitting wake => wake.admittedAt ≤ s.last ∧ ∃ earlier, past = earlier ++ [.admitted wake]
  | .entering wake => ∃ earlier cp, past = earlier ++ [.admitted wake, .saved cp] ∧
      wake.admittedAt ≤ cp.lastSpontaneousWakeAt
  | _ => True

variable {past : List Event} {s : State}

theorem Prepared.of_upcoming (none_ : s.phase.upcoming = none) : Prepared past s := by
  unfold Prepared
  split
  · rename_i wake phase
    rw [phase] at none_
    cases none_
  · rename_i wake phase
    rw [phase] at none_
    cases none_
  · trivial

variable {a : Action} {cfg : Config} {es : List Event} {t : State}

theorem step_recorded (prepared : Prepared past s) (all : Throughout RecordedFirst past)
    (stepped : step? cfg s a = some (t, es)) :
    Prepared (past ++ es) t ∧ Throughout RecordedFirst (past ++ es) := by
  have one {e : Event} (holds : RecordedFirst past e) : Throughout RecordedFirst (past ++ [e]) := by
    apply all.append
    apply Throughout.cons
    · rw [append_nil]
      exact holds
    · exact .nil
  cases step_moves stepped with
  | quiet a last saved phase => grind [Prepared, Prepared.of_upcoming]
  | admitted now due draw idle spaced last saved phase =>
    refine ⟨?_, one trivial⟩
    unfold Prepared
    rw [phase]
    refine ⟨?_, past, rfl⟩
    rw [last]
    exact le_max_right _ _
  | recorded wake admitting last saved phase =>
    refine ⟨?_, one trivial⟩
    unfold Prepared at prepared ⊢
    rw [admitting] at prepared
    rw [phase]
    obtain ⟨covered, earlier, rfl⟩ := prepared
    refine ⟨earlier, s.runner.toCheckpoint, ?_, covered⟩
    rw [append_assoc]
    rfl
  | stored a last saved phase =>
    refine ⟨.of_upcoming ?_, one trivial⟩
    rw [phase]
    rfl
  | entered wake entering last saved phase =>
    refine ⟨.of_upcoming ?_, one ?_⟩
    · rw [phase]
      rfl
    · unfold Prepared at prepared
      rw [entering] at prepared
      exact prepared
  | restarted mindEntry subjects last saved phase => grind [Prepared]

variable {trace : List Event}

theorem run_recorded {guard : State → Action → Prop}
    (run : (system cfg).Run guard (system cfg).init trace s) : Throughout RecordedFirst trace := by
  have both : Prepared trace s ∧ Throughout RecordedFirst trace := by
    apply run.history (P := fun past s => Prepared past s ∧ Throughout RecordedFirst past)
    · exact ⟨.of_upcoming rfl, .nil⟩
    · intro x y a past es kept _ stepped
      exact step_recorded kept.1 kept.2 stepped
  exact both.2

/-! ## Spacing -/

/-- The admission times of the wakes that entered the Mind, in their order. -/
def entries (trace : List Event) : List Time :=
  trace.filterMap fun e =>
    match e with
    | .entered wake => some wake.admittedAt
    | _ => none

def Config.spacing (cfg : Config) : Int := cfg.minWakeSpacing.toInt * second

def Spaced (cfg : Config) (trace : List Event) : Prop :=
  (entries trace).Pairwise fun t u => cfg.spacing ≤ |u - t|

/-- The clock of a tick shows a time after the zero value. -/
def Action.afterZero : Action → Bool
  | .tick now _ _ => 0 < now
  | _ => true

/-- The spacing is small enough for seconds in floating point, and the clock shows times after
the zero value. -/
def Measurable (cfg : Config) (_ : State) (a : Action) : Prop :=
  cfg.minWakeSpacing.toInt ≤ exactSeconds ∧ a.afterZero = true

instance (cfg : Config) (s : State) (a : Action) : Decidable (Measurable cfg s a) :=
  inferInstanceAs (Decidable (_ ∧ _))

theorem spacing_le (active : 0 < cfg.minWakeSpacing.toInt)
    (small : cfg.minWakeSpacing.toInt ≤ exactSeconds) (woken : last ≠ 0)
    (free : spacingBlocked cfg now last = false) : last + cfg.spacing ≤ now := by
  have positive : 0 < cfg.minWakeSpacing := Int64.lt_iff_toInt_lt.mpr active
  have reached : ¬(sub now last < 0 ∨
      (wholeSeconds (sub now last).toNat : Int) < cfg.minWakeSpacing.toInt) := by
    intro below
    exact of_decide_eq_false free ⟨positive, woken, decide_eq_true below⟩
  obtain ⟨ahead, reached⟩ := not_or.mp reached
  rw [Int.not_lt] at ahead reached
  obtain ⟨n, eq⟩ := Int.eq_ofNat_of_zero_le (Int.le_of_lt active)
  rw [eq] at reached small
  have exact_ := second_mul_le (Int.ofNat_le.mp reached) (Int.ofNat_le.mp small)
  have difference := sub_le ahead
  have elapsed : ((sub now last).toNat : Int) = sub now last := Int.toNat_of_nonneg ahead
  have product : cfg.spacing = ((second * n : Nat) : Int) := by
    rw [Config.spacing, eq, Int.mul_comm]
    rfl
  have bound : cfg.spacing ≤ (sub now last).toNat := by
    rw [product]
    exact Int.ofNat_le.mpr exact_
  rw [elapsed] at bound
  rw [Int.add_comm]
  exact Int.add_le_of_le_sub_right (Int.le_trans bound difference)

/-- The wakes so far are ordered with the spacing between them, and the memory, the checkpoint
and an upcoming wake respect them. -/
@[grind] structure Covered (cfg : Config) (past : List Event) (s : State) : Prop where
  ordered : (entries past).Pairwise fun t u => t + cfg.spacing ≤ u
  positive : ∀ t ∈ entries past, 0 < t
  memory : ∀ t ∈ entries past, t ≤ s.last
  disk : ∀ t ∈ entries past, t ≤ s.savedLast
  upcoming : ∀ wake, s.phase.upcoming = some wake →
    0 < wake.admittedAt ∧ wake.admittedAt ≤ s.last ∧
      ∀ t ∈ entries past, t + cfg.spacing ≤ wake.admittedAt
  entering : ∀ wake, s.phase = .entering wake → wake.admittedAt ≤ s.savedLast

theorem entries_append : entries (past ++ es) = entries past ++ entries es :=
  filterMap_append

theorem Covered.keep (covered : Covered cfg past s)
    (none_ : entries es = []) (memory : ∀ u ∈ entries past, u ≤ t.last)
    (disk : ∀ u ∈ entries past, u ≤ t.savedLast) (upcoming : ∀ wake, t.phase.upcoming = some wake →
      0 < wake.admittedAt ∧ wake.admittedAt ≤ t.last ∧
        ∀ u ∈ entries past, u + cfg.spacing ≤ wake.admittedAt)
    (entering : ∀ wake, t.phase = .entering wake → wake.admittedAt ≤ t.savedLast) :
    Covered cfg (past ++ es) t := by
  constructor <;> grind [entries_append]

theorem savedLast_of (saved : s.saved = some cp) : s.savedLast = cp.lastSpontaneousWakeAt := by
  rw [State.savedLast, saved]
  rfl

theorem step_covered (active : 0 < cfg.minWakeSpacing.toInt) (covered : Covered cfg past s)
    (measurable : Measurable cfg s a) (stepped : step? cfg s a = some (t, es)) :
    Covered cfg (past ++ es) t := by
  cases step_moves stepped with
  | quiet a last saved phase =>
    have disk : t.savedLast = s.savedLast := by rw [State.savedLast, saved, State.savedLast]
    apply covered.keep rfl
    · rw [last]
      exact covered.memory
    · rw [disk]
      exact covered.disk
    · grind
    intro wake entering
    rw [disk]
    rcases phase with phase | phase
    · rw [phase] at entering
      exact covered.entering wake entering
    · rw [entering] at phase
      cases phase
  | admitted now due draw idle spaced last saved phase =>
    obtain ⟨small, after_zero⟩ := measurable
    have later : ∀ u ∈ entries past, u ≤ t.last := by grind
    apply covered.keep rfl later
    · rw [State.savedLast, saved]
      exact covered.disk
    · intro wake upcoming
      rw [phase] at upcoming
      cases upcoming
      refine ⟨of_decide_eq_true after_zero, ?_, ?_⟩
      · rw [last]
        exact le_max_right _ _
      intro u member
      -- The time in memory covers the wake, so that the guard is not disabled.
      have before := covered.memory u member
      have woken : s.last ≠ 0 :=
        (Int.lt_of_lt_of_le (covered.positive u member) before).ne'
      calc u + cfg.spacing ≤ s.last + cfg.spacing := Int.add_le_add_right before _
        _ ≤ now := spacing_le active small woken spaced
    · grind
  | recorded wake admitting last saved phase =>
    have upcoming := covered.upcoming wake (by rw [admitting]; rfl)
    apply covered.keep rfl
    · rw [last]
      exact covered.memory
    · rw [savedLast_of saved]
      exact covered.memory
    · intro wake' upcoming'
      rw [phase] at upcoming'
      cases upcoming'
      rw [last]
      exact upcoming
    · intro wake' entering
      rw [phase] at entering
      cases entering
      rw [savedLast_of saved]
      exact upcoming.2.1
  | stored a last saved phase =>
    apply covered.keep rfl
    · rw [last]
      exact covered.memory
    · rw [savedLast_of saved]
      exact covered.memory
    · intro wake upcoming
      rw [phase] at upcoming
      cases upcoming
    · grind
  | entered wake entering last saved phase =>
    obtain ⟨positive, memory, apart⟩ := covered.upcoming wake (by rw [entering]; rfl)
    have all : entries (past ++ [.entered wake]) = entries past ++ [wake.admittedAt] :=
      entries_append
    have disk := covered.entering wake entering
    have each {Q : Time → Prop} (old : ∀ u ∈ entries past, Q u) (new : Q wake.admittedAt) :
        ∀ u ∈ entries (past ++ [.entered wake]), Q u := by
      rw [all]
      exact forall_mem_append.mpr ⟨old, forall_mem_singleton.mpr new⟩
    constructor
    · grind
    · exact each covered.positive positive
    · rw [last]
      exact each covered.memory memory
    · rw [State.savedLast, saved]
      exact each covered.disk disk
    · intro wake' upcoming
      rw [phase] at upcoming
      cases upcoming
    · grind
  | restarted mindEntry subjects last saved phase =>
    apply covered.keep rfl
    · rw [last]
      exact covered.disk
    · rw [State.savedLast, saved]
      exact covered.disk
    · intro wake upcoming
      rw [phase] at upcoming
      cases upcoming
    · grind

theorem run_covered (active : 0 < cfg.minWakeSpacing.toInt)
    (run : (system cfg).Run (Measurable cfg) (system cfg).init trace s) : Covered cfg trace s := by
  apply run.history (P := Covered cfg)
  · exact
      { ordered := .nil
        positive := nofun
        memory := nofun
        disk := nofun
        upcoming := nofun
        entering := nofun }
  · intro x y a past es covered measurable stepped
    exact step_covered active covered measurable stepped

/-- With a spacing of at most `2 ^ 24` seconds and a clock after the zero time, in every run with
its failed writes, crashes and restarts any two wakes are the spacing apart, and each one enters
the Mind after the checkpoint with its admission was stored. -/
theorem wakes_spaced_and_recorded {cfg : Config} {trace : List Event} {s : State}
    (run : (system cfg).Run (Measurable cfg) (system cfg).init trace s) :
    Spaced cfg trace ∧ Throughout RecordedFirst trace := by
  refine ⟨?_, run_recorded run⟩
  by_cases active : 0 < cfg.minWakeSpacing.toInt
  · apply (run_covered active run).ordered.imp
    intro t u apart
    have ahead := le_abs_self (u - t)
    omega
  · -- Without a spacing there is nothing to respect.
    apply pairwise_of_forall
    intro t u
    have none_ : cfg.spacing ≤ 0 :=
      Int.mul_nonpos_of_nonpos_of_nonneg (Int.not_lt.mp active) (Int.natCast_nonneg second)
    exact Int.le_trans none_ (abs_nonneg (u - t))

/-! ## Runs -/

def fullWake (now : Time) : List Action :=
  [ .tick now false ⟨true, true, []⟩, .saveAdmission .saved, .enter, .finish true now,
    .saveSettlement .saved ]

def twoWakes (first later : Time) : List Action :=
  .restart true [] :: (fullWake first ++ .restart true [] :: fullWake later)

/-- A spacing of little more than a year: the time since the first wake, one nanosecond short
of it, is not less than the spacing as a floating-point number of seconds. -/
theorem wake_before_spacing :
    ∃ trace s, (system ⟨true, 33554433⟩).Run free (system ⟨true, 33554433⟩).init trace s ∧
      entries trace = [1000000000, 33554433999999999] ∧ ¬Spaced ⟨true, 33554433⟩ trace := by
  have replayed : (system ⟨true, 33554433⟩).replays? free (twoWakes 1000000000 33554433999999999)
      (fun trace _ => entries trace = [1000000000, 33554433999999999]) = true := by
    decide
  obtain ⟨trace, s, run, replayed⟩ := System.replays?_run replayed
  have two : entries trace = [1000000000, 33554433999999999] := of_decide_eq_true replayed
  refine ⟨trace, s, run, two, ?_⟩
  rw [Spaced, two]
  decide

/-- A failed write, a crash after the checkpoint and a wake in the next process. -/
def interruptedWakes : List Action :=
  [ .restart true [], .tick 5000000000 false ⟨true, true, []⟩, .saveAdmission (.failed false),
    .restart true [], .tick 6000000000 false ⟨true, true, []⟩, .saveAdmission .saved, .enter,
    .restart true [] ] ++ fullWake 16000000000

theorem wakes_spaced_and_recorded_interrupted :
    ∃ trace, entries trace = [6000000000, 16000000000] ∧ Spaced ⟨true, 10⟩ trace ∧
      Throughout RecordedFirst trace := by
  have replayed : (system ⟨true, 10⟩).replays? (Measurable ⟨true, 10⟩) interruptedWakes
      (fun trace _ => entries trace = [6000000000, 16000000000]) = true := by
    decide
  obtain ⟨trace, s, run, two⟩ := System.replays?_run replayed
  exact ⟨trace, of_decide_eq_true two, wakes_spaced_and_recorded run⟩

end NeonDoll.Pulse
