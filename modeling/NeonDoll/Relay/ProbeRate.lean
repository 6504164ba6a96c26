import NeonDoll.Lib.GoMap
import NeonDoll.Lib.Text

/-!
# The rate limit of probes

`allowProbe` and `pruneRateLimit` of `Core/Relay/probe.go`.  Times and durations are nanoseconds; a
difference of times that does not fit a duration is far beyond every spacing, so it is kept as
it is.
-/

namespace NeonDoll.Relay

open Lib GoMap List

def second : Int := 1000000000

structure ProbeListenerConfig where
  rateLimit : Int
  rateLimitMaxEntries : Int

def ProbeListenerConfig.applyDefaults (c : ProbeListenerConfig) : ProbeListenerConfig where
  rateLimit := if c.rateLimit = 0 then 100 else c.rateLimit
  rateLimitMaxEntries := if c.rateLimitMaxEntries = 0 then 10000 else c.rateLimitMaxEntries

/-- The last allowed probe of every source address. -/
abbrev RateLimit := GoMap Text Int

/-- Entries older than ten minutes are removed. -/
def pruneRateLimit (now : Int) (rateLimit : RateLimit) : RateLimit :=
  rateLimit.eraseAll (rateLimit.keys.filter fun ip =>
    (rateLimit.lookup ip).any fun last => last < now - 600 * second)

def ProbeListenerConfig.spacing (config : ProbeListenerConfig) : Int :=
  second.tdiv config.rateLimit

def allowProbe (config : ProbeListenerConfig) (rateLimit : RateLimit) (srcIP : Text) (now : Int) :
    RateLimit × Bool :=
  if srcIP ∉ rateLimit ∧ rateLimit.keys.length ≥ config.rateLimitMaxEntries then (rateLimit, false)
  else if (rateLimit.lookup srcIP).any fun last => now - last < config.spacing then
    (rateLimit, false)
  else (rateLimit.insert srcIP now, true)

/-- A probe of an address, or the periodic cleanup, with the reading of the clock. -/
abbrev ProbeCall := Int × Option Text

def probeStep (config : ProbeListenerConfig) (rateLimit : RateLimit) : ProbeCall → RateLimit × Bool
  | (now, some srcIP) => allowProbe config rateLimit srcIP now
  | (now, none) => (pruneRateLimit now rateLimit, false)

def afterProbes (config : ProbeListenerConfig) (rateLimit : RateLimit) (calls : List ProbeCall) :
    RateLimit :=
  calls.foldl (fun rateLimit call => (probeStep config rateLimit call).1) rateLimit

/-- The times at which probes of the address are allowed. -/
def allowedAt (config : ProbeListenerConfig) (srcIP : Text) : RateLimit → List ProbeCall → List Int
  | _, [] => []
  | rateLimit, call :: calls =>
    let later := allowedAt config srcIP (probeStep config rateLimit call).1 calls
    if (probeStep config rateLimit call).2 ∧ call.2 = some srcIP then call.1 :: later else later

/-! ## Spacing -/

variable {config : ProbeListenerConfig} {rateLimit : RateLimit} {calls : List ProbeCall}

theorem allowProbe_cases (config : ProbeListenerConfig) (rateLimit : RateLimit) (srcIP : Text)
    (now : Int) : allowProbe config rateLimit srcIP now = (rateLimit, false) ∨
      allowProbe config rateLimit srcIP now = (rateLimit.insert srcIP now, true) ∧
        (∀ last, rateLimit.lookup srcIP = some last → last + config.spacing ≤ now) ∧
        (srcIP ∈ rateLimit ∨ rateLimit.keys.length < config.rateLimitMaxEntries) := by
  grind [allowProbe]

/-- Whatever is allowed later keeps the distance to the last allowed probe, whose entry is there
until the distance is over. -/
theorem allowedAt_spaced (small : config.spacing ≤ second) (large : 0 ≤ config.spacing)
    (last : Int) (ordered : calls.Pairwise (·.1 ≤ ·.1))
    (entry : rateLimit.lookup srcIP = some last ∨ ∀ call ∈ calls, last + config.spacing ≤ call.1) :
    (last :: allowedAt config srcIP rateLimit calls).Pairwise fun t u =>
      t + config.spacing ≤ u := by
  induction calls generalizing rateLimit last with
  | nil => exact pairwise_singleton _ last
  | cons call calls ih =>
    obtain ⟨now, address⟩ := call
    obtain ⟨_, rest⟩ := pairwise_cons.mp ordered
    cases address with
    | none =>
      have kept : (pruneRateLimit now rateLimit).lookup srcIP = some last ∨
          ∀ call ∈ calls, last + config.spacing ≤ call.1 := by
        grind [pruneRateLimit, second]
      simpa [allowedAt, probeStep] using ih last rest kept
    | some other =>
      rcases allowProbe_cases config rateLimit other now with refused | ⟨allowed, far, _⟩
      · simpa [allowedAt, probeStep, refused] using
          ih last rest
            (entry.imp_right fun passed call member => passed call (mem_cons_of_mem _ member))
      by_cases own : other = srcIP
      · subst own
        have next := ih now rest (.inl (AList.lookup_insert rateLimit))
        have passed := entry.elim (far last) fun passed => passed _ mem_cons_self
        simp only [allowedAt, probeStep, allowed, true_and, if_true]
        refine pairwise_cons.mpr ⟨forall_mem_cons.mpr ⟨passed, fun t member => ?_⟩, next⟩
        have far := rel_of_pairwise_cons next member
        omega
      · have kept : (rateLimit.insert other now).lookup srcIP = some last ∨
            ∀ call ∈ calls, last + config.spacing ≤ call.1 := by grind
        simpa [allowedAt, probeStep, allowed, own] using ih last rest kept

/-- At most `n` numbers with a distance fit into `n` distances. -/
theorem length_le_of_spaced {gap : Int} {times : List Int} (start : Int) (n : Nat)
    (spaced : times.Pairwise fun t u => t + gap ≤ u)
    (inside : ∀ t ∈ times, start ≤ t ∧ t < start + n * gap) :
    times.length ≤ n := by
  induction times generalizing start n with
  | nil => exact Nat.zero_le n
  | cons t times ih =>
    obtain ⟨later, rest⟩ := pairwise_cons.mp spaced
    obtain ⟨_, high⟩ := inside t mem_cons_self
    cases n with
    | zero => simp at high; omega
    | succ n =>
      refine Nat.succ_le_succ (ih (start + gap) n rest fun u member => ?_)
      have least := later u member
      have most := (inside u (mem_cons_of_mem t member)).2
      rw [Int.natCast_succ, Int.add_mul, Int.one_mul] at most
      omega

/-! ## Tracked addresses -/

theorem length_afterProbes_le (config : ProbeListenerConfig) (calls : List ProbeCall)
    (within : rateLimit.keys.length ≤ config.rateLimitMaxEntries) :
    (afterProbes config rateLimit calls).keys.length ≤ config.rateLimitMaxEntries := by
  induction calls generalizing rateLimit with
  | nil => exact within
  | cons call calls ih =>
    refine ih ?_
    obtain ⟨now, _ | srcIP⟩ := call
    · exact Int.le_trans (Int.ofNat_le.mpr (length_eraseAll_le rateLimit _)) within
    · rcases allowProbe_cases config rateLimit srcIP now with refused | ⟨allowed, _, _⟩
      · simpa only [probeStep, refused] using within
      · simp only [probeStep, allowed, AList.keys_insert, length_cons]
        grind [AList.mem_keys]

/-! ## The limit -/

/-- Probes at all multiples of the spacing are allowed. -/
theorem allowedAt_multiples (room : 1 ≤ config.rateLimitMaxEntries) (n k : Nat)
    (entry : rateLimit = ∅ ∨ ∃ last, rateLimit.lookup srcIP = some last ∧
      last + config.spacing ≤ k * config.spacing) :
    allowedAt config srcIP rateLimit
        ((range' k n).map fun i : Nat => (i * config.spacing, some srcIP)) =
      (range' k n).map fun i : Nat => i * config.spacing := by
  induction n generalizing k rateLimit with
  | zero => rfl
  | succ n ih =>
    have allowed : allowProbe config rateLimit srcIP (k * config.spacing) =
        (rateLimit.insert srcIP (k * config.spacing), true) := by
      rcases entry with rfl | ⟨last, found, _⟩
      · grind [allowProbe, AList.lookup_empty, AList.keys_empty]
      · have known : srcIP ∈ rateLimit := (mem_iff_lookup _ _).mpr ⟨last, found⟩
        grind [allowProbe]
    have stored : (rateLimit.insert srcIP (k * config.spacing)).lookup srcIP =
        some (k * config.spacing) := AList.lookup_insert rateLimit
    have next := ih (k + 1) (.inr ⟨_, stored, by grind⟩)
    simp [range'_succ, allowedAt, probeStep, allowed, next]

theorem applyDefaults_entries (c : ProbeListenerConfig) :
    0 ≤ c.applyDefaults.rateLimitMaxEntries ↔ 0 ≤ c.rateLimitMaxEntries := by
  grind [ProbeListenerConfig.applyDefaults]

theorem spacing_bounds (positive : 1 ≤ config.rateLimit) : 0 ≤ config.spacing ∧
    config.spacing ≤ second ∧ config.rateLimit * config.spacing ≤ second := by
  have quotient : config.spacing = second / config.rateLimit :=
    Int.tdiv_eq_ediv_of_nonneg (by decide)
  rw [quotient]
  refine ⟨Int.ediv_nonneg (by decide) (by omega), Int.ediv_le_self _ (by decide), ?_⟩
  exact Int.mul_ediv_self_le (by omega)

/-- The spacing is the quotient rounded down, so that one probe too many fits into a second unless
the limit divides it. -/
theorem probe_rate_iff (c : ProbeListenerConfig) (positive : 1 ≤ c.rateLimit) :
    (∀ calls : List ProbeCall, calls.Pairwise (·.1 ≤ ·.1) →
      (∀ srcIP start, ((allowedAt c.applyDefaults srcIP ∅ calls).countP fun t =>
        start ≤ t ∧ t < start + second) ≤ c.rateLimit) ∧
      (afterProbes c.applyDefaults ∅ calls).keys.length ≤ c.applyDefaults.rateLimitMaxEntries) ↔
    c.rateLimit ∣ second ∧ 0 ≤ c.rateLimitMaxEntries := by
  have kept : c.applyDefaults.rateLimit = c.rateLimit := if_neg (by omega)
  obtain ⟨large, small, product⟩ := spacing_bounds (kept ▸ positive)
  obtain ⟨n, count⟩ := Int.eq_ofNat_of_zero_le (Int.le_trans Int.one_nonneg positive)
  rw [kept, count] at product
  rw [count]
  constructor
  · intro limited
    have entries := (applyDefaults_entries c).mp (limited [] .nil).2
    refine ⟨?_, entries⟩
    -- one probe more than the limit, at the multiples of the spacing
    have ordered : ((range' 0 (n + 1)).map fun i : Nat =>
        ((i * c.applyDefaults.spacing, some []) : ProbeCall)).Pairwise (·.1 ≤ ·.1) := by
      refine pairwise_map.mpr ((pairwise_lt_range' 1).imp fun less => ?_)
      exact Int.mul_le_mul_of_nonneg_right (by grind) large
    have most := (limited _ ordered).1 [] 0
    rw [allowedAt_multiples (by grind [ProbeListenerConfig.applyDefaults]) (n + 1) 0 (.inl rfl)]
      at most
    by_contra undivided
    have less : n * c.applyDefaults.spacing < second :=
      Int.lt_iff_le_and_ne.mpr ⟨product, fun equal => undivided ⟨_, equal.symm⟩⟩
    rw [countP_eq_length.mpr, length_map, length_range'] at most
    · omega
    · intro t member
      obtain ⟨i, _, rfl⟩ := mem_map.mp member
      have below : (i : Int) * c.applyDefaults.spacing ≤ n * c.applyDefaults.spacing :=
        Int.mul_le_mul_of_nonneg_right (by grind) large
      have above := Int.mul_nonneg (Int.natCast_nonneg i) large
      grind
  · rintro ⟨divided, entries⟩ calls ordered
    refine ⟨fun srcIP start => ?_,
      length_afterProbes_le _ calls ((applyDefaults_entries c).mpr entries)⟩
    have whole : second = n * c.applyDefaults.spacing := by
      rw [ProbeListenerConfig.spacing, kept, count, Int.mul_tdiv_cancel' divided]
    have spaced : (allowedAt c.applyDefaults srcIP ∅ calls).Pairwise fun t u =>
        t + c.applyDefaults.spacing ≤ u := by
      cases calls with
      | nil => exact .nil
      | cons call calls =>
        have first := (pairwise_cons.mp ordered).1
        exact (allowedAt_spaced small large (call.1 - c.applyDefaults.spacing) ordered
          (.inr (by grind))).of_cons
    rw [countP_eq_length_filter]
    refine Int.ofNat_le.mpr (length_le_of_spaced start n (spaced.filter _) fun t member => ?_)
    rw [← whole]
    simpa using (mem_filter.mp member).2

theorem probe_rate_iff_hundred : (1 : Int) ≤ 100 ∧
    ∀ calls : List ProbeCall, calls.Pairwise (·.1 ≤ ·.1) → ∀ srcIP start,
      ((allowedAt ⟨100, 10000⟩ srcIP ∅ calls).countP fun t => start ≤ t ∧ t < start + second) ≤
        (100 : Int) :=
  ⟨by decide, fun calls ordered =>
    ((probe_rate_iff ⟨100, 0⟩ (by decide)).mpr (by decide) calls ordered).1⟩

theorem fourth_probe_allowed : allowedAt (ProbeListenerConfig.applyDefaults ⟨3, 0⟩) [] ∅
    [(0, some []), (333333333, some []), (666666666, some []), (999999999, some [])] =
      [0, 333333333, 666666666, 999999999] := by
  decide

end NeonDoll.Relay
