import Mathlib

/-!
# Durations

Instants and durations in nanoseconds, with the number of seconds that their conversion to a
floating-point number has.
-/

namespace NeonDoll.Lib.Duration

def second : Nat := 1000000000

/-- `int(d.Seconds())` for a positive duration.  `Seconds` is a `float64`: where its values lie
further apart than twice the distance to the next second, it is that second. -/
def wholeSeconds (d : Nat) : Nat :=
  let sec := d / second
  let nsec := d % second
  if nsec ≠ 0 ∧ (second - nsec) * 2 ^ 53 ≤ second * 2 ^ Nat.log2 sec then sec + 1 else sec

theorem wholeSeconds_mul_eq_iff : wholeSeconds d * second = d ↔ second ∣ d := by
  have parts : second * (d / second) + d % second = d := Nat.div_add_mod d second
  have below : d % second < second := Nat.mod_lt d (by decide)
  rw [wholeSeconds]
  split
  · rename_i rounded
    constructor
    · intro same
      have positive := Nat.pos_of_ne_zero rounded.1
      rw [Nat.add_mul, Nat.one_mul, Nat.mul_comm] at same
      omega
    · intro divides
      exact absurd (Nat.mod_eq_zero_of_dvd divides) rounded.1
  · rw [Nat.mul_comm, Nat.dvd_iff_mod_eq_zero]
    omega

/-- Below this many seconds the floating-point numbers lie closer together than nanoseconds. -/
def exactSeconds : Nat := 2 ^ 24

theorem wholeSeconds_of_lt (small : d / second < exactSeconds) : wholeSeconds d = d / second := by
  rw [wholeSeconds]
  split
  · rename_i rounded
    obtain ⟨some_left, near⟩ := rounded
    have magnitude : 2 ^ Nat.log2 (d / second) ≤ 2 ^ 23 := by
      apply Nat.pow_le_pow_right (by decide)
      by_cases zero : d / second = 0
      · rw [zero]
        decide
      · exact Nat.le_of_lt_succ ((Nat.log2_lt zero).mpr small)
    have below : d % second < second := Nat.mod_lt d (by decide)
    unfold second at near below magnitude some_left
    omega
  · rfl

/-- A duration that reaches a small number of seconds in floating point reaches it exactly. -/
theorem second_mul_le (reached : n ≤ wholeSeconds d) (small : n ≤ exactSeconds) :
    second * n ≤ d := by
  by_cases short : d / second < n
  · rw [wholeSeconds_of_lt (Nat.lt_of_lt_of_le short small)] at reached
    omega
  · calc second * n ≤ second * (d / second) := Nat.mul_le_mul_left _ (Nat.le_of_not_lt short)
      _ ≤ d := Nat.mul_div_le d second

/-! ## Differences of instants -/

/-- `Time.Sub`, which saturates at the largest and the smallest duration. -/
def sub (t u : Int) : Int := max (-2 ^ 63) (min (2 ^ 63 - 1) (t - u))

theorem sub_le (ahead : 0 ≤ sub t u) : sub t u ≤ t - u := by
  unfold sub at ahead ⊢
  omega

end NeonDoll.Lib.Duration
