import NeonDoll.Lib.Rfc3339

/-!
# The order of RFC 3339 texts

The text of an instant with its fraction, whose trailing zeros are left out, and the order of
such texts by bytes.  It is the order of the instants, unless one fraction is the beginning of
another within one second, or the years have texts of different lengths or signs.
-/

namespace NeonDoll.Lib.Rfc3339

open List Nat

/-! ## Texts of equal length -/

theorem append_lt_append_iff {x y r r' : Bytes} (lengths : x.length = y.length) :
    x ++ r < y ++ r' ↔ x < y ∨ x = y ∧ r < r' := by
  induction x generalizing y with
  | nil =>
    rw [eq_nil_of_length_eq_zero lengths.symm]
    simp
  | cons a x ih =>
    cases y with
    | nil => cases lengths
    | cons b y => grind [cons_lt_cons_iff]

def digit (d : Nat) : UInt8 := UInt8.ofNat (48 + d)

variable {d : Nat}

theorem toNat_digit (small : d < 10) : (digit d).toNat = 48 + d := by
  rw [digit, UInt8.toNat_ofNat']
  omega

theorem digit_lt_digit (left : d < 10) (right : e < 10) : digit d < digit e ↔ d < e := by
  rw [UInt8.lt_iff_toNat_lt, toNat_digit left, toNat_digit right]
  omega

theorem decimal_zero_zero : decimal 0 0 = [] := rfl

/-- The last digit of a number stands at the end of its text. -/
theorem decimal_succ : decimal (width + 1) n = decimal width (n / 10) ++ [digit (n % 10)] := by
  have split : Nat.digits 10 n ++ List.replicate (width + 1 - (Nat.digits 10 n).length) 0 =
      n % 10 :: (Nat.digits 10 (n / 10) ++
        List.replicate (width - (Nat.digits 10 (n / 10)).length) 0) := by
    cases n with
    | zero => simp [replicate_succ]
    | succ n =>
      rw [digits_def' (by decide) (succ_pos n), length_cons, Nat.add_sub_add_right, cons_append]
  rw [decimal, split, map_cons, reverse_cons]
  rfl

theorem decimal_lt_iff {width a b : Nat} (left : a < 10 ^ width) (right : b < 10 ^ width) :
    decimal width a < decimal width b ↔ a < b := by
  induction width generalizing a b with
  | zero =>
    rw [lt_one_iff.mp left, lt_one_iff.mp right]
    simp
  | succ width ih =>
    grind [decimal_succ, append_lt_append_iff, length_decimal, cons_lt_cons_iff, digit_lt_digit]

theorem decimal_add :
    decimal (width + k) n = decimal width (n / 10 ^ k) ++ decimal k (n % 10 ^ k) := by
  induction k generalizing n with
  | zero => simp [mod_one, decimal_zero_zero]
  | succ k ih =>
    have low : n % 10 ^ (k + 1) / 10 = n / 10 % 10 ^ k := by
      rw [pow_succ', mod_mul_right_div_self]
    have last : n % 10 ^ (k + 1) % 10 = n % 10 :=
      mod_mod_of_dvd n (dvd_pow_self 10 (succ_ne_zero k))
    have high : n / 10 ^ (k + 1) = n / 10 / 10 ^ k := by
      rw [pow_succ', Nat.div_div_eq_div_mul]
    rw [← add_assoc, decimal_succ, ih, decimal_succ, low, last, high, append_assoc]

theorem decimal_cons (fits : n < 10 ^ (k + 1)) :
    ∃ d rest, d < 10 ∧ decimal (k + 1) n = digit d :: rest := by
  have small : n / 10 ^ k < 10 := by
    rw [pow_succ'] at fits
    exact Nat.div_lt_of_lt_mul (by rwa [mul_comm] at fits)
  refine ⟨n / 10 ^ k, decimal k (n % 10 ^ k), small, ?_⟩
  rw [add_comm, decimal_add, decimal_succ, div_eq_of_lt small, mod_eq_of_lt small,
    decimal_zero_zero, nil_append, singleton_append]

/-! ## Years -/

def yearWidth (n : Nat) : Nat := max 4 (Nat.digits 10 n).length

theorem lt_yearWidth (n : Nat) : n < 10 ^ yearWidth n :=
  lt_of_lt_of_le (lt_base_pow_length_digits (by decide))
    (Nat.pow_le_pow_right (by decide) (le_max_right 4 _))

theorem decimal_yearWidth (n : Nat) : decimal 4 n = decimal (yearWidth n) n := by
  grind [yearWidth, decimal]

/-- The digits of `a` with a hyphen come before those of `b` with one.  The shorter number is
compared with as many leading digits of the longer one. -/
def Precedes (a b : Nat) : Prop :=
  a ≠ b ∧
    if yearWidth a ≤ yearWidth b then a ≤ b / 10 ^ (yearWidth b - yearWidth a)
    else a / 10 ^ (yearWidth a - yearWidth b) < b

instance (a b : Nat) : Decidable (Precedes a b) := inferInstanceAs (Decidable (_ ∧ _))

/-- The text of the year `y` with a hyphen comes before that of `z` with one. -/
def YearPrecedes (y z : Int) : Prop :=
  if y < 0 then z < 0 → Precedes y.natAbs z.natAbs
  else 0 ≤ z ∧ Precedes y.natAbs z.natAbs

instance (y z : Int) : Decidable (YearPrecedes y z) := by
  unfold YearPrecedes
  infer_instance

section Years

variable {r r' : Bytes}

theorem hyphen_lt_digit (small : d < 10) : (45 : UInt8) < digit d := by
  rw [UInt8.lt_iff_toNat_lt, toNat_digit small]
  change 45 < 48 + d
  omega

theorem hyphen_lt_decimal (fits : n < 10 ^ (k + 1)) : 45 :: r < decimal (k + 1) n ++ rest := by
  grind [decimal_cons, cons_lt_cons_iff, hyphen_lt_digit]

theorem not_decimal_lt_hyphen (fits : n < 10 ^ (k + 1)) : ¬decimal (k + 1) n ++ rest < 45 :: r := by
  grind [decimal_cons, cons_lt_cons_iff, hyphen_lt_digit]

theorem decimal_append_decimal_lt {width a b : Nat} (left : a < 10 ^ width)
    (right : b < 10 ^ width) :
    decimal width a ++ r < decimal width b ++ r' ↔ a < b ∨ a = b ∧ r < r' := by
  grind [append_lt_append_iff, length_decimal, decimal_lt_iff]

theorem decimal_hyphen_lt_iff :
    decimal 4 a ++ 45 :: r < decimal 4 b ++ 45 :: r' ↔ Precedes a b ∨ a = b ∧ r < r' := by
  have hyphens : 45 :: r < 45 :: r' ↔ r < r' := by
    rw [cons_lt_cons_iff]
    exact ⟨fun less => less.elim (absurd · (UInt8.lt_irrefl _)) (·.2), fun less => .inr ⟨rfl, less⟩⟩
  rw [decimal_yearWidth, decimal_yearWidth b, Precedes]
  have fits := lt_yearWidth a
  have fits' := lt_yearWidth b
  rcases lt_trichotomy (yearWidth a) (yearWidth b) with shorter | _ | longer
  · -- The leading digits of `b` decide, and after them a digit stands against the hyphen.
    obtain ⟨k, eq⟩ := Nat.exists_eq_add_of_lt shorter
    have leading : b / 10 ^ (k + 1) < 10 ^ yearWidth a := by
      rw [eq, add_assoc, pow_add] at fits'
      exact Nat.div_lt_of_lt_mul (by rwa [mul_comm] at fits')
    have ahead : 45 :: r < decimal (k + 1) (b % 10 ^ (k + 1)) ++ 45 :: r' :=
      hyphen_lt_decimal (mod_lt _ (by positivity))
    have differ : a ≠ b := by
      rintro rfl
      exact lt_irrefl _ shorter
    have gap : yearWidth b - yearWidth a = k + 1 := by omega
    rw [if_pos (le_of_lt shorter), gap, eq, add_assoc, decimal_add, append_assoc,
      decimal_append_decimal_lt fits leading]
    simp only [ahead, differ, and_true, false_and, or_false, ne_eq, not_false_eq_true, true_and]
    omega
  · grind [decimal_append_decimal_lt]
  · obtain ⟨k, eq⟩ := Nat.exists_eq_add_of_lt longer
    have leading : a / 10 ^ (k + 1) < 10 ^ yearWidth b := by
      rw [eq, add_assoc, pow_add] at fits
      exact Nat.div_lt_of_lt_mul (by rwa [mul_comm] at fits)
    have behind : ¬decimal (k + 1) (a % 10 ^ (k + 1)) ++ 45 :: r < 45 :: r' :=
      not_decimal_lt_hyphen (mod_lt _ (by positivity))
    have differ : a ≠ b := by
      rintro rfl
      exact lt_irrefl _ longer
    have gap : yearWidth a - yearWidth b = k + 1 := by omega
    rw [if_neg (Nat.not_le_of_lt longer), gap, eq, add_assoc, decimal_add, append_assoc,
      decimal_append_decimal_lt leading fits']
    simp [behind, differ]

theorem appendInt_lt_iff :
    appendInt 4 y ++ 45 :: r < appendInt 4 z ++ 45 :: r' ↔ YearPrecedes y z ∨ y = z ∧ r < r' := by
  have wide : ∀ n : Nat, ∃ k, yearWidth n = k + 1 := by
    intro n
    have four : 4 ≤ yearWidth n := le_max_left 4 _
    exact ⟨yearWidth n - 1, by omega⟩
  rw [appendInt, appendInt, YearPrecedes]
  by_cases before : y < 0
  · rw [if_pos before, if_pos before]
    by_cases before' : z < 0
    · grind [cons_lt_cons_iff, decimal_hyphen_lt_iff]
    obtain ⟨k, eq⟩ := wide z.natAbs
    have fits := lt_yearWidth z.natAbs
    rw [eq] at fits
    rw [if_neg before', decimal_yearWidth z.natAbs, eq, cons_append]
    simp [hyphen_lt_decimal fits, before']
  · rw [if_neg before, if_neg before]
    by_cases before' : z < 0
    · obtain ⟨k, eq⟩ := wide y.natAbs
      have fits := lt_yearWidth y.natAbs
      rw [eq] at fits
      have signs : ¬0 ≤ z := by omega
      have differ : y ≠ z := by omega
      rw [if_pos before', decimal_yearWidth y.natAbs, eq, cons_append]
      simp [not_decimal_lt_hyphen fits, signs, differ]
    · grind [decimal_hyphen_lt_iff]

end Years

/-! ## Dates -/

/-- Dates in their order as numbers. -/
def Date.key (d : Date) : Int := d.year * 10000 + d.month * 100 + d.day

/-- The next day of the era is in the same year, or it is the first one of the next year. -/
theorem yearOfEra_succ (inside : d + 1 < 146097) :
    yearOfEra (d + 1) = yearOfEra d ∧ dayOfYear (d + 1) = dayOfYear d + 1 ∨
      yearOfEra (d + 1) = yearOfEra d + 1 ∧ dayOfYear (d + 1) = 0 ∧ 364 ≤ dayOfYear d := by
  have centuries : century (d + 1) = century d ∧ dayOfCentury (d + 1) = dayOfCentury d + 1 ∨
      century (d + 1) = century d + 1 ∧ dayOfCentury (d + 1) = 0 ∧ dayOfCentury d = 36523 := by
    unfold dayOfCentury century
    omega
  unfold yearOfEra dayOfYear yearOfFour
  rcases centuries with ⟨same, next⟩ | ⟨later, first, last⟩
  · have fours : (dayOfCentury d + 1) / 1461 = dayOfCentury d / 1461 ∧
        (dayOfCentury d + 1) % 1461 = dayOfCentury d % 1461 + 1 ∨
        (dayOfCentury d + 1) / 1461 = dayOfCentury d / 1461 + 1 ∧
        (dayOfCentury d + 1) % 1461 = 0 ∧ dayOfCentury d % 1461 = 1460 := by
      omega
    rw [same, next]
    rcases fours with ⟨four, rest⟩ | ⟨four, rest, before⟩
    · rw [four, rest]
      omega
    · rw [four, rest, before]
      omega
  · rw [later, first, last]
    omega

theorem key_lt_succ (days : Int) : (date days).key < (date (days + 1)).key := by
  obtain ⟨-, _, inYear⟩ := dayOfEra_eq (dayOfEra_lt days)
  have small := day_le (dayOfYear (dayOfEra days))
  have months := month_bounds inYear
  have inDay : 1 ≤ day (dayOfYear (dayOfEra (days + 1))) := by
    unfold day
    omega
  by_cases inside : dayOfEra days + 1 < 146097
  · have next : dayOfEra (days + 1) = dayOfEra days + 1 := by
      unfold dayOfEra at inside ⊢
      omega
    have era : (days + 1 + epoch) / 146097 = (days + epoch) / 146097 := by
      unfold dayOfEra at inside
      omega
    obtain ⟨-, -, inYear'⟩ := dayOfEra_eq (dayOfEra_lt (days + 1))
    simp only [Date.key, date, era]
    rw [next] at inYear' inDay ⊢
    rcases yearOfEra_succ inside with ⟨year, _⟩ | ⟨_, _, last⟩
    · grind [monthFromMarch, month, day]
    · omega
  · -- The last day of an era is the last one of its year 399.
    have last : dayOfEra days = 146096 := by
      have := dayOfEra_lt days
      omega
    have next : dayOfEra (days + 1) = 0 := by
      unfold dayOfEra at last ⊢
      omega
    have era : (days + 1 + epoch) / 146097 = (days + epoch) / 146097 + 1 := by
      unfold dayOfEra at last
      omega
    have february : month (dayOfYear 146096) = 2 ∧ day (dayOfYear 146096) = 29 ∧
        yearOfEra 146096 = 399 := by decide
    have march : month (dayOfYear 0) = 3 ∧ day (dayOfYear 0) = 1 ∧ yearOfEra 0 = 0 := by decide
    simp only [Date.key, date, era, last, next, february, march]
    norm_num
    omega

theorem key_strictMono : StrictMono fun days => (date days).key :=
  strictMono_int_of_lt_succ key_lt_succ

/-! ## Seconds -/

/-- The part of the text behind the year and its hyphen, up to the seconds. -/
def dayTime (month day second : Nat) : Bytes :=
  decimal 2 month ++ 45 :: (decimal 2 day ++ 84 :: (decimal 2 (second / 3600) ++
    58 :: (decimal 2 (second / 60 % 60) ++ 58 :: decimal 2 (second % 60))))

def year (seconds : Int) : Int := (date (seconds / 86400)).year

/-- The text of a time in seconds from the epoch, up to the seconds. -/
def secondText (seconds : Int) : Bytes :=
  let date := date (seconds / 86400)
  appendInt 4 date.year ++ 45 :: dayTime date.month date.day (seconds % 86400).toNat

section Seconds

variable {r r' : Bytes}

theorem decimal_cons_lt_iff (left : a < 100) (right : b < 100) :
    decimal 2 a ++ c :: r < decimal 2 b ++ c :: r' ↔ a < b ∨ a = b ∧ r < r' := by
  rw [decimal_append_decimal_lt left right, cons_lt_cons_iff]
  simp

theorem dayTime_lt_iff (months : m < 100) (months' : m' < 100)
    (days : d < 100) (days' : d' < 100) (seconds : s < 86400) (seconds' : s' < 86400) :
    dayTime m d s ++ r < dayTime m' d' s' ++ r' ↔
      m < m' ∨ m = m' ∧ (d < d' ∨ d = d' ∧ (s < s' ∨ s = s' ∧ r < r')) := by
  have times : (s / 3600 < s' / 3600 ∨ s / 3600 = s' / 3600 ∧ (s / 60 % 60 < s' / 60 % 60 ∨
      s / 60 % 60 = s' / 60 % 60 ∧ (s % 60 < s' % 60 ∨ s % 60 = s' % 60 ∧ r < r'))) ↔
      s < s' ∨ s = s' ∧ r < r' := by
    by_cases later : r < r'
    · simp only [later, and_true]
      omega
    · simp only [later, and_false, or_false]
      omega
  simp only [dayTime, append_assoc, cons_append]
  rw [decimal_cons_lt_iff months months', decimal_cons_lt_iff days days',
    decimal_cons_lt_iff (by omega) (by omega), decimal_cons_lt_iff (by omega) (by omega),
    decimal_append_decimal_lt (by omega) (by omega), times]

theorem secondText_lt_iff : secondText a ++ r < secondText b ++ r' ↔
      YearPrecedes (year a) (year b) ∨ year a = year b ∧ (a < b ∨ a = b ∧ r < r') := by
  obtain ⟨months, days⟩ := date_small (a / 86400)
  obtain ⟨months', days'⟩ := date_small (b / 86400)
  have inDay : ∀ x : Int, (x % 86400).toNat < 86400 := by
    intro x
    omega
  simp only [secondText, append_assoc, cons_append]
  rw [appendInt_lt_iff, dayTime_lt_iff months months' days days' (inDay a) (inDay b)]
  refine or_congr_right (and_congr_right fun years => ?_)
  have less : a / 86400 < b / 86400 ↔ (date (a / 86400)).key < (date (b / 86400)).key :=
    key_strictMono.lt_iff_lt.symm
  have same : a / 86400 = b / 86400 ↔ (date (a / 86400)).key = (date (b / 86400)).key :=
    key_strictMono.injective.eq_iff.symm
  rw [Date.key, Date.key, years] at less same
  by_cases later : r < r'
  · simp only [later, and_true]
    omega
  · simp only [later, and_false, or_false]
    omega

end Seconds

/-! ## Fractions -/

/-- The digits of a fraction in nanoseconds, without trailing zeros. -/
def fractionDigits (nanos : Nat) : Bytes := (decimal 9 nanos).rdropWhile (· = 48)

/-- `appendNano` of the Go time package for a fraction whose zeros are left out. -/
def fraction (nanos : Nat) : Bytes :=
  if fractionDigits nanos = [] then [] else 46 :: fractionDigits nanos

def formatNano (t : Int) : Bytes :=
  secondText (t / 10 ^ 9) ++ (fraction (t % 10 ^ 9).toNat ++ [90])

example : formatNano 1700000000120000000 = Bytes.ascii "2023-11-14T22:13:20.12Z".toList := by
  decide +kernel

/-- The digits of one fraction are the first digits of the other. -/
def Nested (a b : Nat) : Prop :=
  fractionDigits a <+: fractionDigits b ∨ fractionDigits b <+: fractionDigits a

instance (a b : Nat) : Decidable (Nested a b) := inferInstanceAs (Decidable (_ ∨ _))

theorem mem_decimal (member : c ∈ decimal width n) : ∃ d < 10, c = digit d := by
  rw [decimal, mem_reverse, mem_map] at member
  obtain ⟨d, found, rfl⟩ := member
  exact ⟨d, digit_lt found, rfl⟩

/-- Texts neither of which begins the other differ in a character that both have. -/
theorem append_lt_iff_of_unrelated {x y r r' : Bytes} (left : ¬x <+: y) (right : ¬y <+: x) :
    x ++ r < y ++ r' ↔ x < y := by
  induction x generalizing y with
  | nil => exact absurd nil_prefix left
  | cons a x ih =>
    cases y with
    | nil => exact absurd nil_prefix right
    | cons b y => grind [cons_lt_cons_iff]

section Digits

def Digits (x : Bytes) : Prop := ∀ c ∈ x, ∃ d < 10, c = digit d

theorem digits_fractionDigits : Digits (fractionDigits n) := fun _ member =>
  mem_decimal (( rdropWhile_prefix _ _).mem member)

/-- The end of the text comes after every digit. -/
theorem not_end_lt (digits : Digits x) : ¬[90] < x ++ [90] := by
  cases x with
  | nil => exact List.lt_irrefl _
  | cons c x =>
    obtain ⟨d, small, rfl⟩ := digits c mem_cons_self
    rw [cons_append, cons_lt_cons_iff, UInt8.lt_iff_toNat_lt, ← UInt8.toNat_inj, toNat_digit small]
    change ¬(90 < 48 + d ∨ 90 = 48 + d ∧ _)
    omega

theorem lt_end (digits : Digits x) (some : x ≠ []) : x ++ [90] < [90] := by
  cases x with
  | nil => exact absurd rfl some
  | cons c x =>
    obtain ⟨d, small, rfl⟩ := digits c mem_cons_self
    rw [cons_append, cons_lt_cons_iff, UInt8.lt_iff_toNat_lt, toNat_digit small]
    change 48 + d < 90 ∨ _
    omega

theorem not_digit_lt_zero (small : d < 10) : ¬digit d < 48 := by
  rw [UInt8.lt_iff_toNat_lt, toNat_digit small]
  change ¬48 + d < 48
  omega

theorem not_lt_zeros (digits : Digits x) : ¬x < List.replicate x.length 48 := by
  induction x with
  | nil => exact not_lt_nil _
  | cons c x ih =>
    grind [Digits, mem_cons_self, cons_lt_cons_iff, not_digit_lt_zero]

theorem zeros_lt (digits : Digits x) (other : x ≠ List.replicate x.length 48) :
    List.replicate x.length 48 < x := by
  induction x with
  | nil => exact absurd rfl other
  | cons c x ih =>
    obtain ⟨d, small, rfl⟩ := digits c mem_cons_self
    rw [length_cons, replicate_succ, cons_lt_cons_iff]
    by_cases zero : d = 0
    · refine .inr ⟨by rw [zero]; rfl, ih (fun e member => digits e (mem_cons_of_mem _ member)) ?_⟩
      intro same
      apply other
      rw [length_cons, replicate_succ, zero, ← same]
      rfl
    · refine .inl ?_
      rw [UInt8.lt_iff_toNat_lt, toNat_digit small]
      change 48 < 48 + d
      omega

/-- The digits that are left out are zeros. -/
theorem decimal_eq_fractionDigits : ∃ k, decimal 9 n = fractionDigits n ++ List.replicate k 48 := by
  refine ⟨((decimal 9 n).rtakeWhile (· = 48)).length, ?_⟩
  have zeros : (decimal 9 n).rtakeWhile (· = 48) =
      List.replicate ((decimal 9 n).rtakeWhile (· = 48)).length 48 :=
    eq_replicate_of_mem fun c member => by
      simpa using mem_rtakeWhile_imp member
  rw [fractionDigits, ← zeros, rdropWhile_append_rtakeWhile]

/-- The digits that are kept do not end in a zero. -/
theorem fractionDigits_append_ne (eq : fractionDigits n = x ++ z)
    (some : z ≠ []) : z ≠ List.replicate k 48 := by
  intro zeros
  have kept : fractionDigits n ≠ [] := by
    rw [eq]
    exact append_ne_nil_of_right_ne_nil x some
  have last := rdropWhile_last_not (· = (48 : UInt8)) (decimal 9 n) kept
  apply last
  have member : (fractionDigits n).getLast kept ∈ z := by
    simp only [eq, getLast_append_of_ne_nil _ some]
    exact getLast_mem some
  rw [zeros] at member
  exact decide_eq_true (eq_of_mem_replicate member)

end Digits

/-- If the digits of `a` begin those of `b`, the number is not larger, and the text not
smaller. -/
theorem nested_lt {a b : Nat} (left : a < 10 ^ 9) (right : b < 10 ^ 9) {z : Bytes}
    (eq : fractionDigits b = fractionDigits a ++ z) :
    ¬b < a ∧ ¬fractionDigits a ++ [90] < fractionDigits b ++ [90] ∧
      (a < b ↔ z ≠ []) ∧ (fractionDigits b ++ [90] < fractionDigits a ++ [90] ↔ z ≠ []) := by
  obtain ⟨i, wholeA⟩ := decimal_eq_fractionDigits
  obtain ⟨j, wholeB⟩ := decimal_eq_fractionDigits
  have lengths := (length_decimal left).trans (length_decimal right).symm
  rw [wholeA, wholeB, eq, length_append, length_append, length_append, length_replicate] at lengths
  have rest : (z ++ List.replicate j (48 : UInt8)).length = i := by
    rw [length_append]
    omega
  have digitsZ : Digits z := fun c member =>
    digits_fractionDigits c (eq ▸ mem_append_right _ member)
  have digitsRest : Digits (z ++ List.replicate j 48) := by
    intro c member
    have inside : c ∈ decimal 9 b := by
      rw [wholeB, eq, append_assoc]
      exact mem_append_right _ member
    exact mem_decimal inside
  have cancel : ∀ {x y : Bytes}, fractionDigits a ++ x < fractionDigits a ++ y ↔ x < y := by
    intro x y
    rw [append_lt_append_iff rfl]
    simp
  rw [← decimal_lt_iff right left, ← decimal_lt_iff left right, wholeA, wholeB, eq,
    append_assoc, append_assoc, cancel, cancel, cancel, cancel, ← rest]
  refine ⟨not_lt_zeros digitsRest, not_end_lt digitsZ, ?_, ?_⟩
  · constructor
    · rintro less rfl
      rw [nil_append, length_replicate] at less
      exact List.lt_irrefl _ less
    · intro some
      apply zeros_lt digitsRest
      intro zeros
      rw [append_eq_replicate_iff] at zeros
      exact fractionDigits_append_ne eq some zeros.2.1
  · constructor
    · rintro less rfl
      exact List.lt_irrefl _ less
    · exact lt_end digitsZ

theorem fractionDigits_lt_iff {a b : Nat} (left : a < 10 ^ 9) (right : b < 10 ^ 9) :
    fractionDigits a ++ [90] < fractionDigits b ++ [90] ↔ if Nested a b then b < a else a < b := by
  split
  · rename_i nested
    rcases nested with ⟨z, eq⟩ | ⟨z, eq⟩
    · obtain ⟨notLess, notBefore, -, -⟩ := nested_lt left right eq.symm
      exact ⟨fun before => absurd before notBefore, fun less => absurd less notLess⟩
    · obtain ⟨-, -, less, before⟩ := nested_lt right left eq.symm
      rw [less, before]
  · rename_i unrelated
    obtain ⟨notLeft, notRight⟩ := not_or.mp unrelated
    obtain ⟨i, wholeA⟩ := decimal_eq_fractionDigits
    obtain ⟨j, wholeB⟩ := decimal_eq_fractionDigits
    rw [← decimal_lt_iff left right, wholeA, wholeB, append_lt_iff_of_unrelated notLeft notRight,
      append_lt_iff_of_unrelated notLeft notRight]

theorem fraction_lt_iff (left : a < 10 ^ 9) (right : b < 10 ^ 9) :
    fraction a ++ [90] < fraction b ++ [90] ↔ if Nested a b then b < a else a < b := by
  rw [← fractionDigits_lt_iff left right, fraction, fraction]
  have point : ∀ {x : Bytes}, 46 :: x < [90] ∧ ¬[90] < 46 :: x := by
    intro x
    have less : (46 : UInt8) < 90 := by decide
    rw [cons_lt_cons_iff, cons_lt_cons_iff]
    refine ⟨.inl less, ?_⟩
    rintro (other | ⟨other, -⟩)
    all_goals exact absurd other (by decide)
  by_cases none : fractionDigits a = []
  · by_cases none' : fractionDigits b = []
    · rw [if_pos none, if_pos none', none, none']
    · rw [if_pos none, if_neg none', none]
      exact ⟨fun less => absurd less point.2,
        fun less => absurd less (not_end_lt (digits_fractionDigits))⟩
  · by_cases none' : fractionDigits b = []
    · rw [if_neg none, if_pos none', none']
      exact ⟨fun _ => lt_end (digits_fractionDigits) none, fun _ => point.1⟩
    · rw [if_neg none, if_neg none', cons_append, cons_append, cons_lt_cons_iff]
      simp

/-! ## Instants -/

/-- The instant `t` has its text before the one of `u`. -/
def TextPrecedes (t u : Int) : Prop :=
  YearPrecedes (year (t / 10 ^ 9)) (year (u / 10 ^ 9)) ∨
    year (t / 10 ^ 9) = year (u / 10 ^ 9) ∧
      if t / 10 ^ 9 = u / 10 ^ 9 ∧ Nested (t % 10 ^ 9).toNat (u % 10 ^ 9).toNat then u < t
      else t < u

theorem formatNano_lt_iff : formatNano t < formatNano u ↔ TextPrecedes t u := by
  have bound : ∀ x : Int, (x % 10 ^ 9).toNat < 10 ^ 9 := by
    intro x
    omega
  rw [formatNano, formatNano, secondText_lt_iff, fraction_lt_iff (bound t) (bound u), TextPrecedes]
  refine or_congr_right (and_congr_right fun _ => ?_)
  by_cases same : t / 10 ^ 9 = u / 10 ^ 9
  · by_cases nested : Nested (t % 10 ^ 9).toNat (u % 10 ^ 9).toNat
    · simp only [same, nested, and_self, if_true, true_and]
      omega
    · simp only [same, nested, and_false, if_false, true_and]
      omega
  · simp only [same, false_and, if_false, or_false]
    omega

/-- The texts are in the order of the instants. -/
def SameOrder (t u : Int) : Prop :=
  (formatNano t < formatNano u ↔ t < u) ∧ (formatNano u < formatNano t ↔ u < t)

/-- The earlier year has the earlier text, and within a second no fraction is the beginning of
another one. -/
def TextOrdered (t u : Int) : Prop :=
  if year (t / 10 ^ 9) < year (u / 10 ^ 9) then
    YearPrecedes (year (t / 10 ^ 9)) (year (u / 10 ^ 9))
  else if year (u / 10 ^ 9) < year (t / 10 ^ 9) then
    YearPrecedes (year (u / 10 ^ 9)) (year (t / 10 ^ 9))
  else t / 10 ^ 9 = u / 10 ^ 9 → Nested (t % 10 ^ 9).toNat (u % 10 ^ 9).toNat → t = u

instance (t u : Int) : Decidable (TextOrdered t u) := by
  unfold TextOrdered
  infer_instance

theorem year_mono (le : a ≤ b) : year a ≤ year b := by
  have keys : (date (a / 86400)).key ≤ (date (b / 86400)).key :=
    key_strictMono.monotone (Int.ediv_le_ediv (by decide) le)
  obtain ⟨-, -, _⟩ := dayOfEra_eq (dayOfEra_lt (a / 86400))
  obtain ⟨-, -, inYear'⟩ := dayOfEra_eq (dayOfEra_lt (b / 86400))
  have months' := month_bounds inYear'
  have small := day_le (dayOfYear (dayOfEra (a / 86400)))
  have small' := day_le (dayOfYear (dayOfEra (b / 86400)))
  simp only [Date.key, date] at keys
  simp only [year, date]
  omega

theorem SameOrder.comm : SameOrder t u ↔ SameOrder u t := and_comm

theorem TextOrdered.comm : TextOrdered t u ↔ TextOrdered u t := by
  grind [TextOrdered, Nested]

theorem sameOrder_iff_of_lt (less : t < u) : SameOrder t u ↔ TextOrdered t u := by
  grind [SameOrder, TextOrdered, TextPrecedes, year_mono, formatNano_lt_iff, Int.lt_or_eq_of_le]

theorem sameOrder_iff (t u : Int) : SameOrder t u ↔ TextOrdered t u := by
  grind [SameOrder, TextOrdered, sameOrder_iff_of_lt, SameOrder.comm, TextOrdered.comm]

theorem formatNano_injective : Function.Injective formatNano := by
  intro t u same
  by_contra differ
  have before : ¬TextPrecedes t u := fun less =>
    List.lt_irrefl _ (same ▸ (formatNano_lt_iff).mpr less)
  have after : ¬TextPrecedes u t := fun less =>
    List.lt_irrefl _ (same ▸ (formatNano_lt_iff).mpr less)
  by_cases years : year (t / 10 ^ 9) = year (u / 10 ^ 9)
  · grind [TextPrecedes, Nested]
  · grind [Precedes, YearPrecedes, TextPrecedes]

theorem lt_iff_sameOrder (t u : Int) : (formatNano t < formatNano u ↔ t < u) ↔ SameOrder t u := by
  grind [SameOrder, formatNano_injective]

end NeonDoll.Lib.Rfc3339
