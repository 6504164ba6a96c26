import NeonDoll.Lib.Bytes

/-!
# RFC 3339 texts of UTC times

Dates of the proleptic Gregorian calendar, counted in eras of 400 years that start on the
first of March, and the text of a whole second.  No two seconds have the same text.
-/

namespace NeonDoll.Lib.Rfc3339

open List Nat

/-! ## The calendar -/

/-- The last century of an era is a day longer than the others. -/
def century (dayOfEra : Nat) : Nat := min (dayOfEra / 36524) 3

def dayOfCentury (dayOfEra : Nat) : Nat := dayOfEra - 36524 * century dayOfEra

/-- The last year of four is a day longer than the others. -/
def yearOfFour (dayOfEra : Nat) : Nat := min (dayOfCentury dayOfEra % 1461 / 365) 3

def yearOfEra (dayOfEra : Nat) : Nat :=
  100 * century dayOfEra + 4 * (dayOfCentury dayOfEra / 1461) + yearOfFour dayOfEra

def dayOfYear (dayOfEra : Nat) : Nat :=
  dayOfCentury dayOfEra % 1461 - 365 * yearOfFour dayOfEra

@[ext]
structure Date where
  year : Int
  month : Nat
  day : Nat
  deriving DecidableEq

/-- Months are counted from March, so that the leap day comes last. -/
def monthFromMarch (dayOfYear : Nat) : Nat := (5 * dayOfYear + 2) / 153

def month (dayOfYear : Nat) : Nat :=
  if monthFromMarch dayOfYear < 10 then monthFromMarch dayOfYear + 3
  else monthFromMarch dayOfYear - 9

def day (dayOfYear : Nat) : Nat := dayOfYear - (153 * monthFromMarch dayOfYear + 2) / 5 + 1

/-- Days from the first of March of the year 0 to the first of January 1970. -/
def epoch : Int := 719468

/-- The day of the era for a day that is counted from the first of January 1970. -/
def dayOfEra (days : Int) : Nat := ((days + epoch) % 146097).toNat

/-- The date of a day, counted from the first of January 1970. -/
def date (days : Int) : Date :=
  let month := month (dayOfYear (dayOfEra days))
  { year := (days + epoch) / 146097 * 400 + yearOfEra (dayOfEra days) + if month ≤ 2 then 1 else 0
    month := month
    day := day (dayOfYear (dayOfEra days)) }

example : date 0 = ⟨1970, 1, 1⟩ := by decide

example : date 11016 = ⟨2000, 2, 29⟩ := by decide

theorem dayOfEra_eq (inside : d < 146097) :
    d = 36524 * (yearOfEra d / 100) + 1461 * (yearOfEra d % 100 / 4) + 365 * (yearOfEra d % 4) +
      dayOfYear d ∧ yearOfEra d < 400 ∧ dayOfYear d < 366 := by
  have first : century d ≤ 3 ∧ dayOfCentury d < 36525 ∧
      d = 36524 * century d + dayOfCentury d := by
    rw [dayOfCentury, century]
    omega
  have second : yearOfFour d ≤ 3 ∧ dayOfYear d < 366 ∧
      dayOfCentury d % 1461 = 365 * yearOfFour d + dayOfYear d := by
    rw [dayOfYear, yearOfFour]
    omega
  have four : dayOfCentury d / 1461 < 25 := by omega
  have hundreds : yearOfEra d / 100 = century d := by
    rw [yearOfEra]
    omega
  have fours : yearOfEra d % 100 / 4 = dayOfCentury d / 1461 := by
    grind [yearOfEra]
  have ones : yearOfEra d % 4 = yearOfFour d := by
    rw [yearOfEra]
    omega
  rw [hundreds, fours, ones]
  refine ⟨?_, ?_, second.2.1⟩
  · omega
  · rw [yearOfEra]
    omega

/-- The year and the day of the year determine a day of the era. -/
theorem dayOfEra_injective (left : d < 146097) (right : d' < 146097)
    (year : yearOfEra d = yearOfEra d') (day : dayOfYear d = dayOfYear d') : d = d' := by
  rw [(dayOfEra_eq left).1, year, day]
  exact (dayOfEra_eq right).1.symm

theorem month_bounds (inside : d < 366) : 1 ≤ month d ∧ month d ≤ 12 := by
  rw [month, monthFromMarch]
  split
  all_goals omega

theorem day_le (d : Nat) : day d ≤ 31 := by
  rw [day, monthFromMarch]
  omega

/-- The month and its day determine a day of the year. -/
theorem dayOfYear_injective (left : d < 366) (right : d' < 366)
    (months : month d = month d') (days : day d = day d') : d = d' := by
  grind [monthFromMarch, month, day]

theorem dayOfEra_lt (days : Int) : dayOfEra days < 146097 := by
  rw [dayOfEra]
  omega

theorem date_injective (same : date a = date b) : a = b := by
  obtain ⟨-, _, inYear⟩ := dayOfEra_eq (dayOfEra_lt a)
  obtain ⟨-, _, inYear'⟩ := dayOfEra_eq (dayOfEra_lt b)
  rw [date, date, Date.mk.injEq] at same
  obtain ⟨years, months, days⟩ := same
  have sameDay : dayOfYear (dayOfEra a) = dayOfYear (dayOfEra b) :=
    dayOfYear_injective inYear inYear' months days
  rw [months] at years
  have sameYear : yearOfEra (dayOfEra a) = yearOfEra (dayOfEra b) := by omega
  have inEra := dayOfEra_injective (dayOfEra_lt a) (dayOfEra_lt b) sameYear sameDay
  rw [dayOfEra, dayOfEra] at inEra
  omega

/-! ## Decimal texts -/

/-- A number in decimal, with zeros before it up to the width. -/
def decimal (width n : Nat) : Bytes :=
  ((Nat.digits 10 n ++ List.replicate (width - (Nat.digits 10 n).length) 0).map
    fun d => UInt8.ofNat (48 + d)).reverse

/-- `appendInt` of the Go time package. -/
def appendInt (width : Nat) (x : Int) : Bytes :=
  if x < 0 then 45 :: decimal width x.natAbs else decimal width x.natAbs

def readDecimal (text : Bytes) : Nat := Nat.ofDigits 10 (text.reverse.map fun b => b.toNat - 48)

theorem digit_lt (member : d ∈ Nat.digits 10 n ++ List.replicate k 0) : d < 10 := by
  obtain member | member := mem_append.mp member
  · exact digits_lt_base (by decide) member
  · rw [eq_of_mem_replicate member]
    decide

theorem readDecimal_decimal (width n : Nat) : readDecimal (decimal width n) = n := by
  have digit : ∀ d ∈ Nat.digits 10 n ++ List.replicate (width - (Nat.digits 10 n).length) 0,
      (UInt8.ofNat (48 + d)).toNat - 48 = d := by
    intro d member
    have small : d < 10 := digit_lt member
    rw [UInt8.toNat_ofNat']
    omega
  have values : (Nat.digits 10 n ++ List.replicate (width - (Nat.digits 10 n).length) 0).map
      ((fun b : UInt8 => b.toNat - 48) ∘ fun d => UInt8.ofNat (48 + d)) =
      Nat.digits 10 n ++ List.replicate (width - (Nat.digits 10 n).length) 0 :=
    (map_congr_left digit).trans (map_id _)
  rw [readDecimal, decimal, reverse_reverse, map_map, values,
    ofDigits_append_replicate_zero, ofDigits_digits]

theorem decimal_injective (same : decimal width n = decimal width m) : n = m := by
  rw [← readDecimal_decimal width n, same, readDecimal_decimal]

theorem minus_not_mem_decimal : 45 ∉ decimal width n := by
  rw [decimal, mem_reverse, mem_map]
  rintro ⟨d, member, same⟩
  have small : d < 10 := digit_lt member
  have value := congrArg UInt8.toNat same
  rw [UInt8.toNat_ofNat'] at value
  change (48 + d) % 256 = 45 at value
  omega

theorem appendInt_injective (same : appendInt width x = appendInt width y) : x = y := by
  grind [decimal_injective, minus_not_mem_decimal, appendInt]

theorem length_decimal (fits : n < 10 ^ width) : (decimal width n).length = width := by
  have short : (Nat.digits 10 n).length ≤ width :=
    (digits_length_le_iff (by decide) n).mpr fits
  rw [decimal, length_reverse, length_map, length_append, length_replicate]
  omega

theorem decimal_append_inj (left : n < 100) (right : m < 100)
    (same : decimal 2 n ++ rest = decimal 2 m ++ rest') : n = m ∧ rest = rest' := by
  obtain ⟨digits, tails⟩ := append_inj same (by rw [length_decimal left, length_decimal right])
  exact ⟨decimal_injective digits, tails⟩

/-! ## The text of a second -/

/-- The part of the text behind the year. -/
def clock (month day second : Nat) : Bytes :=
  45 :: (decimal 2 month ++ 45 :: (decimal 2 day ++ 84 :: (decimal 2 (second / 3600) ++
    58 :: (decimal 2 (second / 60 % 60) ++ 58 :: (decimal 2 (second % 60) ++ [90])))))

/-- The text of a time in seconds from the epoch, in UTC and without a fraction. -/
def format (seconds : Int) : Bytes :=
  let date := date (seconds / 86400)
  appendInt 4 date.year ++ clock date.month date.day (seconds % 86400).toNat

example : format 1700000000 = Bytes.ascii "2023-11-14T22:13:20Z".toList := by decide +kernel

section Clock

variable {month day second : Nat}

theorem length_clock (months : month < 100) (days : day < 100) (seconds : second < 86400) :
    (clock month day second).length = 16 := by
  grind [length_decimal, clock]

theorem clock_injective (months : month < 100) (months' : month' < 100)
    (days : day < 100) (days' : day' < 100) (seconds : second < 86400)
    (seconds' : second' < 86400) (same : clock month day second = clock month' day' second') :
    month = month' ∧ day = day' ∧ second = second' := by
  rw [clock, clock] at same
  obtain ⟨sameMonth, same⟩ := decimal_append_inj months months' (List.cons.inj same).2
  obtain ⟨sameDay, same⟩ := decimal_append_inj days days' (List.cons.inj same).2
  obtain ⟨_, same⟩ := decimal_append_inj (by omega) (by omega) (List.cons.inj same).2
  obtain ⟨_, same⟩ := decimal_append_inj (by omega) (by omega) (List.cons.inj same).2
  obtain ⟨_, -⟩ := decimal_append_inj (by omega) (by omega) (List.cons.inj same).2
  exact ⟨sameMonth, sameDay, by omega⟩

end Clock

theorem date_small (days : Int) : (date days).month < 100 ∧ (date days).day < 100 := by
  obtain ⟨-, -, inYear⟩ := dayOfEra_eq (dayOfEra_lt days)
  have months := (month_bounds inYear).2
  have day := day_le (dayOfYear (dayOfEra days))
  exact ⟨lt_of_le_of_lt months (by decide), lt_of_le_of_lt day (by decide)⟩

theorem format_injective (same : format a = format b) : a = b := by
  obtain ⟨months, days⟩ := date_small (a / 86400)
  obtain ⟨months', days'⟩ := date_small (b / 86400)
  have inDay : ∀ x : Int, (x % 86400).toNat < 86400 := by
    intro x
    omega
  rw [format, format] at same
  obtain ⟨years, clocks⟩ := append_inj' same (by
    rw [length_clock months days (inDay a), length_clock months' days' (inDay b)])
  obtain ⟨sameMonth, sameDay, _⟩ :=
    clock_injective months months' days days' (inDay a) (inDay b) clocks
  have dates : date (a / 86400) = date (b / 86400) := by
    rw [Date.ext_iff]
    exact ⟨appendInt_injective years, sameMonth, sameDay⟩
  have sameDays := date_injective dates
  omega

end NeonDoll.Lib.Rfc3339
