import NeonDoll.Lib.Text

/-!
# Numerals

Numerals in a base up to sixteen, as `Nat.toDigits` writes them, bytes in hexadecimal, lists of
fields, and their reading.
-/

namespace NeonDoll.Lib.Text

open List Option Nat

/-- The value of a digit; sixteen for every other character. -/
def digitValue (c : Char) : Nat :=
  if '0' ≤ c ∧ c ≤ '9' then c.toNat - '0'.toNat
  else if 'a' ≤ c ∧ c ≤ 'f' then c.toNat - 'a'.toNat + 10
  else 16

/-- The value of the digits read after a number. -/
def readDigits (base : Nat) : Nat → Text → Option Nat
  | value, [] => some value
  | value, c :: rest =>
    if digitValue c < base then readDigits base (value * base + digitValue c) rest else none

def toNat? (base : Nat) (t : Text) : Option Nat :=
  if t = [] then none else readDigits base 0 t

theorem digitValue_digitChar (bound : d < 16) : digitValue d.digitChar = d := by
  have all : ∀ d < 16, digitValue d.digitChar = d := by decide
  exact all d bound

theorem readDigits_append (value : Nat) :
    readDigits base value (first ++ second) =
      (readDigits base value first).bind fun v => readDigits base v second := by
  induction first generalizing value with
  | nil => rfl
  | cons c rest ih =>
    rw [cons_append, readDigits, readDigits]
    split
    · exact ih _
    · rfl

section

variable (large : 1 < base) (small : base ≤ 16)

include large small

theorem readDigits_toDigits (n : Nat) : readDigits base 0 (Nat.toDigits base n) = some n := by
  induction n using Nat.strongRecOn with
  | ind n ih =>
    rw [toDigits_eq_if large]
    split
    · rename_i below
      rw [readDigits, digitValue_digitChar (lt_of_lt_of_le below small), if_pos below]
      rw [Nat.zero_mul, Nat.zero_add]
      rfl
    · have smaller : n / base < n := div_lt_self (by omega) large
      have below : n % base < base := mod_lt n (by omega)
      rw [readDigits_append, ih _ smaller, bind_some, readDigits,
        digitValue_digitChar (lt_of_lt_of_le below small), if_pos below, readDigits, div_add_mod']

theorem toNat?_toDigits (n : Nat) : toNat? base (Nat.toDigits base n) = some n := by
  rw [toNat?, if_neg toDigits_ne_nil]
  exact readDigits_toDigits large small n

theorem digitValue_of_mem_toDigits (member : c ∈ Nat.toDigits base n) : digitValue c < base := by
  induction n using Nat.strongRecOn with
  | ind n ih =>
    rw [toDigits_eq_if large] at member
    split at member
    · rename_i below
      rw [mem_singleton.mp member, digitValue_digitChar (lt_of_lt_of_le below small)]
      exact below
    · rcases mem_append.mp member with earlier | last
      · exact ih (n / base) (div_lt_self (by omega) large) earlier
      · have below : n % base < base := mod_lt n (by omega)
        rw [mem_singleton.mp last, digitValue_digitChar (lt_of_lt_of_le below small)]
        exact below

theorem not_mem_toDigits (nondigit : digitValue c = 16) : c ∉ Nat.toDigits base n := by
  intro member
  have digit := digitValue_of_mem_toDigits large small member
  omega

end

/-! ## Bytes in hexadecimal -/

def hex (bytes : List Nat) : Text :=
  bytes.flatMap fun byte => [(byte / 16).digitChar, (byte % 16).digitChar]

theorem length_hex : (hex bytes).length = 2 * bytes.length := by
  induction bytes with
  | nil => rfl
  | cons byte rest ih =>
    rw [hex, flatMap_cons, length_append, ← hex, ih]
    simp only [length_cons, length_nil]
    omega

def readHex : Text → Option (List Nat)
  | [] => some []
  | [_] => none
  | high :: low :: rest =>
    if digitValue high < 16 ∧ digitValue low < 16 then
      (readHex rest).map fun bytes => (digitValue high * 16 + digitValue low) :: bytes
    else none

theorem readHex_hex (bounded : ∀ byte ∈ bytes, byte < 256) :
    readHex (hex bytes) = some bytes := by
  induction bytes with
  | nil => rfl
  | cons byte rest ih =>
    have below : byte < 256 := bounded byte mem_cons_self
    have high : digitValue (byte / 16).digitChar = byte / 16 := digitValue_digitChar (by omega)
    have low : digitValue (byte % 16).digitChar = byte % 16 := digitValue_digitChar (by omega)
    have tail : readHex (hex rest) = some rest :=
      ih fun b member => bounded b (mem_cons_of_mem byte member)
    rw [hex, flatMap_cons, cons_append, singleton_append, ← hex, readHex, high,
      low, tail, if_pos (by omega), map_some, div_add_mod']

theorem digitValue_of_mem_hex (bounded : ∀ byte ∈ bytes, byte < 256)
    (member : c ∈ hex bytes) : digitValue c < 16 := by
  obtain ⟨byte, found, inside⟩ := mem_flatMap.mp member
  have below := bounded byte found
  simp only [mem_cons, not_mem_nil, or_false] at inside
  rcases inside with rfl | rfl
  all_goals
    rw [digitValue_digitChar (by omega)]
    omega

/-! ## Lists of fields -/

def readAll {α : Type} (read : Text → Option α) : List Text → Option (List α)
  | [] => some []
  | field :: rest =>
    match read field, readAll read rest with
    | some value, some values => some (value :: values)
    | _, _ => none

theorem readAll_map {α : Type} {read : Text → Option α} {write : α → Text} {values : List α}
    (inverse : ∀ value ∈ values, read (write value) = some value) :
    readAll read (values.map write) = some values := by
  induction values with
  | nil => rfl
  | cons value rest ih =>
    rw [map_cons, readAll, inverse value mem_cons_self,
      ih fun v member => inverse v (mem_cons_of_mem value member)]

theorem not_mem_of_mem_splitOn {sep : Char} {t part : Text} (member : part ∈ t.splitOn sep) :
    sep ∉ part := by
  induction t generalizing part with
  | nil =>
    rw [splitOn_nil] at member
    rw [mem_singleton.mp member]
    exact not_mem_nil
  | cons c rest ih =>
    rw [splitOn_cons_eq_if_modifyHead] at member
    split at member
    · rcases mem_cons.mp member with rfl | later
      · exact not_mem_nil
      · exact ih later
    rename_i other
    cases split : rest.splitOn sep with
    | nil => exact absurd split (splitOn_ne_nil sep rest)
    | cons head tail =>
      rw [split, modifyHead_cons] at member
      rw [split] at ih
      rcases mem_cons.mp member with rfl | later
      · intro inside
        rcases mem_cons.mp inside with same | deeper
        · exact other (by rw [same]; exact beq_self_eq_true c)
        · exact ih mem_cons_self deeper
      · exact ih (mem_cons_of_mem head later)

/-- The parts before and after the first separator. -/
def cut (sep : Char) : Text → Option (Text × Text)
  | [] => none
  | c :: rest =>
    if c = sep then some ([], rest)
    else (cut sep rest).map fun (before, after) => (c :: before, after)

theorem cut_append (absent : sep ∉ before) (after : Text) :
    cut sep (before ++ sep :: after) = some (before, after) := by
  induction before with
  | nil => exact if_pos rfl
  | cons c rest ih =>
    have other : c ≠ sep := fun same => absent (by rw [same]; exact mem_cons_self)
    have later := ih fun member => absent (mem_cons_of_mem c member)
    rw [cons_append, cut, if_neg other, later]
    rfl

end NeonDoll.Lib.Text
