import Mathlib

/-!
# Byte strings

Fixed-width integers in both byte orders, and fields preceded by their length.  A sequence of
such fields is read back in one way only.
-/

namespace NeonDoll.Lib

open List Nat

abbrev Bytes := List UInt8

namespace Bytes

/-- The bytes of an ASCII text. -/
def ascii (text : List Char) : Bytes := text.map fun c => UInt8.ofNat c.toNat

/-! ## Integers of fixed width -/

/-- The `width` low bytes of a number, the least significant first. -/
def putLittle : Nat → Nat → Bytes
  | 0, _ => []
  | width + 1, n => UInt8.ofNat n :: putLittle width (n / 256)

/-- The number with the given bytes, the least significant first. -/
def little : Bytes → Nat
  | [] => 0
  | b :: rest => b.toNat + 256 * little rest

def putBig (width n : Nat) : Bytes := (putLittle width n).reverse

def big (bytes : Bytes) : Nat := little bytes.reverse

@[simp]
theorem length_putLittle (width n : Nat) : (putLittle width n).length = width := by
  induction width generalizing n with
  | zero => rfl
  | succ width ih => rw [putLittle, length_cons, ih]

@[simp]
theorem length_putBig (width n : Nat) : (putBig width n).length = width := by
  rw [putBig, length_reverse, length_putLittle]

theorem little_putLittle (fits : n < 256 ^ width) : little (putLittle width n) = n := by
  induction width generalizing n with
  | zero =>
    have zero : n = 0 := by simpa using fits
    rw [zero]
    rfl
  | succ width ih =>
    have rest : n / 256 < 256 ^ width := by
      rw [div_lt_iff_lt_mul (by decide), ← pow_succ]
      exact fits
    rw [putLittle, little, ih rest, UInt8.toNat_ofNat']
    exact mod_add_div n 256

theorem little_lt (bytes : Bytes) : little bytes < 256 ^ bytes.length := by
  induction bytes with
  | nil => decide
  | cons b rest ih =>
    have byte : b.toNat < 256 := b.toNat_lt
    rw [little, length_cons, pow_succ]
    omega

theorem little_append :
    little (first ++ second) = little first + 256 ^ first.length * little second := by
  induction first with
  | nil => simp [little]
  | cons b rest ih =>
    rw [cons_append, little, little, ih, length_cons, pow_succ, Nat.mul_add,
      add_assoc, mul_right_comm, mul_comm 256 (_ * _)]

theorem big_append : big (first ++ second) = big first * 256 ^ second.length + big second := by
  rw [big, reverse_append, little_append, length_reverse, ← big, ← big, add_comm, mul_comm]

theorem big_putBig (fits : n < 256 ^ width) : big (putBig width n) = n := by
  rw [big, putBig, reverse_reverse, little_putLittle fits]

theorem putLittle_little (bytes : Bytes) : putLittle bytes.length (little bytes) = bytes := by
  induction bytes with
  | nil => rfl
  | cons b rest ih =>
    have byte : b.toNat < 256 := b.toNat_lt
    have tail : little (b :: rest) / 256 = little rest := by
      rw [little]
      omega
    have head : UInt8.ofNat (little (b :: rest)) = b := by
      apply UInt8.toNat_inj.mp
      rw [UInt8.toNat_ofNat', little]
      omega
    rw [length_cons, putLittle, tail, head, ih]

theorem putBig_big (long : bytes.length = width) : putBig width (big bytes) = bytes := by
  rw [putBig, big, ← long, ← length_reverse, putLittle_little, reverse_reverse]

theorem big_lt : big bytes < 256 ^ bytes.length := by
  have bound := little_lt bytes.reverse
  rw [length_reverse] at bound
  exact bound

theorem putBig_injective (left : n < 256 ^ width) (right : m < 256 ^ width)
    (same : putBig width n = putBig width m) : n = m := by
  rw [← big_putBig left, same, big_putBig right]

/-! ## Buffers -/

/-- `copy(buf[start:stop], data)`: as much of the data as there is room for. -/
def copyTo (buf : Bytes) (start stop : Nat) (data : Bytes) : Bytes :=
  buf.take start ++ data.take (stop - start) ++ buf.drop (start + (data.take (stop - start)).length)

/-- The field after those already written to a buffer of zeros. -/
theorem copyTo_next
    (begins : written.length = start) (ends : start + data.length = stop)
    (fits : room = data.length + rest) : copyTo (written ++ List.replicate room 0) start stop data =
      written ++ data ++ List.replicate rest 0 := by
  have whole : data.take (stop - start) = data := take_of_length_le (by omega)
  rw [copyTo, whole, take_left' begins, ← begins, drop_append, drop_replicate,
    drop_of_length_le (le_add_right _ _), nil_append, Nat.add_sub_cancel_left, fits,
    Nat.add_sub_cancel_left]

/-! ## Fields with their length -/

/-- A field behind its length in `width` bytes. -/
def frame (width : Nat) (field : Bytes) : Bytes := putBig width field.length ++ field

def frames (width : Nat) (fields : List Bytes) : Bytes := (fields.map (frame width)).flatten

@[simp]
theorem length_frame : (frame width field).length = width + field.length := by
  rw [frame, length_append, length_putBig]

theorem frame_append_inj
    (left : field.length < 256 ^ width) (right : field'.length < 256 ^ width)
    (same : frame width field ++ rest = frame width field' ++ rest') :
    field = field' ∧ rest = rest' := by
  rw [frame, frame, append_assoc, append_assoc] at same
  obtain ⟨lengths, tails⟩ := append_inj same (by simp)
  exact append_inj tails (putBig_injective left right lengths)

theorem frames_injective (wide : 0 < width)
    (left : ∀ f ∈ fields, f.length < 256 ^ width) (right : ∀ f ∈ fields', f.length < 256 ^ width)
    (same : frames width fields = frames width fields') : fields = fields' := by
  -- An empty sequence has no bytes, and every field has some.
  have nonempty : ∀ (f : Bytes) (rest : Bytes), frame width f ++ rest ≠ [] := by
    intro f rest empty
    have length := congrArg List.length empty
    rw [length_append, length_frame, length_nil] at length
    omega
  induction fields generalizing fields' with
  | nil =>
    cases fields' with
    | nil => rfl
    | cons f rest => exact absurd same.symm (nonempty f _)
  | cons f rest ih =>
    cases fields' with
    | nil => exact absurd same (nonempty f _)
    | cons f' rest' =>
      rw [forall_mem_cons] at left right
      obtain ⟨head, tail⟩ := frame_append_inj left.1 right.1 same
      rw [head, ih left.2 right.2 tail]

end Bytes

end NeonDoll.Lib
