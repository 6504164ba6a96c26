import NeonDoll.Lib.Bytes
import NeonDoll.Lib.Scanner

/-!
# Payloads and their accounting

Byte slices with a length that is an `int`, their digests in hexadecimal, and a total in 64 bits
that is compared before every addition.
-/

namespace NeonDoll.Lib

abbrev Slice := {data : Bytes // data.length < 2 ^ 63}

namespace Slice

def size (s : Slice) : UInt64 := UInt64.ofNat s.1.length

theorem toNat_size (s : Slice) : s.size.toNat = s.1.length :=
  UInt64.toNat_ofNat_of_lt' (s.2.trans (by decide))

/-- The digest in lowercase hexadecimal. -/
def digest (sha256 : Bytes → Bytes) (s : Slice) : Text := Text.hex ((sha256 s.1).map UInt8.toNat)

end Slice

/-- `strings.EqualFold` with a second text in ASCII without the letters k and s, which have
other characters that fold to them. -/
def equalFold (given plain : Text) : Bool := given.map Char.toLower = plain.map Char.toLower

/-- The next total, unless the amount is more than what is left. -/
def spend (limit total amount : UInt64) : Option UInt64 :=
  if amount > limit - total then none else some (total + amount)

/-- No addition wraps around. -/
theorem spend_exact (within : total ≤ limit)
    (spent : spend limit total amount = some next) :
    next ≤ limit ∧ next.toNat = total.toNat + amount.toNat := by
  rw [spend] at spent
  split at spent
  · cases spent
  · rename_i fits
    cases spent
    have left := UInt64.toNat_sub_of_le _ _ within
    have bound := limit.toNat_lt
    rw [UInt64.le_iff_toNat_le] at within ⊢
    rw [gt_iff_lt, UInt64.lt_iff_toNat_lt, left] at fits
    rw [UInt64.toNat_add]
    omega

end NeonDoll.Lib
