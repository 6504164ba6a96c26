import NeonDoll.Lib.Bytes

/-!
# Base 64

Decoding as the Go standard library does it: line breaks are skipped anywhere, and the unused
bits of the last character need not be zero.
-/

namespace NeonDoll.Lib.Base64

/-- Letters and digits have the same value in both alphabets. -/
def alphanumeric (b : UInt8) : Option Nat :=
  let c := b.toNat
  if 65 ≤ c ∧ c ≤ 90 then some (c - 65)
  else if 97 ≤ c ∧ c ≤ 122 then some (c - 97 + 26)
  else if 48 ≤ c ∧ c ≤ 57 then some (c - 48 + 52)
  else none

/-- The standard alphabet ends in `+` and `/`. -/
def stdValue (b : UInt8) : Option Nat :=
  if b = 43 then some 62 else if b = 47 then some 63 else alphanumeric b

/-- The URL-safe alphabet ends in `-` and `_`. -/
def urlValue (b : UInt8) : Option Nat :=
  if b = 45 then some 62 else if b = 95 then some 63 else alphanumeric b

def padChar : UInt8 := 61

section Decode

variable (value : UInt8 → Option Nat) (padded : Bool)

/-- The byte of two characters, without the last four bits. -/
def decode2 (a b : UInt8) : Option Bytes := do
  let x ← value a
  let y ← value b
  return [UInt8.ofNat (x * 4 + y / 16)]

def decode3 (a b c : UInt8) : Option Bytes := do
  let x ← value a
  let y ← value b
  let z ← value c
  return [UInt8.ofNat (x * 4 + y / 16), UInt8.ofNat (y * 16 + z / 4)]

def decode4 (a b c d : UInt8) : Option Bytes := do
  let x ← value a
  let y ← value b
  let z ← value c
  let w ← value d
  return [UInt8.ofNat (x * 4 + y / 16), UInt8.ofNat (y * 16 + z / 4), UInt8.ofNat (z * 64 + w)]

/-- Padding may stand at the very end only, and then it has to. -/
def decodeQuanta : Bytes → Option Bytes
  | [] => some []
  | [_] => none
  | [a, b] => if padded then none else decode2 value a b
  | [a, b, c] => if padded then none else decode3 value a b c
  | a :: b :: c :: d :: rest =>
    if padded ∧ d = padChar then
      if rest ≠ [] then none
      else if c = padChar then decode2 value a b
      else decode3 value a b c
    else do
      let first ← decode4 value a b c d
      let later ← decodeQuanta rest
      return first ++ later

/-- Carriage returns and line feeds are skipped. -/
def decode (text : Bytes) : Option Bytes :=
  decodeQuanta value padded (text.filter fun b => b ≠ 10 ∧ b ≠ 13)

end Decode

/-- `base64.StdEncoding.DecodeString`. -/
def decodeStd (text : Bytes) : Option Bytes := decode stdValue true text

/-- `base64.RawURLEncoding.DecodeString`. -/
def decodeRawURL (text : Bytes) : Option Bytes := decode urlValue false text

example : decodeStd (Bytes.ascii "aGVsbG8=".toList) = some (Bytes.ascii "hello".toList) := by decide

example : decodeRawURL (Bytes.ascii "aGVs\nbG8".toList) = some (Bytes.ascii "hello".toList) := by
  decide

end NeonDoll.Lib.Base64
