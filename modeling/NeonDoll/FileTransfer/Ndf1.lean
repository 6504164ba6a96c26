import NeonDoll.Lib.Bytes

/-!
# Binary data frames

`DollLink/FileTransfer/ndf1.go` and the header of `types.go`: a frame is a header of 32 bytes
and a payload of the length that the header announces.  Offsets and lengths are numbers; the
conversions to `uint32` and the fixed width of the fields cut them off as the source does.
-/

namespace NeonDoll.FileTransfer

open Lib List Nat Bytes

structure TransferID where
  bytes : Bytes
  length_eq : bytes.length = 16
  deriving DecidableEq

def emptyTransferID : TransferID := ⟨List.replicate 16 0, by decide⟩

def TransferID.isZero (tid : TransferID) : Bool := tid = emptyTransferID

def ndf1Magic : Bytes := Bytes.ascii "NDF1".toList

/-- 1 MiB. -/
def maxNDF1Payload : Nat := 1048576

def ndf1HeaderLen : Nat := 32

structure NDF1Header where
  transferID : TransferID
  offset : Nat
  length : Nat
  deriving DecidableEq

structure NDF1Frame where
  header : NDF1Header
  payload : Bytes
  deriving DecidableEq

inductive NDF1Error where
  | headerShort (length : Nat)
  | unknownMagic (magic : Bytes)
  | frameShort (length : Nat)
  | lengthMismatch (header data : Nat)
  deriving DecidableEq

def NDF1Header.encode (h : NDF1Header) : Bytes :=
  ndf1Magic ++ h.transferID.bytes ++ Bytes.putBig 8 h.offset ++ Bytes.putBig 4 h.length

def decodeNDF1Header (raw : Bytes) : Except NDF1Error NDF1Header :=
  if short : raw.length < ndf1HeaderLen then .error (.headerShort raw.length)
  else if raw.take 4 ≠ ndf1Magic then .error (.unknownMagic (raw.take 4))
  else .ok {
    transferID := ⟨(raw.drop 4).take 16, by
      rw [List.length_take, List.length_drop]
      have long : ndf1HeaderLen ≤ raw.length := Nat.le_of_not_lt short
      rw [ndf1HeaderLen] at long
      omega⟩
    offset := Bytes.big ((raw.drop 20).take 8)
    length := Bytes.big ((raw.drop 28).take 4) }

def NDF1Frame.marshalBinary (frame : NDF1Frame) : Bytes := frame.header.encode ++ frame.payload

def unmarshalBinary (data : Bytes) : Except NDF1Error NDF1Frame :=
  if data.length < ndf1HeaderLen then .error (.frameShort data.length)
  else do
    let header ← decodeNDF1Header (data.take ndf1HeaderLen)
    if (data.length - ndf1HeaderLen) % 2 ^ 32 ≠ header.length then
      throw (.lengthMismatch header.length (data.length - ndf1HeaderLen))
    return ⟨header, (data.drop ndf1HeaderLen).take header.length⟩

/-- A payload beyond the maximum is cut off. -/
def newNDF1Frame (tid : TransferID) (offset : Nat) (payload : Bytes) : NDF1Frame :=
  let payload := payload.take maxNDF1Payload
  ⟨⟨tid, offset, payload.length % 2 ^ 32⟩, payload⟩

/-! ## Round trip -/

@[simp]
theorem NDF1Header.length_encode (h : NDF1Header) : h.encode.length = ndf1HeaderLen := by
  simp [NDF1Header.encode, h.transferID.length_eq, ndf1Magic, Bytes.ascii, ndf1HeaderLen]

theorem decodeNDF1Header_encode (offset : h.offset < 2 ^ 64)
    (length : h.length < 2 ^ 32) : decodeNDF1Header h.encode = .ok h := by
  have magic : ndf1Magic.length = 4 := rfl
  -- The fields stand one after the other, so each is what is left after its predecessors.
  have first : h.encode.take 4 = ndf1Magic := by
    rw [NDF1Header.encode, append_assoc, append_assoc]
    exact take_left' magic
  have second : (h.encode.drop 4).take 16 = h.transferID.bytes := by
    rw [NDF1Header.encode, append_assoc, append_assoc, drop_left' magic]
    exact take_left' h.transferID.length_eq
  have third : (h.encode.drop 20).take 8 = Bytes.putBig 8 h.offset := by
    rw [NDF1Header.encode, append_assoc, drop_left' (by
      rw [length_append, magic, h.transferID.length_eq])]
    exact take_left' (length_putBig 8 _)
  have fourth : (h.encode.drop 28).take 4 = Bytes.putBig 4 h.length := by
    grind [length_putBig, NDF1Header.encode]
  rw [decodeNDF1Header, dif_neg (by rw [h.length_encode]; exact lt_irrefl _),
    if_neg (not_not_intro first)]
  simp only [second, third, fourth]
  rw [big_putBig offset, big_putBig length]

/-- The header of a frame describes its payload. -/
structure NDF1Frame.Sound (frame : NDF1Frame) : Prop where
  offset : frame.header.offset < 2 ^ 64
  length : frame.header.length = frame.payload.length
  small : frame.payload.length < 2 ^ 32

/-- A frame survives the wire. -/
theorem unmarshalBinary_marshalBinary {frame : NDF1Frame} (sound : frame.Sound) :
    unmarshalBinary frame.marshalBinary = .ok frame := by
  have header := decodeNDF1Header_encode sound.offset
    (by rw [sound.length]; exact sound.small)
  have start : frame.marshalBinary.take ndf1HeaderLen = frame.header.encode :=
    take_left' frame.header.length_encode
  have rest : frame.marshalBinary.drop ndf1HeaderLen = frame.payload :=
    drop_left' frame.header.length_encode
  have long : frame.marshalBinary.length = ndf1HeaderLen + frame.payload.length := by
    rw [NDF1Frame.marshalBinary, length_append, NDF1Header.length_encode]
  have announced : (frame.marshalBinary.length - ndf1HeaderLen) % 2 ^ 32 = frame.header.length := by
    rw [long, Nat.add_sub_cancel_left, mod_eq_of_lt sound.small, sound.length]
  rw [unmarshalBinary, if_neg (by rw [long]; omega), start, header]
  simp only [bind, Except.bind, announced, ne_eq, not_true_eq_false, if_false, rest, pure,
    Except.pure]
  rw [sound.length, take_length]

/-- A frame for at most the maximum payload is sound and carries all of it. -/
theorem newNDF1Frame_sound (far : offset < 2 ^ 64) (small : payload.length ≤ maxNDF1Payload) :
    newNDF1Frame tid offset payload = ⟨⟨tid, offset, payload.length⟩, payload⟩ ∧
      (newNDF1Frame tid offset payload).Sound := by
  have bounded : payload.length < 2 ^ 32 := by
    rw [maxNDF1Payload] at small
    omega
  have made : newNDF1Frame tid offset payload = ⟨⟨tid, offset, payload.length⟩, payload⟩ := by
    rw [newNDF1Frame]
    simp only [take_of_length_le small, mod_eq_of_lt bounded]
  rw [made]
  exact ⟨rfl, far, rfl, bounded⟩

end NeonDoll.FileTransfer
