import NeonDoll.Lib.Bytes
import NeonDoll.Relay.ControlServer

/-!
# The frame protocol on the wire

`codec.go`: a frame is a version byte, the route in eight bytes, the length of the payload in two
bytes, and the payload.
-/

namespace NeonDoll.Relay

open Lib Bytes

/-- Version, route and length. -/
def frameHeaderSize : Nat := 11

/-- The largest `uint16`. -/
def maxFramePayloadSize : Nat := 65535

/-- 64 KiB. -/
def maxControlMessageSize : Nat := 65536

inductive FrameError where
  | tooSmall
  | tooLarge
  | badVersion
  | invalidRoute
  | lengthMismatch (claimed data : Nat)
  deriving DecidableEq

def marshalFrame (f : Frame) : Except FrameError Bytes :=
  if f.version ≠ protocolVersion then .error .badVersion
  else if f.routeID = 0 ∨ maxRouteID < f.routeID then .error .invalidRoute
  else if maxFramePayloadSize < f.payload.length then .error .tooLarge
  else .ok (UInt8.ofNat f.version :: Bytes.putBig 8 f.routeID ++ Bytes.putBig 2 f.payload.length ++
    f.payload)

def unmarshalFrame (data : Bytes) : Except FrameError Frame :=
  if data.length < frameHeaderSize then .error .tooSmall
  else
    let version := Bytes.big (data.take 1)
    let routeID := Bytes.big ((data.drop 1).take 8)
    let length := Bytes.big ((data.drop 9).take 2)
    if version ≠ protocolVersion then .error .badVersion
    else if routeID = 0 ∨ maxRouteID < routeID then .error .invalidRoute
    else if maxFramePayloadSize < length then .error .tooLarge
    else if data.length ≠ frameHeaderSize + length then
      .error (.lengthMismatch (frameHeaderSize + length) data.length)
    else .ok ⟨version, routeID, data.drop 11⟩

/-- What `MarshalFrame` accepts. -/
structure Frame.Valid (f : Frame) : Prop where
  version : f.version = protocolVersion
  positive : f.routeID ≠ 0
  bounded : f.routeID ≤ maxRouteID
  small : f.payload.length ≤ maxFramePayloadSize

variable {f : Frame}

theorem Frame.Valid.route (valid : f.Valid) : ¬(f.routeID = 0 ∨ maxRouteID < f.routeID) := by
  rintro (zero | large)
  · exact valid.positive zero
  · exact Nat.not_lt_of_le valid.bounded large

def Frame.message (f : Frame) : Bytes :=
  UInt8.ofNat f.version :: Bytes.putBig 8 f.routeID ++ Bytes.putBig 2 f.payload.length ++ f.payload

theorem marshalFrame_valid (valid : f.Valid) : marshalFrame f = .ok f.message := by
  rw [marshalFrame, if_neg (not_not_intro valid.version), if_neg valid.route,
    if_neg (Nat.not_lt_of_le valid.small)]
  rfl

theorem marshalFrame_ok (encoded : marshalFrame f = .ok data) : f.Valid ∧ data = f.message := by
  unfold marshalFrame at encoded
  split at encoded
  · cases encoded
  rename_i version
  split at encoded
  · cases encoded
  rename_i route
  split at encoded
  · cases encoded
  rename_i small
  cases encoded
  exact ⟨⟨of_not_not version, fun zero => route (.inl zero),
    Nat.le_of_not_lt fun large => route (.inr large), Nat.le_of_not_lt small⟩, rfl⟩

@[simp]
theorem Frame.length_message : f.message.length = frameHeaderSize + f.payload.length := by
  simp only [message, List.length_append, List.length_cons, length_putBig, frameHeaderSize]

theorem unmarshalFrame_message (valid : f.Valid) : unmarshalFrame f.message = .ok f := by
  have small := valid.small
  have version : big (f.message.take 1) = f.version := by
    rw [valid.version, Frame.message, valid.version]
    rfl
  have route : big ((f.message.drop 1).take 8) = f.routeID := by
    have field : (f.message.drop 1).take 8 = putBig 8 f.routeID := by
      rw [Frame.message, List.cons_append, List.cons_append, List.drop_one, List.tail_cons,
        List.append_assoc]
      exact List.take_left' (length_putBig 8 _)
    rw [field, big_putBig (Nat.lt_of_le_of_lt valid.bounded (by decide))]
  have length : big ((f.message.drop 9).take 2) = f.payload.length := by
    have field : (f.message.drop 9).take 2 = putBig 2 f.payload.length := by
      rw [Frame.message, List.append_assoc, List.drop_left' (by
        rw [List.length_cons, length_putBig])]
      exact List.take_left' (length_putBig 2 _)
    rw [field, big_putBig (Nat.lt_of_le_of_lt small (by decide))]
  have payload : f.message.drop 11 = f.payload := by
    rw [Frame.message]
    apply List.drop_left'
    rw [List.length_append, List.length_cons, length_putBig, length_putBig]
  unfold unmarshalFrame
  rw [if_neg (by rw [f.length_message]; omega)]
  simp only [version, route, length, payload]
  rw [if_neg (not_not_intro valid.version), if_neg valid.route, if_neg (Nat.not_lt_of_le small),
    if_neg (not_not_intro f.length_message)]

theorem unmarshalFrame_ok (decoded : unmarshalFrame data = .ok f) : f.Valid ∧ data = f.message := by
  unfold unmarshalFrame at decoded
  split at decoded
  · cases decoded
  rename_i large
  dsimp only at decoded
  split at decoded
  · cases decoded
  rename_i version
  split at decoded
  · cases decoded
  rename_i route
  split at decoded
  · cases decoded
  split at decoded
  · cases decoded
  rename_i length
  cases decoded
  have whole := of_not_not length
  have rest : (data.drop 11).length = big ((data.drop 9).take 2) := by
    rw [List.length_drop, whole, frameHeaderSize]
    omega
  refine ⟨⟨of_not_not version, fun zero => route (.inl zero),
    Nat.le_of_not_lt fun large => route (.inr large), ?_⟩, ?_⟩
  · rw [rest]
    omega
  obtain ⟨first, tail, rfl⟩ : ∃ first tail, data = first :: tail :=
    List.exists_cons_of_length_pos (by rw [frameHeaderSize] at large; omega)
  have header : UInt8.ofNat (big [first]) = first := UInt8.ofNat_toNat
  rw [frameHeaderSize, List.length_cons] at large
  rw [Frame.message, rest, putBig_big (by grind), putBig_big (by grind)]
  change _ = UInt8.ofNat (big [first]) :: (tail.take 8 ++ (tail.drop 8).take 2) ++ tail.drop 10
  rw [header, ← List.take_add, List.cons_append, List.take_append_drop]

/-- A frame has an encoding exactly if it is valid, and only its own encoding decodes to it. -/
theorem frame_codec (f : Frame) : (f.Valid ↔ ∃ data, marshalFrame f = .ok data) ∧
    ∀ data, marshalFrame f = .ok data ↔ unmarshalFrame data = .ok f := by
  refine ⟨⟨fun valid => ⟨_, marshalFrame_valid valid⟩, ?_⟩, fun data => ⟨?_, ?_⟩⟩
  · rintro ⟨data, encoded⟩
    exact (marshalFrame_ok encoded).1
  · intro encoded
    obtain ⟨valid, rfl⟩ := marshalFrame_ok encoded
    exact unmarshalFrame_message valid
  · intro decoded
    obtain ⟨valid, rfl⟩ := unmarshalFrame_ok decoded
    exact marshalFrame_valid valid

end NeonDoll.Relay
