import NeonDoll.FileTransfer.Integrity
import NeonDoll.FileTransfer.Sender

/-!
# A file from sender to receiver

The frames of a sender that starts at the offset a receiver has retained continue the partial
file up to the end of the content, for every chunk size.  The induction is on the bytes that
remain; both ends stand at the same position of the content after every frame.
-/

namespace NeonDoll.FileTransfer

open Lib List Directory ReceiveState Receiver

/-- The frames are written in order; the first error ends the reception. -/
def receiveAll (dir : Directory) (rs : ReceiveState) :
    List NDF1Frame → Except ReceiveError (Directory × ReceiveState)
  | [] => .ok (dir, rs)
  | frame :: rest =>
    match rs.writeFrame dir frame .written with
    | (_, _, .error e) => .error e
    | (dir, rs, .ok ()) => receiveAll dir rs rest

def overWire : List NDF1Frame → Except NDF1Error (List NDF1Frame)
  | [] => .ok []
  | frame :: rest => do
    let received ← unmarshalBinary frame.marshalBinary
    let later ← overWire rest
    return received :: later

section

variable {sha256 : Bytes → Bytes} {dir : Directory} {rs : ReceiveState}

/-! ## The receiving end -/

/-- An unfinished reception of the content that retains its first `k` bytes. -/
structure Retains (sha256 : Bytes → Bytes) (dir : Directory) (rs : ReceiveState) (content : Bytes)
    (k : Nat) : Prop where
  unfinished : rs.completed = false
  size : rs.size = content.length
  digest : rs.sha256 = sha256Hex sha256 content
  retained : rs.retained = k
  hashed : rs.hashed = content.take k
  kept : Kept dir rs

theorem Retains.writeFrame (retains : Retains sha256 dir rs content k)
    (offset : frame.header.offset = k) (inside : k ≤ content.length)
    (next : (content.drop k).take frame.payload.length = frame.payload) :
    ∃ dir' rs', rs.writeFrame dir frame .written = (dir', rs', .ok ()) ∧
      rs'.filePath = rs.filePath ∧
      Retains sha256 dir' rs' content (k + frame.payload.length) := by
  have written : rs.writeFrame dir frame .written =
      (dir.store rs.tmpPath (overwrite (dir.contents rs.tmpPath) k frame.payload), { rs with
          retained := rs.retained + frame.payload.length
          hashed := rs.hashed ++ frame.payload }, .ok ()) := by
    grind [writeFrame, writeAt, Retains]
  have advances := writeFrame_advances dir rs frame .written
  rw [written] at advances
  refine ⟨_, _, written, rfl, retains.unfinished, retains.size, retains.digest, ?_, ?_,
    advances.kept retains.kept retains.unfinished⟩
  · rw [retains.retained]
  · rw [retains.hashed, take_add, next]

theorem Retains.complete (retains : Retains sha256 dir rs content content.length)
    (nonempty : content ≠ []) : ∃ moved done, rs.complete sha256 dir true = (moved, done, .ok ()) ∧
      moved.lookup rs.filePath = some content := by
  have hashed : rs.hashed = content := by rw [retains.hashed, take_length]
  have length : (dir.contents rs.tmpPath).length = content.length := by
    have inside := retains.kept.inside
    have within := retains.kept.within
    rw [retains.retained] at inside
    rw [retains.size] at within
    omega
  have bytes : dir.contents rs.tmpPath = content := by
    rw [← hashed, ← retains.kept.bytes, retains.retained, ← length, take_length]
  -- A file with content exists.
  have found : dir.lookup rs.tmpPath = some content := by
    cases lookup : dir.lookup rs.tmpPath with
    | none =>
      rw [contents, lookup] at bytes
      exact absurd bytes.symm nonempty
    | some file => rw [← bytes, contents_of_lookup lookup]
  have renamed : dir.rename? rs.tmpPath rs.filePath =
      some ((dir.erase rs.tmpPath).insert rs.filePath content) := by
    rw [rename?, found, Option.map_some]
  refine ⟨_, { rs with completed := true }, ?_, lookup_rename?_new renamed |>.trans ?_⟩
  · grind [complete, Retains]
  · rw [bytes]

/-! ## Both ends -/

theorem drain_received (sha256 : Bytes → Bytes) (small : content.length < 2 ^ 63) {s : SenderState}
    (there : s.At content k) {fuel : Nat} (enough : content.length - k < fuel) :
    ∃ frames last, s.drain fuel = some (frames, last) ∧ overWire frames = .ok frames ∧
      ∀ dir rs, Retains sha256 dir rs content k →
        ∃ dir' rs', receiveAll dir rs frames = .ok (dir', rs') ∧ rs'.filePath = rs.filePath ∧
          Retains sha256 dir' rs' content content.length := by
  induction fuel generalizing s k with
  | zero => omega
  | succ fuel ih =>
    obtain ended | more := Nat.eq_or_lt_of_le there.within
    · subst ended
      refine ⟨[], s, ?_, rfl, fun dir rs retains => ⟨dir, rs, rfl, rfl, retains⟩⟩
      rw [SenderState.drain, there.eof]
    obtain ⟨_, frame, made, sound, offset, nonempty, next, after⟩ :=
      there.nextFrame small more
    have progress : 0 < frame.payload.length := length_pos_iff.mpr nonempty
    obtain ⟨frames, last, drained, wire, received⟩ := ih after (by omega)
    refine ⟨frame :: frames, last, ?_, ?_, ?_⟩
    · rw [SenderState.drain, made]
      dsimp only
      rw [drained]
    · rw [overWire, unmarshalBinary_marshalBinary sound, wire]
      rfl
    intro dir rs retains
    obtain ⟨dir', rs', written, path, retains'⟩ :=
      retains.writeFrame offset there.within next
    obtain ⟨dir'', rs'', rest, path', whole⟩ := received dir' rs' retains'
    refine ⟨dir'', rs'', ?_, path'.trans path, whole⟩
    rw [receiveAll, written]
    exact rest

/-! ## A resumed reception -/

theorem validateSHA256_sha256Hex (digests : ∀ data, (sha256 data).length = 32) :
    validateSHA256 (sha256Hex sha256 data) = .ok () := by
  have digits : ∀ d < 16, d.digitChar.utf8Size = 1 ∧ Text.digitValue d.digitChar.toLower < 16 := by
    decide
  have bytes : ∀ byte ∈ (sha256 data).map UInt8.toNat, byte < 256 := by
    intro byte member
    obtain ⟨b, -, rfl⟩ := mem_map.mp member
    exact b.toNat_lt
  have chars : ∀ c ∈ sha256Hex sha256 data, c.utf8Size = 1 ∧ Text.digitValue c.toLower < 16 := by
    intro c member
    obtain ⟨byte, found, inside⟩ := mem_flatMap.mp member
    have below := bytes byte found
    simp only [mem_cons, not_mem_nil, or_false] at inside
    obtain rfl | rfl := inside
    all_goals exact digits _ (by omega)
  have length : (sha256Hex sha256 data).length = 64 := by
    rw [sha256Hex, Text.length_hex, length_map, digests]
  have size : ((sha256Hex sha256 data).map Char.utf8Size).sum = 64 := by
    rw [map_congr_left fun c member => (chars c member).1, map_const', length]
    rfl
  rw [validateSHA256, if_neg (not_not_intro size), if_pos]
  rw [all_eq_true]
  intro c member
  exact decide_eq_true (chars c member).2

theorem openRetained_retains (digests : ∀ data, (sha256 data).length = 32)
    (named : fid ≠ []) (identified : tid ≠ emptyTransferID)
    (nonempty : content ≠ []) (inside : k ≤ content.length)
    (stale : dir.contents (partialName fid) = content.take k) :
    ∃ rs, openRetained dir ⟨fid, tid, content.length, sha256Hex sha256 content⟩
        ⟨true, true, true, true, true⟩ = (dir, .ok rs) ∧ Retains sha256 dir rs content k := by
  have length : 0 < content.length := List.length_pos_iff.mpr nonempty
  let fresh : ReceiveState := ⟨fid, tid, content.length, sha256Hex sha256 content, 0, false,
    sanitizeName fid, partialName fid, []⟩
  have made : newReceiveState ⟨fid, tid, content.length, sha256Hex sha256 content⟩ true =
      .ok fresh := by grind [validateSHA256_sha256Hex, newReceiveState, TransferID.isZero]
  have retainedLength : (content.take k).length = k := by
    rw [List.length_take, Nat.min_eq_left inside]
  have short : (dir.contents (partialName fid)).length ≤ content.length := by
    rw [stale, retainedLength]
    exact inside
  -- Nothing is retained when the partial file is missing or empty.
  have nothing (zero : k = 0) : Retains sha256 dir fresh content k := by
    subst zero
    exact ⟨rfl, rfl, rfl, rfl, rfl, ⟨rfl, rfl, short⟩⟩
  unfold openRetained
  rw [made]
  dsimp only
  rw [if_pos rfl]
  cases found : dir.lookup (partialName fid) with
  | none => grind [contents]
  | some file =>
    have bytes : file = content.take k := by
      rw [← stale, contents_of_lookup found]
    have fileLength : file.length = k := by rw [bytes, retainedLength]
    dsimp only
    rw [if_neg (by rw [fileLength]; exact Nat.not_lt_of_le inside), fileLength]
    split
    · rename_i zero
      exact ⟨fresh, rfl, nothing zero⟩
    · refine ⟨_, rfl, rfl, rfl, rfl, rfl, bytes, ⟨fileLength, ?_, short⟩⟩
      rw [stale, bytes, List.take_take, Nat.min_self]

/-- A sender that seeks to an offset and a receiver that retains the bytes before it: the frames
pass the wire and are accepted in order, and the completed file is the content. -/
theorem file_transfer_end_to_end (digests : ∀ data, (sha256 data).length = 32) (content : Bytes)
    (chunkSize k : Nat) {fid : Bytes} {tid : TransferID} (named : fid ≠ [])
    (identified : tid ≠ emptyTransferID) (nonempty : content ≠ [])
    (small : content.length < 2 ^ 63) (positive : 1 ≤ chunkSize)
    (bounded : chunkSize ≤ maxNDF1Payload) (inside : k ≤ content.length) :
    ∃ sender seeked frames last received,
      newSenderState fid tid (some content) true content.length chunkSize = .ok sender ∧
      sender.seekTo k true = (seeked, .ok ()) ∧
      seeked.drain (content.length + 1) = some (frames, last) ∧
      overWire frames = .ok received ∧
      (∀ dir rs, Retains sha256 dir rs content k → ∃ dir' rs' moved done,
        receiveAll dir rs received = .ok (dir', rs') ∧
        rs'.complete sha256 dir' true = (moved, done, .ok ()) ∧
        moved.lookup rs.filePath = some content) ∧
      ∀ dir, dir.contents (partialName fid) = content.take k → ∃ rs,
        openRetained dir ⟨fid, tid, content.length, sha256Hex sha256 content⟩
          ⟨true, true, true, true, true⟩ = (dir, .ok rs) ∧ Retains sha256 dir rs content k := by
  obtain ⟨sender, made, start⟩ := newSenderState_at named identified nonempty positive bounded
  obtain ⟨seeked, sought, there⟩ := start.seekTo inside
  have enough : content.length - k < content.length + 1 := by omega
  obtain ⟨frames, last, drained, wire, _⟩ := drain_received sha256 small there enough
  refine ⟨sender, seeked, frames, last, frames, made, sought, drained, wire, ?_, ?_⟩
  · grind [Retains.complete]
  · intro dir stale
    exact openRetained_retains digests named identified nonempty inside stale

end

/-- Three bytes in chunks of two, of which the receiver has the first. -/
theorem file_transfer_end_to_end_sample :
    ∃ sender seeked frames last received rs dir' rs' moved done,
      newSenderState (Bytes.ascii "f".toList) Receiver.sampleTransfer (some [1, 2, 3]) true 3 2 =
        .ok sender ∧
      sender.seekTo 1 true = (seeked, .ok ()) ∧ seeked.drain 4 = some (frames, last) ∧
      overWire frames = .ok received ∧
      openRetained (Receiver.sampleStorage [1])
          ⟨Bytes.ascii "f".toList, Receiver.sampleTransfer, 3,
            sha256Hex Receiver.sampleSha256 [1, 2, 3]⟩
          ⟨true, true, true, true, true⟩ = (Receiver.sampleStorage [1], .ok rs) ∧
      receiveAll (Receiver.sampleStorage [1]) rs received = .ok (dir', rs') ∧
      rs'.complete Receiver.sampleSha256 dir' true = (moved, done, .ok ()) ∧
      moved.lookup rs.filePath = some [1, 2, 3] := by
  have digests : ∀ data, (sampleSha256 data).length = 32 := by
    grind [sampleSha256]
  have named : Bytes.ascii "f".toList ≠ [] := by decide
  have identified : sampleTransfer ≠ emptyTransferID := by decide
  obtain ⟨sender, seeked, frames, last, received, made, sought, drained, wire, delivered,
      resumed⟩ :=
    file_transfer_end_to_end digests [1, 2, 3] 2 1 named identified (by decide) (by decide)
      (by decide) (by decide) (by decide)
  obtain ⟨rs, opened, retains⟩ := resumed (sampleStorage [1]) (by decide +kernel)
  obtain ⟨dir', rs', moved, done, accepted, completed, file⟩ := delivered _ rs retains
  exact ⟨sender, seeked, frames, last, received, rs, dir', rs', moved, done, made, sought, drained,
    wire, opened, accepted, completed, file⟩

end NeonDoll.FileTransfer
