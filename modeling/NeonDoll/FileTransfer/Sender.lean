import NeonDoll.FileTransfer.Ndf1

/-!
# Sending of files

`DollLink/FileTransfer/sender.go`.  The opened file is its content and a cursor.
-/

namespace NeonDoll.FileTransfer

open Lib

inductive SendError where
  | emptyFileID
  | emptyTransferID
  | sizeNotPositive (size : Int)
  | chunkSize (size : Int)
  | openFile
  | stat
  | fileSize (found expected : Int)
  | negativeSeek (offset : Int)
  | seekBeyond (offset : Int) (size : Nat)
  | seek
  | eof
  | read
  deriving DecidableEq

structure SenderState where
  fileID : Bytes
  transferID : TransferID
  size : Nat
  chunkSize : Nat
  file : Bytes
  cursor : Nat
  sent : Nat
  /-- The bytes written to the hasher. -/
  hashed : Bytes
  deriving DecidableEq

/-- `file` is what `os.Open` finds at the path, and `stat` tells whether `Stat` succeeds. -/
def newSenderState (fid : Bytes) (tid : TransferID) (file : Option Bytes) (stat : Bool)
    (size chunkSize : Int) : Except SendError SenderState :=
  if fid = [] then .error .emptyFileID
  else if tid = emptyTransferID then .error .emptyTransferID
  else if size ≤ 0 then .error (.sizeNotPositive size)
  else if chunkSize ≤ 0 ∨ chunkSize > maxNDF1Payload then .error (.chunkSize chunkSize)
  else match file with
    | none => .error .openFile
    | some content =>
      if !stat then .error .stat
      else if (content.length : Int) ≠ size then .error (.fileSize content.length size)
      else .ok {
        fileID := fid
        transferID := tid
        size := size.toNat
        chunkSize := chunkSize.toNat
        file := content
        cursor := 0
        sent := 0
        hashed := [] }

/-- `moved` tells whether the seek of the file succeeds. -/
def SenderState.seekTo (s : SenderState) (offset : Int) (moved : Bool) :
    SenderState × Except SendError Unit :=
  if offset < 0 then (s, .error (.negativeSeek offset))
  else if offset > s.size then (s, .error (.seekBeyond offset s.size))
  else if moved then ({ s with sent := offset.toNat, cursor := offset.toNat }, .ok ())
  else ({ s with sent := offset.toNat }, .error .seek)

/-- `fault` is the number of bytes after which the read fails, if it does.  A file that ends
early gives a short frame. -/
def SenderState.nextFrame (s : SenderState) (fault : Option Nat) :
    SenderState × Except SendError NDF1Frame :=
  if s.sent ≥ s.size then (s, .error .eof)
  else
    let remaining := s.size - s.sent
    let readSize := if s.chunkSize > remaining then remaining else s.chunkSize
    let buf := (s.file.drop s.cursor).take readSize
    match fault with
    | some n => ({ s with cursor := s.cursor + (buf.take n).length }, .error .read)
    | none =>
      let after := { s with
        cursor := s.cursor + buf.length
        hashed := s.hashed ++ buf
        sent := s.sent + buf.length }
      (after, .ok (newNDF1Frame s.transferID ((after.sent - buf.length) % 2 ^ 64) buf))

/-- `NextFrame` until `io.EOF`, in at most `fuel` calls. -/
def SenderState.drain : Nat → SenderState → Option (List NDF1Frame × SenderState)
  | 0, _ => none
  | fuel + 1, s =>
    match s.nextFrame none with
    | (last, .error .eof) => some ([], last)
    | (_, .error _) => none
    | (after, .ok frame) =>
      match drain fuel after with
      | none => none
      | some (rest, last) => some (frame :: rest, last)

/-! ## A sender part way through its file -/

/-- The sender has `position` bytes of the content behind it. -/
structure SenderState.At (s : SenderState) (content : Bytes) (position : Nat) : Prop where
  file : s.file = content
  size : s.size = content.length
  cursor : s.cursor = position
  sent : s.sent = position
  within : position ≤ content.length
  chunk : 0 < s.chunkSize ∧ s.chunkSize ≤ maxNDF1Payload

variable {s : SenderState} {content : Bytes}

theorem newSenderState_at (named : fid ≠ [])
    (identified : tid ≠ emptyTransferID) (nonempty : content ≠ [])
    (positive : 1 ≤ chunkSize) (bounded : chunkSize ≤ maxNDF1Payload) :
    ∃ s, newSenderState fid tid (some content) true content.length chunkSize = .ok s ∧
      s.At content 0 := by
  have length : 0 < content.length := List.length_pos_iff.mpr nonempty
  refine ⟨⟨fid, tid, content.length, chunkSize, content, 0, 0, []⟩, ?_, rfl, rfl, rfl, rfl,
    Nat.zero_le _, positive, bounded⟩
  unfold newSenderState
  rw [if_neg named, if_neg identified, if_neg (by omega), if_neg (by omega)]
  simp

theorem SenderState.At.seekTo (there : s.At content position) (inside : offset ≤ content.length) :
    ∃ s', s.seekTo offset true = (s', .ok ()) ∧ s'.At content offset := by
  have size := there.size
  refine ⟨{ s with sent := offset, cursor := offset }, ?_, there.file, there.size, rfl, rfl, inside,
    there.chunk⟩
  rw [SenderState.seekTo, if_neg (by omega), if_neg (by omega)]
  rfl

theorem SenderState.At.eof (done : s.At content content.length) :
    s.nextFrame none = (s, .error .eof) := by
  rw [SenderState.nextFrame, if_pos (by rw [done.sent, done.size])]

theorem SenderState.At.nextFrame (there : s.At content position)
    (small : content.length < 2 ^ 63) (more : position < content.length) :
    ∃ s' frame, s.nextFrame none = (s', .ok frame) ∧ frame.Sound ∧
      frame.header.offset = position ∧ frame.payload ≠ [] ∧
      (content.drop position).take frame.payload.length = frame.payload ∧
      s'.At content (position + frame.payload.length) := by
  obtain ⟨_, _⟩ := there.chunk
  have size := there.size
  have sent := there.sent
  let readSize := if s.chunkSize > s.size - s.sent then s.size - s.sent else s.chunkSize
  have reads : 0 < readSize ∧ readSize ≤ s.chunkSize ∧ readSize ≤ content.length - position := by
    grind
  let payload := (content.drop position).take readSize
  have length : payload.length = readSize := by
    rw [List.length_take, List.length_drop]
    exact Nat.min_eq_left reads.2.2
  obtain ⟨made, sound⟩ : newNDF1Frame s.transferID position payload =
      ⟨⟨s.transferID, position, payload.length⟩, payload⟩ ∧
      (newNDF1Frame s.transferID position payload).Sound :=
    newNDF1Frame_sound (by omega) (by omega)
  rw [made] at sound
  refine ⟨{ s with
      cursor := s.cursor + payload.length
      hashed := s.hashed ++ payload
      sent := s.sent + payload.length }, ⟨⟨s.transferID, position, payload.length⟩, payload⟩, ?_,
    sound, rfl, ?_, ?_, ?_⟩
  · grind [SenderState.At, SenderState.nextFrame]
  · grind
  · rw [length]
  · grind [SenderState.At]

/-! ## A file that changes -/

/-- `NextFrame` when it meets the content and the fault. -/
def SenderState.call (s : SenderState) (met : Bytes × Option Nat) :
    SenderState × Except SendError NDF1Frame :=
  { s with file := met.1 }.nextFrame met.2

/-- The sender after `n` calls; `world` tells what each of them meets. -/
def SenderState.after (s : SenderState) (world : Nat → Bytes × Option Nat) : Nat → SenderState
  | 0 => s
  | n + 1 => ((s.after world n).call (world n)).1

/-- The first `n` calls return frames, and none of these is empty. -/
def SenderState.Delivers (s : SenderState) (world : Nat → Bytes × Option Nat) (n : Nat) : Prop :=
  ∀ i < n, ∃ frame, ((s.after world i).call (world i)).2 = .ok frame ∧ frame.payload ≠ []

/-- More is to be sent, but the file ends before the cursor. -/
def SenderState.Starved (s : SenderState) (met : Bytes × Option Nat) : Prop :=
  s.sent < s.size ∧ met.2 = none ∧ met.1.length ≤ s.cursor

variable {world : Nat → Bytes × Option Nat}

theorem call_cases (positive : 0 < s.chunkSize) (met : Bytes × Option Nat) :
    (∃ e, (s.call met).2 = .error e ∧ ¬s.Starved met) ∨
      ∃ frame, (s.call met).2 = .ok frame ∧ (frame.payload = [] ↔ s.Starved met) ∧
        (frame.payload ≠ [] → s.sent < (s.call met).1.sent) ∧
        (s.call met).1.sent ≤ s.size := by
  obtain ⟨_, fault⟩ := met
  unfold SenderState.call SenderState.nextFrame SenderState.Starved
  dsimp only
  split
  · exact .inl ⟨_, rfl, by omega⟩
  cases fault with
  | some n => exact .inl ⟨_, rfl, nofun⟩
  | none =>
    refine .inr ⟨_, rfl, ?_, ?_, ?_⟩
    · simp [newNDF1Frame, maxNDF1Payload]
      grind
    · simp [newNDF1Frame, maxNDF1Payload]
      omega
    · grind

theorem after_fixed (world : Nat → Bytes × Option Nat) (n : Nat) :
    (s.after world n).chunkSize = s.chunkSize ∧ (s.after world n).size = s.size := by
  induction n with
  | zero => exact ⟨rfl, rfl⟩
  | succ n ih =>
    rw [SenderState.after, SenderState.call, SenderState.nextFrame]
    split
    · exact ih
    · cases (world n).2 <;> exact ih

/-- Every frame brings the sender on, so that it cannot deliver more frames than bytes. -/
theorem SenderState.Delivers.sent_le (positive : 0 < s.chunkSize) (delivers : s.Delivers world n) :
    n = 0 ∨ n ≤ (s.after world n).sent ∧ (s.after world n).sent ≤ s.size := by
  induction n with
  | zero => exact .inl rfl
  | succ n ih =>
    right
    obtain ⟨_, called, nonempty⟩ := delivers n (Nat.lt_succ_self n)
    obtain ⟨chunk, _⟩ := after_fixed world n
    have before := ih fun i less => delivers i (Nat.lt_succ_of_lt less)
    rw [SenderState.after]
    rcases call_cases (chunk ▸ positive) (world n) with ⟨e, failed, _⟩ | ⟨_, same, _, more, _⟩
    · cases called.symm.trans failed
    · cases called.symm.trans same
      have progress := more nonempty
      omega

/-- A sender that was opened and perhaps moved ends after at most as many frames as bytes, none of
them empty, if and only if no read comes to the end of a file that has become too short. -/
theorem sender_terminates_iff
    (opened : newSenderState fid tid file stat size chunkSize = .ok s) (offset : Int) (moved : Bool)
    (world : Nat → Bytes × Option Nat) : let s := (s.seekTo offset moved).1
    (∃ n ≤ s.size, s.Delivers world n ∧ ∃ e, ((s.after world n).call (world n)).2 = .error e) ↔
      ∀ n, s.Delivers world n → ¬(s.after world n).Starved (world n) := by
  intro t
  have chunk : 0 < s.chunkSize := by cases file <;> grind [newSenderState]
  have positive : 0 < t.chunkSize := by
    suffices same : t.chunkSize = s.chunkSize by omega
    dsimp only [t, SenderState.seekTo]
    split_ifs <;> rfl
  have here (n) := call_cases ((after_fixed world n).1 ▸ positive) (world n)
  constructor
  · rintro ⟨n, _, delivers, e, failed⟩ m _ _
    rcases Nat.lt_trichotomy m n with less | rfl | less
    · grind [SenderState.Delivers]
    · grind
    · grind [SenderState.Delivers]
  · intro fed
    by_contra endless
    -- Without an end every call delivers one more frame.
    have delivers (n) : t.Delivers world n := by
      induction n with
      | zero => exact nofun
      | succ n ih =>
        have few := ih.sent_le positive
        rcases here n with ⟨e, failed, _⟩ | ⟨frame, called, empty, _⟩
        · exact absurd ⟨n, by omega, ih, e, failed⟩ endless
        · intro i less
          rcases Nat.lt_succ_iff_lt_or_eq.mp less with earlier | rfl
          · exact ih i earlier
          · exact ⟨frame, called, fun none_ => fed i ih (empty.mp none_)⟩
    have most := (delivers (t.size + 1)).sent_le positive
    omega

def sampleSender : SenderState :=
  ⟨[1], ⟨2 :: List.replicate 15 0, by decide⟩, 2, 1, [1, 2], 0, 0, []⟩

theorem sender_terminates_iff_steady :
    let world := fun _ : Nat => (([1, 2] : Bytes), (none : Option Nat))
    let s := (sampleSender.seekTo 0 true).1
    newSenderState [1] sampleSender.transferID (some [1, 2]) true 2 1 = .ok sampleSender ∧
    ((∃ n ≤ s.size, s.Delivers world n ∧ ∃ e, ((s.after world n).call (world n)).2 = .error e) ↔
      ∀ n, s.Delivers world n → ¬(s.after world n).Starved (world n)) := by
  have opened : newSenderState [1] sampleSender.transferID (some [1, 2]) true 2 1 =
      .ok sampleSender := by decide
  exact ⟨opened, sender_terminates_iff opened 0 true _⟩

/-- After the file has lost its bytes every call returns an empty frame. -/
theorem truncated_file_endless :
    newSenderState [1] sampleSender.transferID (some [1, 2]) true 2 1 = .ok sampleSender ∧
      ∀ n, ((sampleSender.after (fun _ => ([], none)) n).call ([], none)).2 =
        .ok ⟨⟨sampleSender.transferID, 0, 0⟩, []⟩ := by
  refine ⟨by decide, fun n => ?_⟩
  have still : { sampleSender.after (fun _ => ([], none)) n with file := [] } =
      { sampleSender with file := [] } := by
    induction n with
    | zero => rfl
    | succ n ih =>
      rw [SenderState.after, SenderState.call, ih]
      rfl
  rw [SenderState.call, still]
  rfl

end NeonDoll.FileTransfer
