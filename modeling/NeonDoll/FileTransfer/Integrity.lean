import NeonDoll.FileTransfer.Receiver

/-!
# Integrity of received files

The digest is taken over the bytes written to the hasher, while the file that `Complete` renames
is the partial one.  The two agree as long as every opening finds or leaves a partial file of at
most the offered size, no two receive states in use share a file, and a copy that fails has
hashed nothing.  A longer stale file, or a reader that fails in the middle of a frame, makes
`Complete` accept a file of another length or digest.
-/

namespace NeonDoll.FileTransfer

open Lib List Nat Directory

/-! ## One reception -/

/-- The hasher has seen what the partial file begins with, and the file is not too long. -/
structure Kept (dir : Directory) (rs : ReceiveState) : Prop where
  length : rs.hashed.length = rs.retained
  bytes : (dir.contents rs.tmpPath).take rs.retained = rs.hashed
  within : (dir.contents rs.tmpPath).length ≤ rs.size

/-- Effect of an operation on a receive state and the directory. -/
structure Advances (dir dir' : Directory) (rs rs' : ReceiveState) : Prop where
  tmpPath : rs'.tmpPath = rs.tmpPath
  filePath : rs'.filePath = rs.filePath
  size : rs'.size = rs.size
  sha256 : rs'.sha256 = rs.sha256
  elsewhere : ∀ name, name ≠ rs.tmpPath → name ≠ rs.filePath → dir'.lookup name = dir.lookup name
  unfinished : rs'.completed = false → rs.completed = false
  finished : rs.completed = true → dir' = dir
  kept : Kept dir rs → rs'.completed = false → Kept dir' rs'

variable {dir dir' : Directory} {rs rs' : ReceiveState}

theorem Advances.refl (dir : Directory) (rs : ReceiveState) : Advances dir dir rs rs :=
  ⟨rfl, rfl, rfl, rfl, fun _ _ _ => rfl, id, fun _ => rfl, fun kept _ => kept⟩

theorem Kept.inside (kept : Kept dir rs) : rs.retained ≤ (dir.contents rs.tmpPath).length := by
  have length := kept.length
  rw [← kept.bytes, length_take] at length
  omega

/-- What happens to other files does not matter. -/
theorem Kept.frame (kept : Kept dir rs) (same : dir'.lookup rs.tmpPath = dir.lookup rs.tmpPath) :
    Kept dir' rs := by
  have contents := contents_congr same
  refine ⟨kept.length, ?_, ?_⟩
  · rw [contents, kept.bytes]
  · rw [contents]
    exact kept.within

section

variable (unfinished : rs.completed = false)

include unfinished

/-- The partial file is replaced; the receive state may count and hash more. -/
theorem Advances.of_store
    (kept : Kept dir rs → hashed.length = retained ∧ file.take retained = hashed ∧
      file.length ≤ rs.size) : Advances dir (dir.store rs.tmpPath file) rs
      { rs with retained := retained, hashed := hashed } where
  tmpPath := rfl
  filePath := rfl
  size := rfl
  sha256 := rfl
  elsewhere := fun _ differ _ => lookup_store_ne differ
  unfinished := id
  finished := fun finished => nomatch unfinished.symm.trans finished
  kept := by grind [contents_store, Kept]

theorem create_advances :
    Advances dir (dir.create rs.tmpPath) rs rs :=
  Advances.of_store unfinished fun kept => ⟨kept.length, kept.bytes, kept.within⟩

theorem writeAt_advances : Advances dir (rs.writeAt dir offset payload outcome).1 rs
      (rs.writeAt dir offset payload outcome).2.1 := by
  unfold ReceiveState.writeAt
  split
  · exact .refl dir rs
  rename_i same
  have offset_eq : offset = rs.retained := of_not_not same
  subst offset_eq
  split
  · exact .refl dir rs
  cases outcome with
  | openFailed => exact .refl dir rs
  | seekFailed => exact create_advances unfinished
  | writeFailed n =>
    -- The bytes of a failed write lie behind those that count.
    refine Advances.of_store unfinished fun kept => ⟨kept.length, ?_, ?_⟩
    · rw [take_offset_overwrite kept.inside, kept.bytes]
    · apply length_overwrite_le kept.inside kept.within
      have shorter : (payload.take n).length ≤ payload.length := length_take_le' n payload
      omega
  | written =>
    refine Advances.of_store unfinished fun kept => ⟨?_, ?_, ?_⟩
    · rw [length_append, kept.length]
    · rw [take_overwrite kept.inside, kept.bytes]
    · exact length_overwrite_le kept.inside kept.within (by omega)

end

theorem writeFrame_advances (dir : Directory) (rs : ReceiveState) (frame : NDF1Frame)
    (outcome : WriteOutcome) : Advances dir (rs.writeFrame dir frame outcome).1 rs
      (rs.writeFrame dir frame outcome).2.1 := by
  unfold ReceiveState.writeFrame
  split
  · exact .refl dir rs
  · rename_i unfinished
    exact writeAt_advances (Bool.eq_false_of_not_eq_true unfinished)

/-! ## Copies -/

/-- Part way through a copy: the file continues with what the hasher has got. -/
structure Copying (offset total bound : Nat) (c : Copied) : Prop where
  length : c.hashed.length = offset + c.written
  bytes : c.file.take (offset + c.written) = c.hashed
  written : c.written ≤ total
  within : c.file.length ≤ bound

theorem Copying.inside
    (copying : Copying offset total bound c) : offset + c.written ≤ c.file.length := by
  have length := copying.length
  rw [← copying.bytes, length_take] at length
  omega

theorem copyN_copying (fits : offset + total ≤ bound)
    (pieces : List Piece) (copying : Copying offset total bound c) :
    Copying offset total bound (copyN offset total pieces c) := by
  induction pieces generalizing c with
  | nil => exact copying
  | cons piece rest ih =>
    have written := copying.written
    have short : (piece.data.take (total - c.written)).length ≤ total - c.written :=
      length_take_le _ _
    rw [copyN]
    generalize piece.data.take (total - c.written) = data at short ⊢
    split
    · have part : (data.take piece.accepted).length ≤ data.length := length_take_le' _ _
      refine ⟨copying.length, ?_, copying.written, ?_⟩
      · rw [take_offset_overwrite copying.inside, copying.bytes]
      · exact length_overwrite_le copying.inside copying.within (by omega)
    · apply ih
      refine ⟨?_, ?_, ?_, ?_⟩
      · rw [length_append, copying.length, add_assoc]
      · rw [← add_assoc, take_overwrite copying.inside, copying.bytes]
      · dsimp only
        omega
      · exact length_overwrite_le copying.inside copying.within (by omega)

theorem Kept.copying (kept : Kept dir rs) (fits : rs.retained + total ≤ rs.size)
    (pieces : List Piece) : Copying rs.retained total rs.size (rs.copy dir total pieces) := by
  apply copyN_copying fits
  exact ⟨kept.length, kept.bytes, zero_le _, kept.within⟩

/-- The frame is the next one and does not exceed the file. -/
def ReceiveState.Admits (rs : ReceiveState) (frame : NDF1Frame) : Prop :=
  rs.completed = false ∧ frame.header.offset = rs.retained ∧
    rs.retained + frame.header.length ≤ rs.size

instance (rs : ReceiveState) (frame : NDF1Frame) : Decidable (rs.Admits frame) :=
  inferInstanceAs (Decidable (_ ∧ _ ∧ _))

/-- A frame that is copied at all is copied completely, or fails before anything is hashed. -/
def ReceiveState.CopiesWhole (dir : Directory) (rs : ReceiveState) (frame : NDF1Frame) :
    CopyOutcome → Prop
  | .copied pieces =>
    rs.Admits frame →
      (rs.copy dir frame.header.length pieces).written = frame.header.length ∨
        (rs.copy dir frame.header.length pieces).hashed = rs.hashed
  | _ => True

instance (dir : Directory) (rs : ReceiveState) (frame : NDF1Frame) (outcome : CopyOutcome) :
    Decidable (rs.CopiesWhole dir frame outcome) :=
  match outcome with
  | .openFailed => inferInstanceAs (Decidable True)
  | .seekFailed => inferInstanceAs (Decidable True)
  | .copied _ => inferInstanceAs (Decidable (_ → _ ∨ _))

theorem writeFrameFromReader_advances
    (whole : rs.CopiesWhole dir frame outcome) :
    Advances dir (rs.writeFrameFromReader dir frame outcome).1 rs
      (rs.writeFrameFromReader dir frame outcome).2.1 := by
  unfold ReceiveState.writeFrameFromReader
  split
  · exact .refl dir rs
  rename_i notFinished
  have unfinished : rs.completed = false := Bool.eq_false_of_not_eq_true notFinished
  split
  · exact .refl dir rs
  rename_i same
  split
  · exact .refl dir rs
  rename_i fits
  have within : rs.retained + frame.header.length ≤ rs.size := Nat.le_of_not_lt fits
  cases outcome with
  | openFailed => exact .refl dir rs
  | seekFailed => exact create_advances unfinished
  | copied pieces =>
    dsimp only
    split
    · refine Advances.of_store unfinished fun kept => ?_
      have copying := kept.copying within pieces
      exact ⟨copying.length, copying.bytes, copying.within⟩
    rename_i short
    have admitted : rs.Admits frame := ⟨unfinished, of_not_not same, within⟩
    have nothing := (whole admitted).resolve_left short
    refine Advances.of_store unfinished fun kept => ?_
    have copying := kept.copying within pieces
    have length := copying.length
    rw [nothing, kept.length] at length
    -- Nothing was hashed, so the copy has counted nothing either.
    have none_written : (rs.copy dir frame.header.length pieces).written = 0 := by omega
    have bytes := copying.bytes
    rw [none_written, Nat.add_zero] at bytes
    rw [nothing] at bytes ⊢
    exact ⟨kept.length, bytes, copying.within⟩

/-! ## Completion -/

section Completion

variable {sha256 : Bytes → Bytes}

theorem complete_ok (done : rs.complete sha256 dir renamed = (moved, rs', .ok ())) :
    rs.completed = false ∧ rs.retained = rs.size ∧ sha256Hex sha256 rs.hashed = rs.sha256 ∧
      dir.rename? rs.tmpPath rs.filePath = some moved ∧ rs' = { rs with completed := true } := by
  grind [ReceiveState.complete]

theorem complete_advances :
    Advances dir (rs.complete sha256 dir renamed).1 rs (rs.complete sha256 dir renamed).2.1 := by
  rcases result : rs.complete sha256 dir renamed with ⟨_, _, _ | ⟨⟩⟩
  · -- A failing completion leaves everything as it was.
    constructor <;> grind [ReceiveState.complete]
  · obtain ⟨before, -, -, promoted, rfl⟩ := complete_ok result
    exact ⟨rfl, rfl, rfl, rfl, fun _ fromTmp fromFile =>
      lookup_rename?_ne promoted fromTmp fromFile, nofun,
      (fun finished => nomatch before.symm.trans finished),
      nofun⟩

theorem Kept.completed (kept : Kept dir rs)
    (done : rs.complete sha256 dir renamed = (moved, rs', .ok ())) :
    ∃ file, moved.lookup rs.filePath = some file ∧ file.length = rs.size ∧
      sha256Hex sha256 file = rs.sha256 := by
  obtain ⟨-, whole, digest, promoted, -⟩ := complete_ok done
  have inside := kept.inside
  have within := kept.within
  have length : (dir.contents rs.tmpPath).length = rs.size := by omega
  have same : dir.contents rs.tmpPath = rs.hashed := by
    rw [← kept.bytes, whole, ← length, take_length]
  refine ⟨dir.contents rs.tmpPath, lookup_rename?_new promoted, length, ?_⟩
  rw [same, digest]

end Completion

/-! ## Openings -/

/-- A receive state belongs to an offer. -/
@[grind] structure ReceiveState.For (rs : ReceiveState) (offer : Offer) : Prop where
  size : (rs.size : Int) = offer.size
  sha256 : rs.sha256 = offer.sha256
  filePath : rs.filePath = sanitizeName offer.fileID
  tmpPath : rs.tmpPath = partialName offer.fileID

/-- What a successful opening leaves. -/
@[grind] structure Opening (dir dir' : Directory) (offer : Offer) (rs : ReceiveState) : Prop where
  offered : rs.For offer
  unfinished : rs.completed = false
  kept : Kept dir' rs
  elsewhere : ∀ name, name ≠ partialName offer.fileID → dir'.lookup name = dir.lookup name

/-- The stale partial file of an offer is not longer than the offered file. -/
def Offer.Short (offer : Offer) (dir : Directory) : Prop :=
  (dir.contents (partialName offer.fileID)).length ≤ offer.size.toNat

instance (offer : Offer) (dir : Directory) : Decidable (offer.Short dir) :=
  inferInstanceAs (Decidable (_ ≤ _))

variable {offer : Offer}

variable {mkdir : Bool}

section

variable (made : newReceiveState offer mkdir = .ok rs)

include made

theorem newReceiveState_ok :
    rs.For offer ∧ rs.size = offer.size.toNat ∧ rs.completed = false ∧ rs.retained = 0 ∧
      rs.hashed = [] := by grind [newReceiveState]

theorem newReceiveState_kept
    (short : offer.Short dir) : Kept dir rs := by
  obtain ⟨offered, size, -, retained, hashed⟩ := newReceiveState_ok made
  refine ⟨?_, ?_, ?_⟩
  · rw [hashed, retained, length_nil]
  · rw [hashed, retained, take_zero]
  · rw [offered.tmpPath, size]
    exact short

theorem newReceiveState_opening
    (short : offer.Short dir) : Opening dir dir offer rs := by
  obtain ⟨offered, -, unfinished, -, -⟩ := newReceiveState_ok made
  exact ⟨offered, unfinished, newReceiveState_kept made short, fun _ _ => rfl⟩

end

theorem openRetained_error
    (result : openRetained dir offer outcome = (dir', .error e)) : dir' = dir := by
  grind [openRetained]

theorem openRetained_opening
    (result : openRetained dir offer outcome = (dir', .ok rs))
    (short : outcome.remove = false → offer.Short dir) : Opening dir dir' offer rs := by
  unfold openRetained at result
  split at result
  · cases result
  rename_i fresh made
  obtain ⟨_, _, _, _, _⟩ := newReceiveState_ok made
  split at result
  · split at result
    · -- No partial file.
      grind [Kept, Directory.contents]
    · rename_i file found
      have contents : dir.contents fresh.tmpPath = file := contents_of_lookup found
      split at result
      · cases result
        cases removed : outcome.remove with
        | true =>
          -- The longer file is gone.
          grind [Kept, Directory.contents]
        | false => grind [Offer.Short]
      · grind [Kept]
  · cases result

/-! ## Runs -/

namespace Receiver

/-- No unfinished receive state in use has a file in common with the offer. -/
def Unshared (s : Receiver) (offer : Offer) : Prop :=
  ∀ entry ∈ s.receives.entries, entry.2.completed = false →
    entry.2.tmpPath ≠ partialName offer.fileID ∧ entry.2.filePath ≠ partialName offer.fileID ∧
      entry.2.tmpPath ≠ sanitizeName offer.fileID

instance (s : Receiver) (offer : Offer) : Decidable (s.Unshared offer) :=
  inferInstanceAs (Decidable (∀ entry ∈ s.receives.entries, _ → _ ∧ _ ∧ _))

/-- The steps that keep file and hasher together. -/
def Clean (s : Receiver) : ReceiverAction → Prop
  | .newReceiveState offer _ => s.Unshared offer ∧ offer.Short s.storage
  | .openRetained offer outcome =>
    s.Unshared offer ∧ (outcome.remove = false → offer.Short s.storage)
  | .writeFrameFromReader receive frame outcome =>
    ∀ rs ∈ s.receives.lookup receive, rs.CopiesWhole s.storage frame outcome
  | _ => True

instance (s : Receiver) (a : ReceiverAction) : Decidable (s.Clean a) :=
  match a with
  | .newReceiveState _ _ => inferInstanceAs (Decidable (_ ∧ _))
  | .openRetained _ _ => inferInstanceAs (Decidable (_ ∧ (_ → _)))
  | .writeFrame _ _ _ => inferInstanceAs (Decidable True)
  | .writeFrameFromReader receive _ _ =>
    inferInstanceAs (Decidable (∀ rs ∈ s.receives.lookup receive, _))
  | .complete _ _ => inferInstanceAs (Decidable True)
  | .abandon _ => inferInstanceAs (Decidable True)

/-- Everything a clean step can do. -/
inductive Moves (s : Receiver) : Receiver → List ReceiverEvent → Prop where
  | refused (e : ReceiveError) : Moves s s [.notOpened e]
  | opened {offer : Offer} {dir : Directory} {rs : ReceiveState} :
      Opening s.storage dir offer rs → s.Unshared offer →
      Moves s ⟨dir, s.receives.insert s.opened rs, s.opened + 1⟩ [.opened s.opened offer]
  | advanced {receive : Nat} {dir : Directory} {rs rs' : ReceiveState} (event : ReceiverEvent) :
      s.receives.lookup receive = some rs → Advances s.storage dir rs rs' →
      Moves s { s with storage := dir, receives := s.receives.insert receive rs' } [event]
  | abandoned (receive : Nat) :
      Moves s { s with receives := s.receives.erase receive } [.abandoned receive]

variable {sha256 : Bytes → Bytes} {s t : Receiver} {a : ReceiverAction}
  {events trace : List ReceiverEvent}

variable {receive : Nat}

theorem apply_moves
    (stepped : s.apply receive done operation = some (t, events))
    (advances : ∀ rs, s.receives.lookup receive = some rs →
      Advances s.storage (operation rs).1 rs (operation rs).2.1) : Moves s t events := by
  rw [apply] at stepped
  split at stepped
  · cases stepped
  · rename_i rs found
    cases stepped
    exact .advanced _ found (advances rs found)

theorem step_moves (clean : s.Clean a) (stepped : step? sha256 s a = some (t, events)) :
    Moves s t events := by
  cases a with
  | newReceiveState offer mkdir =>
    obtain ⟨unshared, short⟩ := clean
    cases made : newReceiveState offer mkdir <;> rw [step?, made] at stepped
    case error e =>
      cases stepped
      exact .refused e
    case ok rs =>
      cases stepped
      exact .opened (newReceiveState_opening made short) unshared
  | openRetained offer outcome =>
    obtain ⟨unshared, short⟩ := clean
    rcases made : openRetained s.storage offer outcome with ⟨_, e | rs⟩
    · rw [step?, made, openRetained_error made] at stepped
      cases stepped
      exact .refused e
    · rw [step?, made] at stepped
      cases stepped
      exact .opened (openRetained_opening made short) unshared
  | writeFrame receive frame outcome =>
    exact apply_moves stepped fun rs _ => writeFrame_advances s.storage rs frame outcome
  | writeFrameFromReader receive frame outcome =>
    exact apply_moves stepped fun rs found => writeFrameFromReader_advances (clean rs found)
  | complete receive renamed =>
    exact apply_moves stepped fun rs _ => complete_advances
  | abandon receive =>
    cases stepped
    exact .abandoned receive

/-- Every unfinished receive state in use agrees with its partial file, which it has alone. -/
@[grind] structure Intact (s : Receiver) : Prop where
  below : ∀ receive rs, s.receives.lookup receive = some rs → receive < s.opened
  kept : ∀ receive rs, s.receives.lookup receive = some rs → rs.completed = false →
    Kept s.storage rs
  apart : ∀ receive receive' rs rs', receive ≠ receive' → s.receives.lookup receive = some rs →
    s.receives.lookup receive' = some rs' → rs.completed = false → rs'.completed = false →
    rs'.tmpPath ≠ rs.tmpPath ∧ rs'.tmpPath ≠ rs.filePath

theorem init_intact (sha256 : Bytes → Bytes) (storage : Directory) :
    (system sha256 storage).init.Intact where
  below := nofun
  kept := nofun
  apart := nofun

theorem opened_intact (intact : s.Intact)
    (opening : Opening s.storage dir offer rs) (unshared : s.Unshared offer) :
    Intact ⟨dir, s.receives.insert s.opened rs, s.opened + 1⟩ := by
  have others : ∀ receive other, s.receives.lookup receive = some other →
      other.completed = false → other.tmpPath ≠ rs.tmpPath ∧ other.filePath ≠ rs.tmpPath ∧
        other.tmpPath ≠ rs.filePath := by
    intro receive other found
    rw [opening.offered.tmpPath, opening.offered.filePath]
    exact unshared ⟨receive, other⟩ (AList.mem_lookup_iff.mp found)
  refine ⟨?_, ?_, ?_⟩
  · grind
  · intro receive other found unfinished
    rw [GoMap.lookup_insert_ite] at found
    split at found
    · cases found
      exact opening.kept
    apply (intact.kept receive other found unfinished).frame
    apply opening.elsewhere
    rw [← opening.offered.tmpPath]
    exact (others receive other found unfinished).1
  · grind

theorem advanced_intact (intact : s.Intact) (found : s.receives.lookup receive = some rs)
    (advances : Advances s.storage dir rs rs') :
    Intact { s with storage := dir, receives := s.receives.insert receive rs' } := by
  -- The state under every number is one from before, advanced at `receive`.
  have before : ∀ number after, (s.receives.insert receive rs').lookup number = some after →
      (number = receive ∧ after = rs') ∨
        (number ≠ receive ∧ s.receives.lookup number = some after) := by grind
  refine ⟨?_, ?_, ?_⟩
  · grind
  · intro number after found' unfinished
    obtain ⟨rfl, rfl⟩ | ⟨_, old⟩ := before number after found'
    · exact advances.kept (intact.kept number rs found (advances.unfinished unfinished)) unfinished
    apply (intact.kept number after old unfinished).frame
    cases finished : rs.completed with
    | true => rw [advances.finished finished]
    | false => grind [Advances]
  · grind [Advances]

theorem Moves.intact (moves : Moves s t events) (intact : s.Intact) : t.Intact := by
  cases moves with
  | refused => exact intact
  | opened opening unshared => exact opened_intact intact opening unshared
  | advanced _ found advances => exact advanced_intact intact found advances
  | abandoned receive => grind

/-- Every receive state in use belongs to the offer it was opened for. -/
def Offered (trace : List ReceiverEvent) (s : Receiver) : Prop :=
  ∀ receive rs, s.receives.lookup receive = some rs →
    ∃ offer, .opened receive offer ∈ trace ∧ rs.For offer

theorem Moves.offered (moves : Moves s t events) (offered : Offered trace s) :
    Offered (trace ++ events) t := by
  have earlier : Offered (trace ++ events) s := by
    intro receive rs found
    obtain ⟨offer, opened, belongs⟩ := offered receive rs found
    exact ⟨offer, mem_append_left events opened, belongs⟩
  intro receive after found
  cases moves with
  | refused => exact earlier receive after found
  | opened opening unshared | abandoned number => grind [Offered]
  | @advanced number dir rs rs' event old advances =>
    rcases GoMap.lookup_insert_some found with ⟨same, rfl⟩ | ⟨-, found⟩
    · rw [same]
      obtain ⟨offer, opened, belongs⟩ := earlier number rs old
      refine ⟨offer, opened, ?_, ?_, ?_, ?_⟩
      · rw [advances.size, belongs.size]
      · rw [advances.sha256, belongs.sha256]
      · rw [advances.filePath, belongs.filePath]
      · rw [advances.tmpPath, belongs.tmpPath]
    · exact earlier receive after found

theorem clean_run {storage : Directory}
    (run : (system sha256 storage).Run Clean (system sha256 storage).init trace s) :
    s.Intact ∧ Offered trace s := by
  apply run.history (P := fun past x => Intact x ∧ Offered past x)
  · exact ⟨init_intact sha256 storage, nofun⟩
  · intro x y a past es before clean stepped
    have moves := step_moves clean stepped
    exact ⟨moves.intact before.1, moves.offered before.2⟩

/-- After every clean run over a storage directory with any content, `Complete` returns nil only
when the file at the final path has the offered size and digest. -/
theorem completed_file_intact (sha256 : Bytes → Bytes) (storage : Directory)
    {trace : List ReceiverEvent} {s t : Receiver} {receive : Nat} {renamed : Bool}
    (run : (system sha256 storage).Run Clean (system sha256 storage).init trace s)
    (done : step? sha256 s (.complete receive renamed) = some (t, [.completed receive])) :
    ∃ offer file, .opened receive offer ∈ trace ∧
      t.storage.lookup (sanitizeName offer.fileID) = some file ∧
      (file.length : Int) = offer.size ∧ sha256Hex sha256 file = offer.sha256 := by
  obtain ⟨intact, offered⟩ := clean_run run
  rw [step?, apply] at done
  split at done
  · cases done
  rename_i rs found
  rcases result : rs.complete sha256 s.storage renamed with ⟨_, _, e | ⟨⟩⟩
  · rw [result] at done
    cases done
  rw [result] at done
  cases done
  have kept := intact.kept receive rs found (complete_ok result).1
  obtain ⟨file, final, length, digest⟩ := kept.completed result
  obtain ⟨offer, opened, belongs⟩ := offered receive rs found
  refine ⟨offer, file, opened, ?_, ?_, ?_⟩
  · rw [← belongs.filePath]
    exact final
  · rw [length, belongs.size]
  · rw [digest, belongs.sha256]

/-! ## Sample runs -/

/-- A stand-in for SHA-256 that tells short inputs apart: the last 32 bytes. -/
def sampleSha256 (data : Bytes) : Bytes := (List.replicate 32 0 ++ data).drop data.length

def sampleTransfer : TransferID := ⟨1 :: List.replicate 15 0, by decide⟩

def sampleOffer (data : Bytes) : Offer :=
  ⟨Bytes.ascii "f".toList, sampleTransfer, 2, sha256Hex sampleSha256 data⟩

def sampleStorage (stale : Bytes) : Directory :=
  AList.singleton (partialName (Bytes.ascii "f".toList)) stale

/-- One retained byte and a failed write: the reception is resumed and completed. -/
theorem completed_file_intact_sample :
    ∃ trace s t, (system sampleSha256 (sampleStorage [7])).Run Clean
        (system sampleSha256 (sampleStorage [7])).init trace s ∧
      step? sampleSha256 s (.complete 0 true) = some (t, [.completed 0]) ∧
      ∃ offer file, .opened 0 offer ∈ trace ∧
        t.storage.lookup (sanitizeName offer.fileID) = some file ∧
        (file.length : Int) = offer.size ∧ sha256Hex sampleSha256 file = offer.sha256 := by
  have reached : (system sampleSha256 (sampleStorage [7])).reaches? Clean
      [.openRetained (sampleOffer [7, 8]) ⟨true, true, true, true, true⟩,
        .writeFrame 0 ⟨⟨sampleTransfer, 1, 1⟩, [8]⟩ (.writeFailed 1),
        .writeFrame 0 ⟨⟨sampleTransfer, 1, 1⟩, [8]⟩ .written]
      (.complete 0 true) (fun _ _ events => events = [.completed 0]) = true := by
    decide +kernel
  obtain ⟨trace, s, t, _, run, -, stepped, only⟩ := Transition.System.reaches?_run reached
  rw [of_decide_eq_true only] at stepped
  exact ⟨trace, s, t, run, stepped, completed_file_intact sampleSha256 _ run stepped⟩

/-- A stale partial file of three bytes leaves its last byte behind a file of two.  A reader that
fails after one byte leaves this byte in the hasher, and the digest that `Complete` then accepts
is not that of the file. -/
theorem completed_file_damaged :
    (∃ trace t offer file, (system sampleSha256 (sampleStorage [1, 2, 3])).Run Transition.free
        (system sampleSha256 (sampleStorage [1, 2, 3])).init (trace ++ [.completed 0]) t ∧
      .opened 0 offer ∈ trace ∧ t.storage.lookup (sanitizeName offer.fileID) = some file ∧
      (file.length : Int) ≠ offer.size) ∧
    ∃ trace t offer file, (system sampleSha256 ∅).Run Transition.free
        (system sampleSha256 ∅).init (trace ++ [.completed 0]) t ∧
      .opened 0 offer ∈ trace ∧ t.storage.lookup (sanitizeName offer.fileID) = some file ∧
      sha256Hex sampleSha256 file ≠ offer.sha256 := by
  constructor
  · have replayed : (system sampleSha256 (sampleStorage [1, 2, 3])).replays? Transition.free
        [.newReceiveState (sampleOffer [7, 8]) true,
          .writeFrame 0 ⟨⟨sampleTransfer, 0, 2⟩, [7, 8]⟩ .written, .complete 0 true]
        (fun trace t => trace = [.opened 0 (sampleOffer [7, 8]), .wrote 0, .completed 0] ∧
          t.storage.lookup (Bytes.ascii "f".toList) = some [7, 8, 3]) = true := by
      decide +kernel
    obtain ⟨trace, t, run, facts⟩ := Transition.System.replays?_run replayed
    obtain ⟨rfl, final⟩ := of_decide_eq_true facts
    exact ⟨[.opened 0 (sampleOffer [7, 8]), .wrote 0], t, sampleOffer [7, 8], [7, 8, 3], run,
      mem_cons_self, final, by decide⟩
  · have replayed : (system sampleSha256 ∅).replays? Transition.free
        [.newReceiveState (sampleOffer [5, 7, 8]) true,
          .writeFrameFromReader 0 ⟨⟨sampleTransfer, 0, 2⟩, []⟩ (.copied [⟨[5], 1⟩]),
          .writeFrame 0 ⟨⟨sampleTransfer, 0, 2⟩, [7, 8]⟩ .written, .complete 0 true]
        (fun trace t => trace = [.opened 0 (sampleOffer [5, 7, 8]), .failed 0 .copyFrame,
            .wrote 0, .completed 0] ∧
          t.storage.lookup (Bytes.ascii "f".toList) = some [7, 8]) = true := by
      decide +kernel
    obtain ⟨_, t, run, facts⟩ := Transition.System.replays?_run replayed
    obtain ⟨rfl, final⟩ := of_decide_eq_true facts
    exact ⟨[.opened 0 (sampleOffer [5, 7, 8]), .failed 0 .copyFrame, .wrote 0], t,
      sampleOffer [5, 7, 8], [7, 8], run, mem_cons_self, final, by decide +kernel⟩

end Receiver

/-! ## Retried frames -/

/-- The hasher has seen the first `Retained` bytes of the partial file. -/
def Digested (dir : Directory) (rs : ReceiveState) : Prop :=
  rs.hashed.length = rs.retained ∧ (dir.contents rs.tmpPath).take rs.retained = rs.hashed

theorem newReceiveState_digested (made : newReceiveState offer mkdir = .ok rs) (dir : Directory) :
    Digested dir rs := by
  obtain ⟨-, -, -, retained, hashed⟩ := newReceiveState_ok made
  rw [Digested, retained, hashed]
  exact ⟨rfl, take_zero⟩

theorem openRetained_digested (opened : openRetained dir offer outcome = (dir', .ok rs)) :
    Digested dir' rs := by
  unfold openRetained at opened
  split at opened
  · cases opened
  rename_i fresh made
  have nothing : ∀ dir, Digested dir fresh := newReceiveState_digested made
  split at opened
  · split at opened
    · cases opened
      exact nothing dir
    rename_i file found
    split at opened
    · cases opened
      exact nothing _
    split at opened
    · cases opened
      exact nothing dir
    split at opened
    · cases opened
    split at opened
    · cases opened
      refine ⟨rfl, ?_⟩
      rw [contents_of_lookup found, take_length]
    · cases opened
  · cases opened

inductive WriteCall where
  | payload (frame : NDF1Frame) (outcome : WriteOutcome)
  | reader (frame : NDF1Frame) (outcome : CopyOutcome)

def WriteCall.run (dir : Directory) (rs : ReceiveState) : WriteCall → Outcome
  | .payload frame outcome => rs.writeFrame dir frame outcome
  | .reader frame outcome => rs.writeFrameFromReader dir frame outcome

/-- No copy fails after a part of its frame was hashed. -/
def WriteCall.Whole (dir : Directory) (rs : ReceiveState) : WriteCall → Prop
  | .payload _ _ => True
  | .reader frame outcome => rs.CopiesWhole dir frame outcome

/-- `P` holds of every call in the state it is made in. -/
def AllCalls (P : Directory → ReceiveState → WriteCall → Prop) (dir : Directory)
    (rs : ReceiveState) : List WriteCall → Prop
  | [] => True
  | call :: calls =>
    P dir rs call ∧ AllCalls P (call.run dir rs).1 (call.run dir rs).2.1 calls

theorem writeFrame_digested (digested : Digested dir rs)
    (outcome : WriteOutcome) : Digested (rs.writeFrame dir frame outcome).1
      (rs.writeFrame dir frame outcome).2.1 := by
  cases outcome <;>
    grind [Digested, ReceiveState.writeFrame, ReceiveState.writeAt, create, contents_store,
      take_offset_overwrite, take_overwrite]

theorem copyN_hashed (offset length : Nat) (c : Copied) :
    c.hashed <+: (copyN offset length pieces c).hashed := by
  induction pieces generalizing c with
  | nil => exact prefix_rfl
  | cons piece rest ih =>
    rw [copyN]
    split
    · exact prefix_rfl
    · exact (prefix_append c.hashed _).trans (ih ⟨_, c.hashed ++ _, _⟩)

theorem writeFrameFromReader_digested_iff (digested : Digested dir rs)
    (outcome : CopyOutcome) : Digested (rs.writeFrameFromReader dir frame outcome).1
      (rs.writeFrameFromReader dir frame outcome).2.1 ↔ rs.CopiesWhole dir frame outcome := by
  cases outcome with
  | openFailed => grind [ReceiveState.writeFrameFromReader, ReceiveState.CopiesWhole]
  | seekFailed =>
    grind [ReceiveState.writeFrameFromReader, ReceiveState.CopiesWhole, create, contents_store,
      Digested]
  | copied pieces =>
    -- The bound on the file is of no account here.
    have copying : Copying rs.retained frame.header.length
        ((dir.contents rs.tmpPath).length + (rs.retained + frame.header.length))
        (rs.copy dir frame.header.length pieces) :=
      copyN_copying (by omega) pieces ⟨digested.1, digested.2, zero_le _, by dsimp only; omega⟩
    obtain ⟨length, bytes, -, -⟩ := copying
    unfold ReceiveState.writeFrameFromReader ReceiveState.CopiesWhole
    split
    · exact iff_of_true digested fun admits => by grind [ReceiveState.Admits]
    split
    · exact iff_of_true digested fun admits => by grind [ReceiveState.Admits]
    split
    · exact iff_of_true digested fun admits => by grind [ReceiveState.Admits]
    dsimp only
    split
    · rename_i whole
      exact iff_of_true ⟨length, by rw [contents_store, bytes]⟩ fun _ => .inl whole
    rename_i short
    have extends_ : rs.hashed <+: (rs.copy dir frame.header.length pieces).hashed :=
      copyN_hashed _ _ ⟨_, rs.hashed, 0⟩
    constructor
    · intro after _
      exact .inr (extends_.eq_of_length (digested.1.trans after.1.symm)).symm
    · intro whole
      have nothing := (whole (by grind [ReceiveState.Admits])).resolve_left short
      grind [contents_store, Digested]

/-- Every call leaves the digest of the first `Retained` bytes if and only if no copy of a reader
fails in the middle of its frame. -/
theorem digest_kept_iff (digested : Digested dir rs) :
    AllCalls (fun dir rs call => Digested (call.run dir rs).1 (call.run dir rs).2.1) dir rs calls ↔
      AllCalls WriteCall.Whole dir rs calls := by
  induction calls generalizing dir rs with
  | nil => rfl
  | cons call calls ih =>
    have one : Digested (call.run dir rs).1 (call.run dir rs).2.1 ↔ call.Whole dir rs := by
      cases call with
      | payload frame outcome => exact iff_of_true (writeFrame_digested digested outcome) trivial
      | reader frame outcome => exact writeFrameFromReader_digested_iff digested outcome
    rw [AllCalls, AllCalls, one]
    exact and_congr_right fun whole => ih (one.mpr whole)

def sampleReceive : ReceiveState :=
  ⟨Bytes.ascii "f".toList, Receiver.sampleTransfer, 2, [], 0, false, [], [], []⟩

/-- A frame of two bytes that is read as far as the pieces go. -/
def sampleRead (pieces : List Piece) : WriteCall :=
  .reader ⟨⟨Receiver.sampleTransfer, 0, 2⟩, []⟩ (.copied pieces)

theorem digest_kept_iff_whole : Digested ∅ sampleReceive ∧
      AllCalls (fun dir rs call => Digested (call.run dir rs).1 (call.run dir rs).2.1) ∅
        sampleReceive [sampleRead [⟨[7, 8], 2⟩]] :=
  ⟨⟨rfl, rfl⟩, (digest_kept_iff ⟨rfl, rfl⟩).mpr ⟨fun _ => .inl rfl, trivial⟩⟩

/-- A reader ends after one byte; sent again, this byte is in the digest twice. -/
theorem retried_frame_hashed_twice : let failed := (sampleRead [⟨[7], 1⟩]).run ∅ sampleReceive
    let retried := (sampleRead [⟨[7, 8], 2⟩]).run failed.1 failed.2.1
    Digested ∅ sampleReceive ∧ ¬Digested failed.1 failed.2.1 ∧ retried.2.2 = .ok () ∧
      retried.2.1.hashed = [7, 7, 8] ∧ retried.1.contents sampleReceive.tmpPath = [7, 8] :=
  ⟨⟨rfl, rfl⟩, fun digested => absurd digested.1 (by decide), by decide, by decide, by decide⟩

end NeonDoll.FileTransfer
