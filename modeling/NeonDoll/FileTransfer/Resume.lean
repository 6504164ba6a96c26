import NeonDoll.FileTransfer.Integrity

/-!
# Partial files of other transfers

`OpenRetained` of `DollLink/FileTransfer/receiver.go` knows the earlier transfer by the name and
the length of its partial file only, and different file ids can have the same paths.
-/

namespace NeonDoll.FileTransfer

open Lib Receiver

/-! ## Resuming -/

/-- What `ResumeMatch` asks for. -/
def Offer.sameFile (old new : Offer) : Prop :=
  old.fileID = new.fileID ∧ old.size = new.size ∧ old.sha256 = new.sha256

theorem openRetained_retained
    (opened : (openRetained dir offer outcome).2 = .ok rs)
    (left : dir.lookup (partialName offer.fileID) = some file) :
    rs.retained = if offer.size < file.length then 0 else file.length := by
  rw [openRetained] at opened
  split at opened
  · cases opened
  rename_i fresh _
  obtain ⟨path, size, _⟩ : fresh.tmpPath = partialName offer.fileID ∧
      (fresh.size : Int) = offer.size ∧ fresh.retained = 0 := by
    grind [newReceiveState]
  rw [path, left] at opened
  grind

/-- A transfer continues with the bytes of its own offer only, exactly if the earlier transfer with
its partial path was of this offer, or left nothing, or more than the new size. -/
theorem resumes_own_bytes_iff {dir : Directory} {old new : Offer} {rs : ReceiveState}
    (shared : partialName old.fileID = partialName new.fileID)
    (left : dir.lookup (partialName old.fileID) = some file)
    (opened : (openRetained dir new outcome).2 = .ok rs) : (rs.retained ≠ 0 → old.sameFile new) ↔
      old.sameFile new ∨ file = [] ∨ new.size < file.length := by
  rw [shared] at left
  rw [openRetained_retained opened left]
  by_cases more : new.size < file.length
  · simp [more]
  · cases file with
    | nil => simp
    | cons byte rest => simp_all

theorem resumes_own_bytes_iff_sample : ∃ rs,
    (openRetained (sampleStorage [7]) (sampleOffer [7, 8]) ⟨true, true, true, true, true⟩).2 =
        .ok rs ∧
      (rs.retained ≠ 0 → (sampleOffer [7, 8]).sameFile (sampleOffer [7, 8])) := by
  obtain ⟨rs, opened⟩ : ∃ rs, (openRetained (sampleStorage [7]) (sampleOffer [7, 8])
    ⟨true, true, true, true, true⟩).2 = .ok rs := ⟨_, rfl⟩
  exact ⟨rs, opened, (resumes_own_bytes_iff rfl rfl opened).mpr (.inl ⟨rfl, rfl, rfl⟩)⟩

/-- One byte of an offer is taken for the first byte of another file. -/
theorem resumes_foreign_bytes : ∃ first second rs₁ rs₁' rs₂,
    openRetained ∅ (sampleOffer [1, 2]) ⟨true, true, true, true, true⟩ = (first, .ok rs₁) ∧
      rs₁.writeFrame first ⟨⟨sampleTransfer, 0, 1⟩, [1]⟩ .written = (second, rs₁', .ok ()) ∧
      (openRetained second (sampleOffer [7, 8]) ⟨true, true, true, true, true⟩).2 = .ok rs₂ ∧
      rs₂.retained = 1 ∧ ¬(sampleOffer [1, 2]).sameFile (sampleOffer [7, 8]) :=
  ⟨_, _, _, _, _, rfl, rfl, rfl, rfl, fun same => absurd same.2.2 (by decide)⟩

/-! ## Paths -/

/-- `filepath.Join` of a directory, as its components, and a name without separators. -/
def joinPath (dir : List Bytes) (name : Bytes) : List Bytes :=
  if name = [] ∨ name = [46] then dir
  else if name = [46, 46] then dir.dropLast
  else dir ++ [name]

def filePath (dir : List Bytes) (fileID : FileID) : List Bytes := joinPath dir (sanitizeName fileID)

def tmpPath (dir : List Bytes) (fileID : FileID) : List Bytes := joinPath dir (partialName fileID)

/-- The path is that of an entry of the directory. -/
def Inside (dir path : List Bytes) : Prop := ∃ name, path = dir ++ [name]

/-- A name that does not lead out of a directory. -/
def plainName (name : Bytes) : Prop := name ≠ [] ∧ name ≠ [46] ∧ name ≠ [46, 46]

variable {dir : List Bytes} {name : Bytes}

theorem joinPath_plain (plain : plainName name) : joinPath dir name = dir ++ [name] := by
  obtain ⟨nonempty, dot, dots⟩ := plain
  rw [joinPath, if_neg (not_or.mpr ⟨nonempty, dot⟩), if_neg dots]

theorem inside_joinPath_iff : Inside dir (joinPath dir name) ↔ plainName name := by
  constructor
  · rintro ⟨_, eq⟩
    have length := congrArg List.length eq
    rw [joinPath] at length
    refine ⟨?_, ?_, ?_⟩ <;> rintro rfl <;> simp at length
  · exact fun plain => ⟨name, joinPath_plain plain⟩

theorem length_partialName (fileID : FileID) :
    (partialName fileID).length = (sanitizeName fileID).length + 8 := by
  rw [partialName, List.length_append]
  rfl

theorem plainName_partialName : plainName (partialName fileID) := by
  have length := length_partialName fileID
  refine ⟨?_, ?_, ?_⟩ <;> intro eq <;> rw [eq] at length <;> simp at length

/-- The bytes that a name keeps as an underscore. -/
def blurred (c : UInt8) : Prop := safeByte c = false ∨ c = 95

/-- Two ids of one length that differ in nothing but blurred bytes. -/
def Alike (a b : FileID) : Prop := List.Forall₂ (fun x y => x = y ∨ blurred x ∧ blurred y) a b

def partialSuffix : Bytes := Bytes.ascii ".partial".toList

theorem sanitized_eq_iff (x y : UInt8) :
    ((if safeByte x then x else 95) = if safeByte y then y else 95) ↔
      x = y ∨ blurred x ∧ blurred y := by
  have apart : safeByte x ≠ safeByte y → x ≠ y := fun differ same => differ (congrArg safeByte same)
  unfold blurred
  cases safeX : safeByte x <;> cases safeY : safeByte y <;> rw [safeX, safeY] at apart
  · simp
  · simp [apart (by decide), eq_comm]
  · simp [apart (by decide)]
  · simp only [if_true, Bool.true_eq_false, false_or]
    exact ⟨.inl, fun same => same.elim id fun both => both.1.trans both.2.symm⟩

/-- What the sanitiser confuses. -/
theorem sanitizeName_eq_iff (a b : FileID) : sanitizeName a = sanitizeName b ↔ Alike a b := by
  unfold sanitizeName Alike
  rw [← List.forall₂_eq_eq_eq, List.forall₂_map_left_iff, List.forall₂_map_right_iff]
  simp only [sanitized_eq_iff]

theorem partialName_eq (fileID : FileID) :
    partialName fileID = sanitizeName (fileID ++ partialSuffix) := by
  have kept : sanitizeName partialSuffix = partialSuffix := by decide
  calc partialName fileID = sanitizeName fileID ++ sanitizeName partialSuffix := by rw [kept]; rfl
    _ = sanitizeName (fileID ++ partialSuffix) := (List.map_append ..).symm

/-- No other id than `.` and `..` gets one of these names. -/
theorem plainName_sanitizeName (fileID : FileID) :
    plainName (sanitizeName fileID) ↔ plainName fileID := by
  have dot : ∀ c, (if safeByte c then c else 95) = 46 ↔ c = 46 := by
    intro c
    rw [show (46 : UInt8) = if safeByte 46 then 46 else 95 by decide, sanitized_eq_iff]
    exact ⟨fun same => same.elim id fun both => absurd both.2 (by unfold blurred; decide), .inl⟩
  unfold plainName sanitizeName
  rcases fileID with _ | ⟨x, _ | ⟨y, _ | ⟨z, rest⟩⟩⟩ <;> simp [dot]

/-- Two transfers have four paths of their own in a directory exactly if neither id is empty, `.` or
`..`, and the ids are not alike, nor one of them and the other with the suffix. -/
theorem transfer_paths_apart_iff (dir : List Bytes) (a b : FileID) :
    ([tmpPath dir a, filePath dir a, tmpPath dir b, filePath dir b].Nodup ∧
      ∀ path ∈ [tmpPath dir a, filePath dir a, tmpPath dir b, filePath dir b], Inside dir path) ↔
    plainName a ∧ plainName b ∧
      ¬Alike a b ∧ ¬Alike a (b ++ partialSuffix) ∧ ¬Alike (a ++ partialSuffix) b := by
  rw [← plainName_sanitizeName a, ← plainName_sanitizeName b]
  simp only [← sanitizeName_eq_iff, ← partialName_eq]
  constructor
  · rintro ⟨nodup, inside⟩
    have plainA := inside_joinPath_iff.mp (inside (filePath dir a) (by simp))
    have plainB := inside_joinPath_iff.mp (inside (filePath dir b) (by simp))
    simp only [tmpPath, filePath, joinPath_plain, plainA, plainB, plainName_partialName] at nodup
    refine ⟨plainA, plainB, ?_, ?_, ?_⟩ <;> intro same <;> simp [same] at nodup
  · rintro ⟨plainA, plainB, names, _, _⟩
    have partials : partialName a ≠ partialName b :=
      fun same => names (List.append_cancel_right same)
    have own : ∀ fileID, partialName fileID ≠ sanitizeName fileID := by
      intro fileID same
      have length := length_partialName fileID
      rw [same] at length
      omega
    simp only [tmpPath, filePath, joinPath_plain, plainA, plainB, plainName_partialName]
    refine ⟨by simp [*, Ne.symm], ?_⟩
    simp [Inside]

/-- A slash and an underscore give one file, the final file of `f.partial` is the partial file of
`f`, and the file of `..` is the directory above. -/
theorem transfer_paths_shared :
    filePath [[100]] (Bytes.ascii "a/b".toList) = filePath [[100]] (Bytes.ascii "a_b".toList) ∧
      filePath [[100]] (Bytes.ascii "f.partial".toList) =
        tmpPath [[100]] (Bytes.ascii "f".toList) ∧
      filePath [[100]] (Bytes.ascii "..".toList) = [] := by
  decide

end NeonDoll.FileTransfer
