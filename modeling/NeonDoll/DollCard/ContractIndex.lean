import NeonDoll.Lib.Json
import NeonDoll.Lib.GoMap
import NeonDoll.Skill.Packages

/-!
# The contract index

`DollCard/contract_v2.go`: the index of a version 2 card, its validation under import bounds, and
the pass-through of the indexed payloads.  The entries of all sections are counted in one tally.
-/

namespace NeonDoll.Lib.Json

mutual

/-- `rejectDuplicateJSONKeys`: no object, at any depth, has two members of one name. -/
def Value.distinctKeys : Value → Bool
  | .arr items => distinctKeysItems items
  | .obj members => (members.map Prod.fst).Nodup && distinctKeysMembers members
  | _ => true

def distinctKeysItems : List Value → Bool
  | [] => true
  | v :: rest => v.distinctKeys && distinctKeysItems rest

def distinctKeysMembers : List (Text × Value) → Bool
  | [] => true
  | (_, v) :: rest => v.distinctKeys && distinctKeysMembers rest

end

end NeonDoll.Lib.Json

namespace NeonDoll.DollCard

open Lib Lib.Path Skill List Option AList Nat

/-! ## The index -/

/-- Members that are no known fields, with their JSON texts. -/
abbrev UnknownFields := GoMap Text Text

structure ArchiveEntry where
  path : Text
  sha256 : Text
  size : UInt64
  unknown : UnknownFields

structure SectionIndex where
  id : Text
  kind : Text
  schemaVersion : Int64
  required : Bool
  empty : Bool
  entries : List ArchiveEntry
  compatibility : List Text
  unknown : UnknownFields

structure IndexV2 where
  version : Int64
  dollID : Text
  sections : List SectionIndex
  unknown : UnknownFields

def IndexV2.entries (i : IndexV2) : List ArchiveEntry := i.sections.flatMap SectionIndex.entries

structure ImportBounds where
  maxSections : UInt64
  maxEntries : UInt64
  maxDeclaredBytes : UInt64

def entryNames : List Text := ["path", "sha256", "size"].map String.toList

def sectionNames : List Text :=
  ["id", "kind", "schema_version", "required", "empty", "entries", "compatibility"].map
    String.toList

def indexNames : List Text := ["version", "doll_id", "sections"].map String.toList

/-- The known kinds; the supported version of each is 1. -/
def knownSections : List Text :=
  ["identity", "soul", "self", "avatar", "preferences", "secrets", "skills", "memories", "peers",
    "authority", "drives", "goals", "intentions", "extensions", "legacy_owner",
    "legacy_auth"].map String.toList

/-! ## Validation -/

def validateUnknownFields (unknown : UnknownFields) (known : List Text) : Bool :=
  unknown.entries.all fun field => ¬ (field.1 = [] ∨ field.1 ∈ known) ∧
    (Json.read field.2).any Json.Value.distinctKeys

/-- The maps and counters of `Validate`.  The number of entries stays a natural number: their
paths differ, and no process holds `2 ^ 64` of them. -/
structure Tally where
  sections : List Text
  paths : List Text
  kinds : List Text
  entries : Nat
  size : UInt64

def checkEntry (bounds : ImportBounds) (t : Tally) (e : ArchiveEntry) : Option Tally :=
  if ¬ validateUnknownFields e.unknown entryNames then none
  else if ¬ safeRelativePath e.path ∨ e.path ∈ t.paths ∨ Text.byteLength e.sha256 ≠ 64 then none
  else if ¬ e.sha256.all fun c => Text.digitValue c.toLower < 16 then none
  else match spend bounds.maxDeclaredBytes t.size e.size with
    | none => none
    | some size =>
      if t.entries + 1 > bounds.maxEntries.toNat then none
      else some { t with paths := e.path :: t.paths, entries := t.entries + 1, size := size }

def checkSection (bounds : ImportBounds) (t : Tally) (s : SectionIndex) : Option Tally :=
  if blank s.id ∨ blank s.kind ∨ s.id ∈ t.sections ∨ s.schemaVersion ≤ 0 then none
  else if s.empty = (s.entries ≠ []) then none
  else if ¬ validateUnknownFields s.unknown sectionNames then none
  else if s.kind ∈ knownSections ∧ (s.kind ∈ t.kinds ∨ ¬ s.required) then none
  else if s.compatibility.any blank then none
  else s.entries.foldlM (checkEntry bounds)
    { t with sections := s.id :: t.sections, kinds := s.kind :: t.kinds }

def IndexV2.validate (i : IndexV2) (bounds : ImportBounds) : Bool :=
  ¬ (i.version ≠ 2 ∨ blank i.dollID ∨ bounds.maxSections = 0 ∨ bounds.maxEntries = 0 ∨
    bounds.maxDeclaredBytes = 0 ∨ i.sections.length > bounds.maxSections.toNat) ∧
  validateUnknownFields i.unknown indexNames ∧
  (i.sections.foldlM (checkSection bounds) ⟨[], [], [], 0, 0⟩).isSome

section Payloads

variable (sha256 : Bytes → Bytes)

def validateEntryData (e : ArchiveEntry) (data : Slice) : Bool :=
  data.size = e.size ∧ equalFold e.sha256 (data.digest sha256)

def preserveEntry (payloads preserved : GoMap Text Slice) (e : ArchiveEntry) :
    Option (GoMap Text Slice) :=
  match payloads.lookup e.path with
  | none => none
  | some payload =>
    if validateEntryData sha256 e payload then some (preserved.insert e.path payload) else none

def preserveIndexedPayloads (i : IndexV2) (payloads : GoMap Text Slice) :
    Option (GoMap Text Slice) :=
  i.sections.foldlM
    (fun preserved s => s.entries.foldlM (preserveEntry sha256 payloads) preserved) ∅

end Payloads

/-! ## Loops over all entries -/

/-- What every step adds to the part that is done, a loop adds for the whole list. -/
theorem foldlM_done {α β γ : Type} {f : β → α → Option β} {g : α → List γ}
    {holds : List γ → β → Prop} {items : List α} {done : List γ} {b b' : β}
    (step : ∀ {done b a b'}, holds done b → f b a = some b' → holds (done ++ g a) b')
    (start : holds done b) (ran : items.foldlM f b = some b') :
    holds (done ++ items.flatMap g) b' := by
  induction items generalizing done b with
  | nil =>
    cases ran
    rwa [flatMap_nil, append_nil]
  | cons a rest ih =>
    rw [foldlM_cons] at ran
    obtain ⟨_, stepped, later⟩ := bind_eq_some_iff.mp ran
    rw [flatMap_cons, ← append_assoc]
    exact ih (step start stepped) later

theorem foldlM_done_each {α β : Type} {f : β → α → Option β} {holds : List α → β → Prop}
    {items done : List α} {b b' : β}
    (step : ∀ {done b a b'}, holds done b → f b a = some b' → holds (done ++ [a]) b')
    (start : holds done b) (ran : items.foldlM f b = some b') : holds (done ++ items) b' := by
  have whole := foldlM_done (g := fun a => [a]) step start ran
  rwa [flatMap_singleton'] at whole

def declaredBytes (entries : List ArchiveEntry) : Nat := (entries.map fun e => e.size.toNat).sum

/-- The tally of a part of the entries. -/
structure Tallied (bounds : ImportBounds) (done : List ArchiveEntry) (t : Tally) : Prop where
  paths : ∀ path, path ∈ t.paths ↔ path ∈ done.map ArchiveEntry.path
  distinct : (done.map ArchiveEntry.path).Nodup
  safe : ∀ e ∈ done, safeRelativePath e.path = true
  entries : t.entries = done.length
  number : t.entries ≤ bounds.maxEntries.toNat
  size : t.size.toNat = declaredBytes done
  declared : t.size ≤ bounds.maxDeclaredBytes

theorem checkEntry_tallied
    (before : Tallied bounds done t) (checked : checkEntry bounds t e = some t') :
    Tallied bounds (done ++ [e]) t' := by
  rw [checkEntry] at checked
  split at checked
  · cases checked
  split at checked
  · cases checked
  split at checked
  · cases checked
  cases spent : spend bounds.maxDeclaredBytes t.size e.size with
  | none => rw [spent] at checked; cases checked
  | some size =>
    rw [spent] at checked
    dsimp only at checked
    split at checked
    · cases checked
    rename_i room
    cases checked
    obtain ⟨within, exact⟩ := spend_exact before.declared spent
    have safe : safeRelativePath e.path = true := by grind
    have fresh : e.path ∉ done.map ArchiveEntry.path := by
      rw [← before.paths]
      grind
    refine ⟨?_, ?_, ?_, ?_, not_lt.mp room, ?_, within⟩
    · intro path
      rw [mem_cons, before.paths, map_append, mem_append, map_singleton, mem_singleton, or_comm]
    · rw [map_append, map_singleton, nodup_append]
      exact ⟨before.distinct, nodup_singleton _, by grind⟩
    · grind [before.safe]
    · rw [length_append, ← before.entries]
      rfl
    · rw [exact, before.size, declaredBytes, declaredBytes, map_append, List.sum_append,
        map_singleton, sum_singleton]

variable {bounds : ImportBounds}

theorem checkSection_tallied {done : List ArchiveEntry} {t t' : Tally}
    {s : SectionIndex} (before : Tallied bounds done t)
    (checked : checkSection bounds t s = some t') : Tallied bounds (done ++ s.entries) t' := by
  have ran : s.entries.foldlM (checkEntry bounds)
      { t with sections := s.id :: t.sections, kinds := s.kind :: t.kinds } = some t' := by
    grind [checkSection]
  have same : Tallied bounds done
      { t with sections := s.id :: t.sections, kinds := s.kind :: t.kinds } := by
    obtain ⟨paths, distinct, safe, entries, number, size, declared⟩ := before
    exact ⟨paths, distinct, safe, entries, number, size, declared⟩
  exact foldlM_done_each checkEntry_tallied same ran

theorem IndexV2.tallied_of_validate {i : IndexV2}
    (accepted : i.validate bounds = true) : ∃ t, Tallied bounds i.entries t := by
  obtain ⟨_, _, counted⟩ := of_decide_eq_true accepted
  obtain ⟨t, ran⟩ := isSome_iff_exists.mp counted
  have start : Tallied bounds [] ⟨[], [], [], 0, 0⟩ :=
    ⟨by simp, .nil, by simp, rfl, zero_le _, rfl, UInt64.zero_le⟩
  exact ⟨t, foldlM_done checkSection_tallied start ran⟩

/-- The payload of the entry was supplied and kept, with the declared size and digest. -/
def Copied (sha256 : Bytes → Bytes) (payloads preserved : GoMap Text Slice) (e : ArchiveEntry) :
    Prop :=
  ∃ payload, payloads.lookup e.path = some payload ∧ preserved.lookup e.path = some payload ∧
    payload.1.length = e.size.toNat ∧ equalFold e.sha256 (payload.digest sha256) = true

/-- The copies of the payloads of a part of the entries. -/
structure Preserved (sha256 : Bytes → Bytes) (payloads : GoMap Text Slice)
    (done : List ArchiveEntry) (preserved : GoMap Text Slice) : Prop where
  keys : ∀ path, path ∈ preserved ↔ path ∈ done.map ArchiveEntry.path
  values : ∀ e ∈ done, Copied sha256 payloads preserved e
  counted : (done.map ArchiveEntry.path).Nodup → preserved.entries.length = done.length ∧
    (preserved.entries.map fun m => m.2.1.length).sum = declaredBytes done

theorem preserveEntry_preserved
    (before : Preserved sha256 payloads done preserved)
    (copied : preserveEntry sha256 payloads preserved e = some new) :
    Preserved sha256 payloads (done ++ [e]) new := by
  rw [preserveEntry] at copied
  cases found : payloads.lookup e.path with
  | none => rw [found] at copied; cases copied
  | some payload =>
    rw [found] at copied
    dsimp only at copied
    split at copied
    · rename_i valid
      cases copied
      obtain ⟨size, _⟩ := of_decide_eq_true valid
      have exact : payload.1.length = e.size.toNat := by rw [← size, Slice.toNat_size]
      refine ⟨fun path => ?_, fun other member => ?_, fun distinct => ?_⟩
      · rw [mem_insert, before.keys, map_append, mem_append, map_singleton, mem_singleton, or_comm]
      · have old := before.values other
        grind [Copied]
      · rw [map_append, map_singleton, nodup_append] at distinct
        obtain ⟨earlier, _, apart⟩ := distinct
        have fresh : e.path ∉ preserved := by
          rw [before.keys]
          exact fun member => apart _ member _ (mem_singleton_self _) rfl
        obtain ⟨length, sum⟩ := before.counted earlier
        rw [entries_insert_of_notMem fresh, length_cons, length_append, length,
          map_cons, sum_cons, sum, declaredBytes, declaredBytes, map_append, List.sum_append,
          map_singleton, sum_singleton, exact]
        exact ⟨rfl, add_comm ..⟩
    · cases copied

/-! ## The bounds of an import -/

/-- What an import may rely on; the sums are those of natural numbers. -/
structure WithinBounds (sha256 : Bytes → Bytes) (i : IndexV2) (bounds : ImportBounds)
    (payloads preserved : GoMap Text Slice) : Prop where
  keys : ∀ path, path ∈ preserved ↔ path ∈ i.entries.map ArchiveEntry.path
  relative : ∀ e ∈ i.entries, clean e.path = e.path ∧ ∀ segment ∈ segments e.path, Name segment
  values : ∀ e ∈ i.entries, Copied sha256 payloads preserved e
  declared : declaredBytes i.entries ≤ bounds.maxDeclaredBytes.toNat
  bytes : (preserved.entries.map fun m => m.2.1.length).sum ≤ bounds.maxDeclaredBytes.toNat
  number : preserved.entries.length ≤ bounds.maxEntries.toNat

theorem preserveIndexedPayloads_withinBounds {sha256 : Bytes → Bytes} {i : IndexV2}
    {bounds : ImportBounds} {payloads preserved : GoMap Text Slice}
    (accepted : i.validate bounds = true)
    (copied : preserveIndexedPayloads sha256 i payloads = some preserved) :
    WithinBounds sha256 i bounds payloads preserved := by
  obtain ⟨t, tallied⟩ := i.tallied_of_validate accepted
  have start : Preserved sha256 payloads [] ∅ := by
    refine ⟨fun path => ?_, by simp, fun _ => ⟨rfl, rfl⟩⟩
    simp [notMem_empty]
  have all : Preserved sha256 payloads i.entries preserved :=
    foldlM_done (fun before ran => foldlM_done_each preserveEntry_preserved before ran) start copied
  obtain ⟨length, sum⟩ := all.counted tallied.distinct
  have declared := UInt64.le_iff_toNat_le.mp tallied.declared
  rw [tallied.size] at declared
  refine ⟨all.keys, fun e member => ?_, all.values, declared, sum ▸ declared, ?_⟩
  · have safe := tallied.safe e member
    exact ⟨(of_decide_eq_true safe).2.1, fun _ => name_of_safeRelativePath safe⟩
  · rw [length, ← tallied.entries]
    exact tallied.number

def sampleEntry (path : String) (size : UInt64) : ArchiveEntry :=
  ⟨path.toList, List.replicate 64 '0', size, ∅⟩

def sampleSection (kind : String) (entries : List ArchiveEntry) : SectionIndex :=
  ⟨kind.toList, kind.toList, 1, true, false, entries, [], ∅⟩

/-- Three entries in two sections, which take all that `sampleBounds` leave. -/
def sampleIndex : IndexV2 :=
  ⟨2, ['d'], [sampleSection "soul" [sampleEntry "s/a" 3, sampleEntry "s/b" 2],
    sampleSection "self" [sampleEntry "t" 4]], ∅⟩

def sampleBounds : ImportBounds := ⟨2, 3, 9⟩

def samplePayloads : GoMap Text Slice :=
  [("s/a", 3), ("s/b", 2), ("t", 4)].foldl (fun payloads file =>
    payloads.insert file.1.toList (Skill.sampleFile file.1 file.2).data) ∅

theorem preserveIndexedPayloads_withinBounds_sample : sampleIndex.validate sampleBounds = true ∧
    ∃ preserved, preserveIndexedPayloads zeroDigest sampleIndex samplePayloads = some preserved ∧
      WithinBounds zeroDigest sampleIndex sampleBounds samplePayloads preserved := by
  have accepted : sampleIndex.validate sampleBounds = true := by decide +kernel
  obtain ⟨preserved, copied⟩ := isSome_iff_exists.mp
    (show (preserveIndexedPayloads zeroDigest sampleIndex samplePayloads).isSome = true by
      decide +kernel)
  exact ⟨accepted, preserved, copied, preserveIndexedPayloads_withinBounds accepted copied⟩

end NeonDoll.DollCard
