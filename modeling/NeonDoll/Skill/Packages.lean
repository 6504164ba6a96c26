import NeonDoll.Lib.Path
import NeonDoll.Lib.Payload

/-!
# Skill packages

`Core/Skill/contract.go`: what `ValidatePackages` accepts, and where the files of the accepted
packages are put.  Directories must differ, but one may lie below another.
-/

namespace NeonDoll.Skill

open Lib Lib.Path List Nat

inductive SkillError where
  | invalidSkill
  | integrity
  | transferBounds
  | instructionsRequired
  deriving DecidableEq

structure Dependency where
  id : Text
  kind : Text

structure Compatibility where
  contract : Text
  minimum : Int
  maximum : Int

structure Descriptor where
  schemaVersion : Int
  id : Text
  revision : Nat
  name : Text
  description : Text
  directory : Text
  dependencies : List Dependency
  compatibility : List Compatibility

structure File where
  path : Text
  sha256 : Text
  data : Slice

structure Package where
  descriptor : Descriptor
  files : List File

structure TransferBounds where
  maxSkills : UInt64
  maxFiles : UInt64
  maxBytes : UInt64

def safeRelativePath (value : Text) : Bool :=
  ¬ (value = [] ∨ '\\' ∈ value ∨ isRooted value ∨ '\x00' ∈ value) ∧
    clean value = value ∧ clean value ≠ dot ∧ clean value ≠ dotdot ∧
    ¬ join dotdot [] <+: clean value

def blank (t : Text) : Bool := t.trimSpace = []

def Dependency.key (d : Dependency) : Text := d.kind ++ '\x00' :: d.id

def Compatibility.key (c : Compatibility) : Text := "compat\x00".toList ++ c.contract

def checkDependencies (seen : List Text) : List Dependency → Option (List Text)
  | [] => some seen
  | d :: rest =>
    if blank d.id ∨ blank d.kind ∨ d.key ∈ seen then none
    else checkDependencies (d.key :: seen) rest

/-- The keys share their map with those of the dependencies. -/
def checkCompatibility (seen : List Text) : List Compatibility → Option (List Text)
  | [] => some seen
  | c :: rest =>
    if blank c.contract ∨ c.minimum ≤ 0 ∨ (c.maximum ≠ 0 ∧ c.maximum < c.minimum) ∨
        c.key ∈ seen then none
    else checkCompatibility (c.key :: seen) rest

def Descriptor.validate (d : Descriptor) : Except SkillError Unit :=
  if d.schemaVersion ≠ 1 ∨ blank d.id ∨ d.revision = 0 ∨ blank d.name ∨ blank d.description ∨
      ¬ safeRelativePath d.directory then .error .invalidSkill
  else match (checkDependencies [] d.dependencies).bind (checkCompatibility · d.compatibility) with
    | none => .error .invalidSkill
    | some _ => .ok ()

section Validation

variable (sha256 : Bytes → Bytes)

def checkFiles (seen : List Text) (hasInstructions : Bool) :
    List File → Except SkillError Unit
  | [] => if hasInstructions then .ok () else .error .instructionsRequired
  | file :: rest =>
    if ¬ safeRelativePath file.path ∨ file.path ∈ seen then .error .invalidSkill
    else if Text.byteLength file.sha256 ≠ 64 ∨
        ¬ equalFold file.sha256 (file.data.digest sha256) then
      .error .integrity
    else checkFiles (file.path :: seen) (hasInstructions || file.path = "SKILL.md".toList) rest

def Package.validate (p : Package) : Except SkillError Unit := do
  p.descriptor.validate
  checkFiles sha256 [] false p.files

/-- What `ValidatePackages` has counted.  The number of files stays a natural number: no process
counts to `2 ^ 64`. -/
structure Totals where
  files : Nat
  bytes : UInt64

def countFiles (bounds : TransferBounds) (totals : Totals) : List File → Option Totals
  | [] => some totals
  | file :: rest =>
    if totals.files + 1 > bounds.maxFiles.toNat then none
    else match spend bounds.maxBytes totals.bytes file.data.size with
      | none => none
      | some bytes => countFiles bounds ⟨totals.files + 1, bytes⟩ rest

def validateEach (bounds : TransferBounds) (directories ids : List Text) (totals : Totals) :
    List Package → Except SkillError Totals
  | [] => .ok totals
  | item :: rest => do
    item.validate sha256
    if item.descriptor.directory ∈ directories ∨ item.descriptor.id ∈ ids then
      .error .invalidSkill
    else match countFiles bounds totals item.files with
      | none => .error .transferBounds
      | some next =>
        validateEach bounds (item.descriptor.directory :: directories)
          (item.descriptor.id :: ids) next rest

def validatePackages (packages : List Package) (bounds : TransferBounds) :
    Except SkillError Unit :=
  if bounds.maxSkills = 0 ∨ bounds.maxFiles = 0 ∨ bounds.maxBytes = 0 ∨
      packages.length > bounds.maxSkills.toNat then .error .transferBounds
  else (validateEach sha256 bounds [] [] ⟨0, 0⟩ packages).map fun _ => ()

end Validation

/-! ## Locations -/

def Package.locations (p : Package) : List Text :=
  p.files.map fun file => join p.descriptor.directory file.path

def locations (packages : List Package) : List Text := packages.flatMap Package.locations

/-- The accepted files together: apart from each other, below the root, within the bounds. -/
structure Installs (packages : List Package) (bounds : TransferBounds) : Prop where
  apart : (locations packages).Pairwise Apart
  inside : ∀ location ∈ locations packages, ∀ segment ∈ segments location, Name segment
  files : (packages.flatMap Package.files).length ≤ bounds.maxFiles.toNat
  bytes : ((packages.flatMap Package.files).map fun f => f.data.1.length).sum ≤
    bounds.maxBytes.toNat

/-- The directory of `inner` is the one of `outer` followed by `e`, and there the files of
`inner` are not apart from those of `outer`. -/
def Overlaps (outer inner : Package) : Prop :=
  ∃ e, inner.descriptor.directory = join outer.descriptor.directory e ∧
    ∃ f ∈ outer.files, ∃ g ∈ inner.files, ¬ Apart f.path (join e g.path)

/-- No file of a package stands where another one needs a directory, and no package overlaps
one whose directory lies below its own. -/
structure Disjoint (packages : List Package) : Prop where
  within : ∀ p ∈ packages, p.files.Pairwise fun f g => Apart f.path g.path
  between : packages.Pairwise fun p q => ¬ Overlaps p q ∧ ¬ Overlaps q p

theorem pairwise_locations (p : Package) :
    p.locations.Pairwise Apart ↔ p.files.Pairwise fun f g => Apart f.path g.path := by
  rw [Package.locations, pairwise_map]
  simp only [apart_join]

/-- Below one of two directories the relative paths decide; else the directories do. -/
theorem apart_iff_not_overlaps (different : p.descriptor.directory ≠ q.descriptor.directory) :
    (∀ a ∈ p.locations, ∀ b ∈ q.locations, Apart a b) ↔ ¬ Overlaps p q ∧ ¬ Overlaps q p := by
  simp only [Package.locations, forall_mem_map]
  constructor
  · intro apart
    constructor
    · rintro ⟨e, below, f, first, g, second, touching⟩
      have whole := apart f first g second
      rw [below, join_join, apart_join] at whole
      exact touching whole
    · rintro ⟨e, below, f, first, g, second, touching⟩
      have whole := (apart g second f first).symm
      rw [below, join_join, apart_join] at whole
      exact touching whole
  · rintro ⟨outer, inner⟩ f first g second
    by_cases below : join p.descriptor.directory [] <+: q.descriptor.directory
    · obtain ⟨e, eq⟩ := below
      rw [join_append, nil_append] at eq
      rw [← eq, join_join, apart_join]
      by_contra touching
      exact outer ⟨e, eq.symm, f, first, g, second, touching⟩
    by_cases above : join q.descriptor.directory [] <+: p.descriptor.directory
    · obtain ⟨e, eq⟩ := above
      rw [join_append, nil_append] at eq
      refine Apart.symm ?_
      rw [← eq, join_join, apart_join]
      by_contra touching
      exact inner ⟨e, eq.symm, g, second, f, first, touching⟩
    exact Apart.join ⟨different, below, above⟩ f.path g.path

/-! ## What is accepted -/

section Accepted

variable {sha256 : Bytes → Bytes} {bounds : TransferBounds} {packages : List Package}

theorem name_of_safeRelativePath (safe : safeRelativePath p = true)
    (member : part ∈ segments p) : Name part := by
  obtain ⟨_, same, proper, below, inside⟩ := of_decide_eq_true safe
  rw [same] at proper below inside
  have relative : isRooted p = false := by grind
  exact name_of_mem_segments relative same proper below inside member

theorem safe_of_checkFiles
    (accepted : checkFiles sha256 seen found files = .ok ()) :
    ∀ file ∈ files, safeRelativePath file.path = true := by
  induction files generalizing seen found with
  | nil => simp
  | cons file rest ih =>
    rw [checkFiles] at accepted
    split at accepted
    · cases accepted
    rename_i passed
    split at accepted
    · cases accepted
    refine forall_mem_cons.mpr ⟨?_, ih accepted⟩
    by_contra strays
    exact passed (.inl strays)

theorem Package.safe_of_validate {p : Package} (accepted : p.validate sha256 = .ok ()) :
    safeRelativePath p.descriptor.directory = true ∧
      ∀ file ∈ p.files, safeRelativePath file.path = true := by
  rw [Package.validate] at accepted
  cases valid : p.descriptor.validate with
  | error e => rw [valid] at accepted; cases accepted
  | ok _ =>
    rw [valid] at accepted
    refine ⟨?_, safe_of_checkFiles accepted⟩
    grind [Descriptor.validate]

theorem countFiles_exact
    (within : totals.files ≤ bounds.maxFiles.toNat ∧ totals.bytes ≤ bounds.maxBytes)
    (counted : countFiles bounds totals files = some new) :
    (new.files ≤ bounds.maxFiles.toNat ∧ new.bytes ≤ bounds.maxBytes) ∧
      new.files = totals.files + files.length ∧
      new.bytes.toNat = totals.bytes.toNat + (files.map fun f => f.data.1.length).sum := by
  induction files generalizing totals with
  | nil =>
    cases counted
    exact ⟨within, rfl, rfl⟩
  | cons file rest ih =>
    rw [countFiles] at counted
    split at counted
    · cases counted
    rename_i room
    cases spent : spend bounds.maxBytes totals.bytes file.data.size with
    | none => rw [spent] at counted; cases counted
    | some bytes =>
      rw [spent] at counted
      obtain ⟨below, exact⟩ := spend_exact within.2 spent
      rw [Slice.toNat_size] at exact
      obtain ⟨kept, files, sum⟩ := ih ⟨not_lt.mp room, below⟩ counted
      refine ⟨kept, ?_, ?_⟩
      · rw [files, length_cons]
        exact add_right_comm ..
      · rw [sum, exact, map_cons, sum_cons]
        omega

/-- What every accepted list has: names below the root, different directories, exact totals. -/
structure Accepted (bounds : TransferBounds) (directories : List Text) (totals : Totals)
    (packages : List Package) : Prop where
  safe : ∀ p ∈ packages, safeRelativePath p.descriptor.directory = true ∧
    ∀ file ∈ p.files, safeRelativePath file.path = true
  fresh : ∀ p ∈ packages, p.descriptor.directory ∉ directories
  distinct : packages.Pairwise fun p q => p.descriptor.directory ≠ q.descriptor.directory
  files : totals.files + (packages.flatMap Package.files).length ≤ bounds.maxFiles.toNat
  bytes : totals.bytes.toNat + ((packages.flatMap Package.files).map fun f => f.data.1.length).sum
    ≤ bounds.maxBytes.toNat

theorem accepted_of_validateEach {directories ids : List Text} {totals final : Totals}
    (within : totals.files ≤ bounds.maxFiles.toNat ∧ totals.bytes ≤ bounds.maxBytes)
    (accepted : validateEach sha256 bounds directories ids totals packages = .ok final) :
    Accepted bounds directories totals packages := by
  induction packages generalizing directories ids totals with
  | nil =>
    exact ⟨by simp, by simp, .nil, by simpa using within.1,
      by simpa using UInt64.le_iff_toNat_le.mp within.2⟩
  | cons item rest ih =>
    rw [validateEach] at accepted
    cases valid : item.validate sha256 with
    | error e => rw [valid] at accepted; cases accepted
    | ok _ =>
      rw [valid] at accepted
      split at accepted
      · cases accepted
      cases counted : countFiles bounds totals item.files with
      | none => rw [counted] at accepted; cases accepted
      | some next =>
        rw [counted] at accepted
        obtain ⟨kept, files, _⟩ := countFiles_exact within counted
        have later := ih kept accepted
        have safe := Package.safe_of_validate valid
        have fresh := later.fresh
        refine ⟨?_, ?_, ?_, ?_, ?_⟩
        · exact forall_mem_cons.mpr ⟨safe, later.safe⟩
        · grind
        · refine pairwise_cons.mpr ⟨?_, later.distinct⟩
          grind
        · have := later.files
          rw [flatMap_cons, length_append]
          omega
        · have := later.bytes
          rw [flatMap_cons, map_append, List.sum_append]
          omega

theorem accepted_of_validatePackages (accepted : validatePackages sha256 packages bounds = .ok ()) :
    Accepted bounds [] ⟨0, 0⟩ packages := by
  rw [validatePackages] at accepted
  split at accepted
  · cases accepted
  cases checked : validateEach sha256 bounds [] [] ⟨0, 0⟩ packages with
  | error e => rw [checked] at accepted; cases accepted
  | ok final => exact accepted_of_validateEach ⟨zero_le _, UInt64.zero_le⟩ checked

/-- Accepted packages install without collision exactly if they are disjoint. -/
theorem validatePackages_installs_iff
    (accepted : validatePackages sha256 packages bounds = .ok ()) :
    Installs packages bounds ↔ Disjoint packages := by
  have known := accepted_of_validatePackages accepted
  have inside : ∀ location ∈ locations packages, ∀ segment ∈ segments location, Name segment := by
    intro location listed segment member
    obtain ⟨p, chosen, placed⟩ := mem_flatMap.mp listed
    obtain ⟨file, stored, rfl⟩ := mem_map.mp placed
    obtain ⟨directory, files⟩ := known.safe p chosen
    rw [segments_join, mem_append] at member
    cases member with
    | inl outer => exact name_of_safeRelativePath directory outer
    | inr inner => exact name_of_safeRelativePath (files file stored) inner
  have apart : (locations packages).Pairwise Apart ↔ Disjoint packages := by
    rw [locations, pairwise_flatMap]
    have directories : (packages.Pairwise fun p q =>
        ∀ a ∈ p.locations, ∀ b ∈ q.locations, Apart a b) ↔
        packages.Pairwise fun p q => ¬ Overlaps p q ∧ ¬ Overlaps q p :=
      ⟨known.distinct.imp₂ fun p q different => (apart_iff_not_overlaps different).mp,
        known.distinct.imp₂ fun p q different => (apart_iff_not_overlaps different).mpr⟩
    rw [directories]
    simp only [pairwise_locations]
    exact ⟨fun both => ⟨both.1, both.2⟩, fun both => ⟨both.within, both.between⟩⟩
  constructor
  · intro installs
    exact apart.mp installs.apart
  · intro disjoint
    exact ⟨apart.mpr disjoint, inside, by simpa using known.files, by simpa using known.bytes⟩

end Accepted

/-! ## Packages below one another -/

def sampleDescriptor (id directory : String) : Descriptor :=
  ⟨1, id.toList, 1, ['n'], ['d'], directory.toList, [], []⟩

def zeroDigest (_ : Bytes) : Bytes := List.replicate 32 0

/-- A file of zero bytes. -/
def sampleFile (path : String) (n : Nat) : File :=
  ⟨path.toList, List.replicate 64 '0', ⟨List.replicate (n % 9) 0, by rw [length_replicate]; omega⟩⟩

/-- The files of both packages have the same paths, and fill the bounds. -/
def samplePackages : List Package :=
  [⟨sampleDescriptor "p" "a", [sampleFile "SKILL.md" 3, sampleFile "b/x" 2]⟩,
    ⟨sampleDescriptor "q" "ab", [sampleFile "SKILL.md" 1, sampleFile "b/x" 4]⟩]

theorem validatePackages_installs_apart :
    validatePackages zeroDigest samplePackages ⟨2, 4, 10⟩ = .ok () ∧
      Installs samplePackages ⟨2, 4, 10⟩ := by
  have accepted : validatePackages zeroDigest samplePackages ⟨2, 4, 10⟩ = .ok () := by
    decide +kernel
  refine ⟨accepted, (validatePackages_installs_iff accepted).mpr ⟨by decide +kernel, ?_⟩⟩
  -- neither directory is below the other
  refine .cons (forall_mem_singleton.mpr ⟨?_, ?_⟩) (pairwise_singleton ..)
  all_goals
    rintro ⟨e, below, -⟩
    simp [sampleDescriptor, join] at below

def nestedPackages : List Package :=
  [⟨sampleDescriptor "p" "a", [sampleFile "SKILL.md" 0, sampleFile "b/SKILL.md" 0]⟩,
    ⟨sampleDescriptor "q" "a/b", [sampleFile "SKILL.md" 0]⟩]

/-- The directory of the second package is one that the first fills too: both put a file at the
same location. -/
theorem nested_packages_collide : validatePackages zeroDigest nestedPackages ⟨2, 3, 1⟩ = .ok () ∧
      ¬ Installs nestedPackages ⟨2, 3, 1⟩ := by
  refine ⟨by decide +kernel, fun installs => ?_⟩
  have apart := installs.apart
  revert apart
  decide +kernel

/-! ## Lists of a descriptor -/

def Dependency.malformed (d : Dependency) : Bool := blank d.id ∨ blank d.kind

def Compatibility.malformed (c : Compatibility) : Bool :=
  blank c.contract ∨ c.minimum ≤ 0 ∨ (c.maximum ≠ 0 ∧ c.maximum < c.minimum)

/-- A malformed element, two dependencies with the same kind and id, or two requirements for the
same contract. -/
def Descriptor.Faulty (d : Descriptor) : Prop :=
  (∃ x ∈ d.dependencies, x.malformed) ∨ (∃ c ∈ d.compatibility, c.malformed) ∨
    ¬ (d.dependencies.map fun x => (x.kind, x.id)).Nodup ∨
    ¬ (d.compatibility.map (·.contract)).Nodup

/-- The keys of both lists, the last first. -/
def Descriptor.keys (d : Descriptor) : List Text :=
  (d.compatibility.map Compatibility.key).reverse ++ (d.dependencies.map Dependency.key).reverse

/-- What a loop accepts that refuses malformed elements and ks it has seen. -/
theorem check_some {check : List Text → List α → Option (List Text)} {key : α → Text}
    {malformed : α → Bool} (nil : ∀ seen, check seen [] = some seen)
    (cons : ∀ seen x xs, check seen (x :: xs) =
      if malformed x ∨ key x ∈ seen then none else check (key x :: seen) xs)
    (xs : List α) (distinct : seen.Nodup) : check seen xs = some ks ↔
      (∀ x ∈ xs, ¬ malformed x) ∧ (xs.map key).reverse ++ seen = ks ∧ ks.Nodup := by
  induction xs generalizing seen with
  | nil => grind
  | cons x xs ih => grind

theorem checkDependencies_some (distinct : seen.Nodup) : checkDependencies seen ds = some ks ↔
    (∀ d ∈ ds, ¬ d.malformed) ∧ (ds.map Dependency.key).reverse ++ seen = ks ∧ ks.Nodup := by
  refine check_some (fun _ => rfl) (fun seen d ds => ?_) ds distinct
  simp [checkDependencies, Dependency.malformed, or_assoc]

theorem checkCompatibility_some (distinct : seen.Nodup) : checkCompatibility seen cs = some ks ↔
    (∀ c ∈ cs, ¬ c.malformed) ∧ (cs.map Compatibility.key).reverse ++ seen = ks ∧ ks.Nodup := by
  refine check_some (fun _ => checkCompatibility.eq_1 _) (fun seen c cs => ?_) cs distinct
  rw [checkCompatibility]
  unfold Compatibility.malformed
  simp only [decide_eq_true_eq, or_assoc]

theorem validate_ok_iff {d : Descriptor}
    (fields : ({ d with dependencies := [], compatibility := [] } : Descriptor).validate = .ok ()) :
    d.validate = .ok () ↔ (∀ x ∈ d.dependencies, ¬ x.malformed) ∧
      (∀ c ∈ d.compatibility, ¬ c.malformed) ∧ d.keys.Nodup := by
  unfold Descriptor.validate at fields ⊢
  split at fields
  · cases fields
  rename_i valid
  rw [if_neg valid]
  constructor
  · intro accepted
    split at accepted
    · cases accepted
    rename_i keys passed
    obtain ⟨seen, first, second⟩ := Option.bind_eq_some_iff.mp passed
    obtain ⟨proper, rfl, distinct⟩ := (checkDependencies_some nodup_nil).mp first
    obtain ⟨proper', rfl, distinct'⟩ := (checkCompatibility_some distinct).mp second
    exact ⟨proper, proper', by simpa [Descriptor.keys] using distinct'⟩
  · rintro ⟨proper, proper', distinct⟩
    rw [Descriptor.keys, ← append_nil (map Dependency.key _).reverse] at distinct
    have seen := distinct.of_append_right
    rw [(checkDependencies_some nodup_nil).mpr ⟨proper, rfl, seen⟩, Option.bind_some,
      (checkCompatibility_some seen).mpr ⟨proper', rfl, distinct⟩]

/-- With other fields that are valid, the lists are rejected for their faults only as long as no
two elements share a key. -/
theorem descriptor_lists_exact_iff (d : Descriptor)
    (fields : ({ d with dependencies := [], compatibility := [] } : Descriptor).validate = .ok ()) :
    (d.validate ≠ .ok () ↔ d.Faulty) ↔ (d.Faulty ∨ d.keys.Nodup) := by
  have accepted := validate_ok_iff fields
  have distinct : d.keys.Nodup → (d.dependencies.map fun x => (x.kind, x.id)).Nodup ∧
      (d.compatibility.map (·.contract)).Nodup := by
    intro keys
    have pairs : ((d.dependencies.map fun x => (x.kind, x.id)).map fun p =>
        p.1 ++ '\x00' :: p.2).Nodup := by
      rw [map_map]
      exact nodup_reverse.mp keys.of_append_right
    have contracts : ((d.compatibility.map (·.contract)).map ("compat\x00".toList ++ ·)).Nodup := by
      rw [map_map]
      exact nodup_reverse.mp keys.of_append_left
    exact ⟨pairs.of_map _, contracts.of_map _⟩
  grind [Descriptor.Faulty]

def sharedKey : Descriptor :=
  { sampleDescriptor "p" "a" with
    dependencies := [⟨['x'], "compat".toList⟩], compatibility := [⟨['x'], 1, 0⟩] }

/-- The dependency and the requirement have nothing in common but the key. -/
theorem shared_key_rejected : sharedKey.validate ≠ .ok () ∧ ¬ sharedKey.Faulty := by
  constructor
  · decide +kernel
  · unfold Descriptor.Faulty
    decide +kernel

/-- Two dependencies of one kind, and requirements for contracts that have their ids. -/
def listed : Descriptor :=
  { sampleDescriptor "p" "a" with
    dependencies := [⟨['x'], "tool".toList⟩, ⟨['y'], "tool".toList⟩]
    compatibility := [⟨['x'], 1, 0⟩, ⟨['y'], 2, 3⟩] }

theorem descriptor_lists_exact_listed :
    listed.validate = .ok () ∧ (listed.validate ≠ .ok () ↔ listed.Faulty) :=
  ⟨by decide +kernel,
    (descriptor_lists_exact_iff listed (by decide +kernel)).mpr (.inr (by decide))⟩

end NeonDoll.Skill
