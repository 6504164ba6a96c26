import NeonDoll.DollState.Types
import NeonDoll.Lib.GoMap

/-!
# The stored Dolls

`SaveDoll` and `LoadDoll` of `Core/Persistence/store.go`.  A save is one transaction: its
statements run in turn, and the first one that fails leaves the tables as they were.
-/

namespace NeonDoll.Persistence

open Lib Json DollState Option

/-- A row of the table `dolls`, without its times. -/
structure DollRow where
  version : Int64
  identityJSON : Text
  soulJSON : Text
  ownerJSON : Text
  selfJSON : Text
  drivesJSON : Text
  goalsJSON : Text
  intentionsJSON : Text
  deriving DecidableEq

/-- The tables `dolls` and `memories`; the rows of a Doll's memories are in the order in which
they were inserted. -/
structure DollStore where
  dolls : GoMap Text DollRow
  memories : GoMap Text (List MemoryItem)
  deriving DecidableEq

def DollStore.rows (store : DollStore) (dollID : Text) : List MemoryItem :=
  (store.memories.lookup dollID).getD []

/-- Which statements of a save work. -/
structure SaveCalls where
  begin : Bool
  read : Bool
  upsert : Bool
  delete : Bool
  /-- How many inserts work. -/
  inserts : Nat
  commit : Bool
  deriving DecidableEq

inductive SaveError where
  | invalidDollID
  | cannotSave
  | commit
  deriving DecidableEq

/-- The inserts in turn; the key of a row is its sequence. -/
def insertMemories : Nat → List MemoryItem → List MemoryItem → Option (List MemoryItem)
  | _, rows, [] => some rows
  | 0, _, _ :: _ => none
  | n + 1, rows, m :: rest =>
    if rows.any fun r => r.sequence = m.sequence then none
    else insertMemories n (rows ++ [m]) rest

/-- What the columns hold for a list that is not given. -/
def keptColumn (row? : Option DollRow) (column : DollRow → Text) : Text :=
  match row? with
  | none => "[]".toList
  | some row => column row

def savedRow (row? : Option DollRow) (state : DollState) : DollRow where
  version := state.version
  identityJSON := Identity.record.marshal state.identity
  soulJSON := Soul.record.marshal state.soul
  ownerJSON := Owner.record.marshal state.owner
  selfJSON := Self.record.marshal state.self
  drivesJSON :=
    match state.drives.items with
    | none => keptColumn row? DollRow.drivesJSON
    | some _ => Drives.record.marshal state.drives
  goalsJSON :=
    match state.goals.items with
    | none => keptColumn row? DollRow.goalsJSON
    | some _ => Goals.record.marshal state.goals
  intentionsJSON :=
    match state.intentions.items with
    | none => keptColumn row? DollRow.intentionsJSON
    | some _ => Intentions.record.marshal state.intentions

/-- The memories after the save: none given leaves them untouched. -/
def savedMemories (store : DollStore) (state : DollState) (calls : SaveCalls) :
    Option (GoMap Text (List MemoryItem)) :=
  match state.memories.items with
  | none => some store.memories
  | some items =>
    if calls.delete then
      (insertMemories calls.inserts [] items).map fun rows =>
        store.memories.insert state.identity.dollID rows
    else none

def saveDoll (store : DollStore) (state : DollState) (calls : SaveCalls) :
    DollStore × Option SaveError :=
  if state.identity.dollID = [] then (store, some .invalidDollID)
  else if ¬(calls.begin ∧ calls.read ∧ calls.upsert) then (store, some .cannotSave)
  else
    match savedMemories store state calls with
    | none => (store, some .cannotSave)
    | some memories =>
      if calls.commit then
        (⟨store.dolls.insert state.identity.dollID
          (savedRow (store.dolls.lookup state.identity.dollID) state), memories⟩, none)
      else (store, some .commit)

inductive LoadError where
  | invalidDollID
  | notFound
  | cannotDecode
  deriving DecidableEq

/-- A column with a value that stands for nothing. -/
def readColumn {σ : Type} (r : Record σ) (blank : Text) (absent : σ) (column : Text) :
    Option σ :=
  if column = blank then some absent else r.unmarshal column

/-- Whether the two queries of a load work. -/
structure LoadCalls where
  row : Bool
  memories : Bool
  deriving DecidableEq

def readRow (row : DollRow) : Option DollState := do
  let identity ← Identity.record.unmarshal row.identityJSON
  let soul ← Soul.record.unmarshal row.soulJSON
  let owner ← Owner.record.unmarshal row.ownerJSON
  let self ← readColumn Self.record "{}".toList newDollState.self row.selfJSON
  let drives ← readColumn Drives.record "[]".toList newDollState.drives row.drivesJSON
  let goals ← readColumn Goals.record "[]".toList newDollState.goals row.goalsJSON
  let intentions ←
    readColumn Intentions.record "[]".toList newDollState.intentions row.intentionsJSON
  return { newDollState with
    version := row.version
    identity := identity
    soul := soul
    owner := owner
    self := self
    drives := ⟨nonempty drives.items⟩
    goals := ⟨nonempty goals.items⟩
    intentions := ⟨nonempty intentions.items⟩ }

/-- The memories of a Doll ordered by their sequence; without rows the slice is nil. -/
def DollStore.loadedMemories (store : DollStore) (dollID : Text) : Memories :=
  ⟨nonempty (some ((store.rows dollID).insertionSort fun a b => a.sequence ≤ b.sequence))⟩

def loadDoll (store : DollStore) (dollID : Text) (calls : LoadCalls) :
    Except LoadError DollState :=
  if dollID = [] then .error .invalidDollID
  else if ¬calls.row then .error .cannotDecode
  else
    match store.dolls.lookup dollID with
    | none => .error .notFound
    | some row =>
      match readRow row with
      | none => .error .cannotDecode
      | some state =>
        if calls.memories then .ok { state with memories := store.loadedMemories dollID }
        else .error .cannotDecode

/-! ## What a save and a load do -/

section

variable {state loaded : DollState}

theorem insertMemories_eq
    (inserted : insertMemories n rows items = some saved) : saved = rows ++ items := by
  induction items generalizing n rows with
  | nil => grind [insertMemories]
  | cons m rest ih =>
    cases n with
    | zero => cases inserted
    | succ n => grind [insertMemories]

theorem saveDoll_cases (store : DollStore) (state : DollState) (calls : SaveCalls) :
    (∃ e, saveDoll store state calls = (store, some e)) ∨
      ∃ next, saveDoll store state calls = (next, none) ∧
        next.dolls = store.dolls.insert state.identity.dollID
          (savedRow (store.dolls.lookup state.identity.dollID) state) ∧
        ∀ d, next.rows d =
          if d = state.identity.dollID then
            state.memories.items.getD (store.rows state.identity.dollID)
          else store.rows d := by
  rw [saveDoll]
  split
  · exact .inl ⟨_, rfl⟩
  split
  · exact .inl ⟨_, rfl⟩
  cases saved : savedMemories store state calls with
  | none => exact .inl ⟨_, rfl⟩
  | some memories =>
    dsimp only
    split
    · refine .inr ⟨_, rfl, rfl, fun d => ?_⟩
      rw [savedMemories] at saved
      cases given : state.memories.items <;> rw [given] at saved
      case none =>
        cases saved
        split
        · rename_i same
          rw [same]
          rfl
        · rfl
      case some items =>
        dsimp only at saved
        split at saved
        · obtain ⟨_, inserted, eq⟩ := map_eq_some_iff.mp saved
          have same := insertMemories_eq inserted
          rw [← eq, same]
          change ((store.memories.insert state.identity.dollID items).lookup d).getD [] = _
          rw [GoMap.lookup_insert_ite]
          split
          all_goals rfl
        · cases saved
    · exact .inl ⟨_, rfl⟩

theorem loadedMemories_perm (store : DollStore) (dollID : Text) :
    ((store.loadedMemories dollID).items.getD []).Perm (store.rows dollID) := by
  grind [List.perm_insertionSort, DollStore.loadedMemories, nonempty]

theorem mem_loadedMemories (store : DollStore) (dollID : Text) (m : MemoryItem) :
    m ∈ (store.loadedMemories dollID).items.getD [] ↔ m ∈ store.rows dollID :=
  (loadedMemories_perm store dollID).mem_iff

theorem readRow_identity (read : readRow row = some loaded) :
    Identity.record.unmarshal row.identityJSON = some loaded.identity := by
  rw [readRow] at read
  obtain ⟨_, here, read⟩ := bind_eq_some_iff.mp read
  obtain ⟨_, _, read⟩ := bind_eq_some_iff.mp read
  obtain ⟨_, _, read⟩ := bind_eq_some_iff.mp read
  obtain ⟨_, _, read⟩ := bind_eq_some_iff.mp read
  obtain ⟨_, _, read⟩ := bind_eq_some_iff.mp read
  obtain ⟨_, _, read⟩ := bind_eq_some_iff.mp read
  obtain ⟨_, _, read⟩ := bind_eq_some_iff.mp read
  cases read
  exact here

/-- Every Doll is stored under its own id, and memories belong to a stored Doll. -/
structure DollStore.Keyed (store : DollStore) : Prop where
  named : ∀ dollID row, store.dolls.lookup dollID = some row →
    ∀ state, readRow row = some state → state.identity.dollID = dollID
  owned : ∀ dollID, store.dolls.lookup dollID = none → store.rows dollID = []

theorem saveDoll_keyed (keyed : store.Keyed)
    (saved : saveDoll store state calls = (next, error?)) : next.Keyed := by
  rcases saveDoll_cases store state calls with ⟨e, _⟩ | ⟨_, done, dolls, _⟩
  · grind
  rw [done] at saved
  cases saved
  constructor
  · intro dollID row found loaded read
    rw [dolls] at found
    rcases GoMap.lookup_insert_some found with ⟨same, rfl⟩ | ⟨-, found⟩
    · have identity := readRow_identity read
      rw [savedRow, Identity.record.unmarshal_marshal (by decide)] at identity
      rw [same]
      exact congrArg Identity.dollID (Option.some.inj identity).symm
    · exact keyed.named dollID row found loaded read
  · grind [DollStore.Keyed]

theorem loadDoll_ok (read : loadDoll store dollID calls = .ok loaded) :
    loaded.memories = store.loadedMemories dollID ∧
      (store.Keyed → loaded.identity.dollID = dollID) := by
  rw [loadDoll] at read
  split at read
  · cases read
  split at read
  · cases read
  cases found : store.dolls.lookup dollID with
  | none =>
    rw [found] at read
    cases read
  | some row => grind [DollStore.Keyed]

theorem loadDoll_notFound
    (missing : loadDoll store dollID calls = .error .notFound) :
    store.dolls.lookup dollID = none := by
  unfold loadDoll at missing
  split at missing
  · cases missing
  split at missing
  · cases missing
  split at missing
  · assumption
  · grind

end

end NeonDoll.Persistence
