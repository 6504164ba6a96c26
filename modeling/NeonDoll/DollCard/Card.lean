import NeonDoll.DollState.Types
import NeonDoll.Lib.GoMap
import NeonDoll.Lib.Scanner

/-!
# The Doll Card

`Encode` and `Decode` of `DollCard/encode.go` and `DollCard/decode.go`.  An archive is the list
of its entries with their contents, which are texts in UTF-8; writing and reading the container
itself loses nothing.
-/

namespace NeonDoll.DollCard

open Lib Text Json DollState

abbrev Archive := List (Text × Text)

structure CardHeader where
  version : Int64
  deriving DecidableEq

def CardHeader.record : Record CardHeader where
  fields := [.int "version".toList version fun i x => { x with version := i }]
  zero := ⟨0⟩
  restored := id
  depth := 0
  distinct := by decide
  shallow := flat_int flat_nil
  restores := fun _ => copyAll_int

def currentCardVersion : Int64 := 1

/-! ## Encoding -/

/-- Nothing is written without memories. -/
def writeMemories (items : List MemoryItem) : Option Text :=
  if items = [] then none else some (joinLines (items.map MemoryItem.record.marshal))

def segmentName : Text := "memories/memories-000001.jsonl".toList

/-- The files in the order in which they are written, the optional ones with their condition. -/
def files (state : DollState) : List (Text × Option Text) :=
  [ ("card.json".toList, some (CardHeader.record.marshal ⟨currentCardVersion⟩)),
    ("identity.json".toList, some (Identity.record.marshal state.identity)),
    ("soul.md".toList, some state.soul.content),
    ("self/self.json".toList,
      if state.self.displayName ≠ [] ∨ state.self.pronouns ≠ [] ∨ state.self.tagline ≠ [] then
        some (Self.record.marshal state.self)
      else none),
    ("owner/owner.md".toList, some state.owner.content),
    (segmentName, writeMemories (state.memories.items.getD [])),
    ("drives/drives.json".toList,
      if state.drives.items.getD [] ≠ [] then some (Drives.record.marshal state.drives) else none),
    ("goals/goals.json".toList,
      if state.goals.items.getD [] ≠ [] then some (Goals.record.marshal state.goals) else none),
    ("intentions/intentions.json".toList,
      if state.intentions.items.getD [] ≠ [] then
        some (Intentions.record.marshal state.intentions)
      else none) ]

def entry (file : Text × Option Text) : Archive :=
  match file with
  | (_, none) => []
  | (name, some data) => [(name, data)]

/-- The destination is taken to accept every write. -/
def encode (state : DollState) : Archive := (files state).flatMap entry

/-! ## Decoding -/

def requiredFiles : List Text :=
  ["card.json".toList, "identity.json".toList, "soul.md".toList, "owner/owner.md".toList]

inductive DecodeError where
  | missingRequired (name : Text)
  | malformed (name : Text)
  | unsupportedVersion (version : Int64)
  | missingField (name field : Text)
  | empty (name : Text)
  | scanner (name : Text)
  deriving DecidableEq

/-- Backslashes count as slashes, and slashes at the beginning are dropped. -/
def normalName (name : Text) : Text :=
  (name.map fun c => if c = '\\' then '/' else c).dropWhile fun c => c = '/'

def isDir (name : Text) : Bool := name.getLast? = some '/'

def indexEntry (index : GoMap Text Text) (file : Text × Text) : GoMap Text Text :=
  if isDir file.1 then index else index.insert (normalName file.1) file.2

/-- Of two entries with one name the later one counts. -/
def indexZIP (archive : Archive) : GoMap Text Text := archive.foldl indexEntry ∅

def isSegment (name : Text) : Bool :=
  "memories/".toList.isPrefixOf name && ".jsonl".toList.isSuffixOf name

/-- The lines of a segment; blank ones are skipped. -/
def decodeLines (name : Text) : List Text → Except DecodeError (List MemoryItem)
  | [] => .ok []
  | line :: rest =>
    if trimSpace line = [] then decodeLines name rest
    else
      match MemoryItem.record.unmarshal (trimSpace line) with
      | none => .error (.malformed name)
      | some item => (decodeLines name rest).map fun items => item :: items

def decodeSegment (name data : Text) : Except DecodeError (List MemoryItem) :=
  match decodeLines name (scanLines data).1 with
  | .error e => .error e
  | .ok items => if (scanLines data).2 then .ok items else .error (.scanner name)

def decodeSegments (index : GoMap Text Text) : List Text → Except DecodeError (List MemoryItem)
  | [] => .ok []
  | name :: rest =>
    match decodeSegment name ((index.lookup name).getD []) with
    | .error e => .error e
    | .ok items => (decodeSegments index rest).map fun later => items ++ later

/-- Nil if there is no segment or no item. -/
def decodeMemories (index : GoMap Text Text) : Except DecodeError Memories :=
  let names := (index.keys.filter isSegment).insertionSort fun a b => ¬b < a
  (decodeSegments index names).map fun items => ⟨if items = [] then none else some items⟩

/-- `parseJSON` of a required file. -/
def parseJSON {σ : Type} (r : Record σ) (name : Text) (data : Text) : Except DecodeError σ :=
  match r.unmarshal data with
  | none => .error (.malformed name)
  | some x => .ok x

/-- `parseJSON` of a file that may be absent. -/
def parseOptional {σ : Type} (r : Record σ) (index : GoMap Text Text) (name : Text) (absent : σ) :
    Except DecodeError σ :=
  match index.lookup name with
  | none => .ok absent
  | some data => parseJSON r name data

def checkVersion (card : CardHeader) : Except DecodeError Unit :=
  if card.version ≠ currentCardVersion then .error (.unsupportedVersion card.version) else .ok ()

def checkIdentity (identity : Identity) : Except DecodeError Unit :=
  if identity.dollID = [] then .error (.missingField "identity.json".toList "doll_id".toList)
  else if identity.canonicalName = [] then
    .error (.missingField "identity.json".toList "canonical_name".toList)
  else .ok ()

/-- Prose is trimmed and must not be empty. -/
def prose (name : Text) (data : Text) : Except DecodeError Text :=
  if trimSpace data = [] then .error (.empty name) else .ok (trimSpace data)

def checkRequired (index : GoMap Text Text) : List Text → Except DecodeError Unit
  | [] => .ok ()
  | name :: rest =>
    match index.lookup name with
    | none => .error (.missingRequired name)
    | some _ => checkRequired index rest

def content (index : GoMap Text Text) (name : Text) : Text := (index.lookup name).getD []

def decodeZip (archive : Archive) : Except DecodeError DollState := do
  let index := indexZIP archive
  checkRequired index requiredFiles
  let card ← parseJSON CardHeader.record "card.json".toList (content index "card.json".toList)
  checkVersion card
  let identity ←
    parseJSON Identity.record "identity.json".toList (content index "identity.json".toList)
  checkIdentity identity
  let soul ← prose "soul.md".toList (content index "soul.md".toList)
  let owner ← prose "owner/owner.md".toList (content index "owner/owner.md".toList)
  let self ← parseOptional Self.record index "self/self.json".toList newDollState.self
  let memories ← decodeMemories index
  let drives ← parseOptional Drives.record index "drives/drives.json".toList newDollState.drives
  let goals ← parseOptional Goals.record index "goals/goals.json".toList newDollState.goals
  let intentions ←
    parseOptional Intentions.record index "intentions/intentions.json".toList
      newDollState.intentions
  return { newDollState with
    identity := identity
    soul := ⟨1, soul⟩
    owner := ⟨[], [], owner⟩
    self := self
    memories := memories
    drives := drives
    goals := goals
    intentions := intentions }

end NeonDoll.DollCard
