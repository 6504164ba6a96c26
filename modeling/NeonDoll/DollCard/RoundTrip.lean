import NeonDoll.DollCard.Card

/-!
# Decoding an encoded Doll

The card keeps the identity, the prose without the white space around it, and the structured
parts of the state.  Of the Owner it holds the prose only.
-/

namespace NeonDoll.DollCard

open Lib Text Json DollState List GoMap Option AList

/-! ## The files of an archive -/

section Index

variable {written : List (Text × Option Text)} {name : Text} {index : GoMap Text Text}

/-- Names that the reader leaves as they are. -/
def Plain (name : Text) : Prop := isDir name = false ∧ normalName name = name

theorem indexEntry_plain (plain : Plain name) :
    indexEntry index (name, data) = index.insert name data := by
  rw [indexEntry, plain.1, plain.2]
  rfl

theorem lookup_absent (plain : ∀ n ∈ written.map Prod.fst, Plain n)
    (absent : name ∉ written.map Prod.fst) :
    ((written.flatMap entry).foldl indexEntry index).lookup name = index.lookup name := by
  induction written generalizing index with
  | nil => rfl
  | cons file rest ih =>
    obtain ⟨n, data?⟩ := file
    rw [map_cons] at plain absent
    have later : ∀ index : GoMap Text Text,
        ((rest.flatMap entry).foldl indexEntry index).lookup name = index.lookup name :=
      fun _ => ih (fun m member => plain m (mem_cons_of_mem n member))
        (fun member => absent (mem_cons_of_mem n member))
    cases data? with
    | none => exact later index
    | some data => grind [Plain, indexEntry_plain, entry]

theorem lookup_written (plain : ∀ n ∈ written.map Prod.fst, Plain n)
    (distinct : (written.map Prod.fst).Nodup) (member : (name, data?) ∈ written) :
    ((written.flatMap entry).foldl indexEntry index).lookup name =
      data?.or (index.lookup name) := by
  induction written generalizing index with
  | nil => cases member
  | cons file rest ih =>
    obtain ⟨n, found⟩ := file
    rw [map_cons] at plain
    rw [map_cons, nodup_cons] at distinct
    have plainRest := fun m member => plain m (mem_cons_of_mem n member)
    have first : (((n, found) :: rest).flatMap entry).foldl indexEntry index =
        (rest.flatMap entry).foldl indexEntry ((entry (n, found)).foldl indexEntry index) := by
      rw [flatMap_cons, foldl_append]
    rw [first]
    rcases mem_cons.mp member with same | later
    · cases same
      rw [lookup_absent plainRest distinct.1]
      cases data? with
      | none => rfl
      | some data =>
        change (indexEntry index (name, data)).lookup name = some data
        rw [indexEntry_plain (plain name mem_cons_self), lookup_insert_ite, if_pos rfl]
    · have other : name ≠ n := by
        rintro rfl
        exact distinct.1 (mem_map.mpr ⟨(name, data?), later, rfl⟩)
      rw [ih plainRest distinct.2 later]
      cases found with
      | none => rfl
      | some data =>
        change data?.or ((indexEntry index (n, data)).lookup name) = _
        rw [indexEntry_plain (plain n mem_cons_self), lookup_insert_ite, if_neg other]

end Index

variable {state : DollState}

def fileNames : List Text :=
  [ "card.json".toList, "identity.json".toList, "soul.md".toList, "self/self.json".toList,
    "owner/owner.md".toList, segmentName, "drives/drives.json".toList, "goals/goals.json".toList,
    "intentions/intentions.json".toList ]

theorem plain_fileNames : ∀ n ∈ (files state).map Prod.fst, Plain n := by
  have all : ∀ n ∈ fileNames, isDir n = false ∧ normalName n = n := by decide
  exact all

theorem nodup_fileNames : ((files state).map Prod.fst).Nodup := by
  have all : fileNames.Nodup := by decide
  exact all

theorem lookup_encode (member : (name, data?) ∈ files state) :
    (indexZIP (encode state)).lookup name = data? := by
  rw [indexZIP, encode, lookup_written plain_fileNames nodup_fileNames member, lookup_empty,
    or_none]

theorem mem_keys_encode (key : name ∈ (indexZIP (encode state)).keys) : name ∈ fileNames := by
  by_contra absent
  obtain ⟨_, found⟩ := (mem_iff_lookup _ _).mp (mem_keys.mp key)
  rw [indexZIP, encode, lookup_absent plain_fileNames absent, lookup_empty] at found
  cases found

/-! ## Memories -/

theorem marshal_between :
    ∃ inside, MemoryItem.record.marshal m = '{' :: (inside ++ ['}']) := write_obj _

theorem trimSpace_marshal :
    trimSpace (MemoryItem.record.marshal m) = MemoryItem.record.marshal m := by
  obtain ⟨inside, eq⟩ := marshal_between
  rw [eq]
  exact trimSpace_between (by decide) (by decide) inside

theorem dropCR_marshal : dropCR (MemoryItem.record.marshal m) = MemoryItem.record.marshal m := by
  obtain ⟨inside, eq⟩ := marshal_between
  have last : ('{' :: (inside ++ ['}'])).getLast? = some '}' := by
    rw [← cons_append, List.getLast?_concat]
  rw [eq, dropCR, last]
  rfl

theorem newline_not_mem_marshal : '\n' ∉ MemoryItem.record.marshal m := by
  intro member
  have printed := printed_write _ '\n' member
  revert printed
  decide

theorem unmarshal_marshal_memory :
    MemoryItem.record.unmarshal (MemoryItem.record.marshal m) = some m :=
  MemoryItem.record.unmarshal_marshal (by decide) m

theorem decodeLines_marshal :
    decodeLines name (items.map MemoryItem.record.marshal) = .ok items := by
  induction items with
  | nil => rfl
  | cons m rest ih =>
    have nonempty : trimSpace (MemoryItem.record.marshal m) ≠ [] := by
      obtain ⟨_, eq⟩ := marshal_between
      rw [trimSpace_marshal, eq]
      exact cons_ne_nil _ _
    rw [map_cons, decodeLines, if_neg nonempty, trimSpace_marshal, unmarshal_marshal_memory]
    rw [ih]
    rfl

/-- The line of a memory item fits into the buffer of the scanner. -/
def Fits (m : MemoryItem) : Prop :=
  byteLength (MemoryItem.record.marshal m) < maxScanTokenSize

theorem decodeSegment_written (fits : ∀ m ∈ items, Fits m) :
    decodeSegment name (joinLines (items.map MemoryItem.record.marshal)) = .ok items := by
  grind [Fits, scanLines_joinLines, newline_not_mem_marshal, dropCR_marshal, decodeLines_marshal,
    decodeSegment]

theorem segments_encode (present : ∃ data, (segmentName, some data) ∈ files state) :
    (indexZIP (encode state)).keys.filter isSegment = [segmentName] := by
  obtain ⟨data, written⟩ := present
  refine perm_singleton.mp ((perm_ext_iff_of_nodup ?_ ?_).mpr ?_)
  · exact (keys_nodup _).filter _
  · exact nodup_singleton _
  intro name
  have only : ∀ n ∈ fileNames, isSegment n = true → n = segmentName := by decide
  constructor
  · grind [mem_keys_encode]
  intro member
  rw [mem_singleton.mp member]
  refine mem_filter.mpr ⟨?_, by decide⟩
  exact mem_keys.mpr ((mem_iff_lookup _ _).mpr ⟨data, lookup_encode written⟩)

theorem no_segments_encode (absent : (segmentName, none) ∈ files state) :
    (indexZIP (encode state)).keys.filter isSegment = [] := by
  refine eq_nil_iff_forall_not_mem.mpr fun name member => ?_
  obtain ⟨key, segment⟩ := mem_filter.mp member
  have only : ∀ n ∈ fileNames, isSegment n = true → n = segmentName := by decide
  rw [only name (mem_keys_encode key) segment] at key
  obtain ⟨_, found⟩ := (mem_iff_lookup _ _).mp (mem_keys.mp key)
  rw [lookup_encode absent] at found
  cases found

theorem decodeMemories_encode (fits : ∀ m ∈ state.memories.items.getD [], Fits m) :
    decodeMemories (indexZIP (encode state)) = .ok ⟨nonempty state.memories.items⟩ := by
  have written : (segmentName, writeMemories (state.memories.items.getD [])) ∈ files state := by
    simp [files]
  rw [decodeMemories]
  cases items : state.memories.items.getD [] with
  | nil =>
    rw [items] at written
    rw [no_segments_encode written, nonempty, if_pos items]
    rfl
  | cons m rest =>
    rw [items] at written fits
    have found := lookup_encode written
    have sorted : [segmentName].insertionSort (fun a b => ¬b < a) = [segmentName] := rfl
    rw [segments_encode ⟨_, written⟩, sorted, decodeSegments, found, writeMemories,
      if_neg (cons_ne_nil m rest), getD_some, decodeSegment_written fits]
    have same : nonempty state.memories.items = some (m :: rest) := by
      rw [nonempty, items, if_neg (cons_ne_nil m rest)]
      cases stored : state.memories.items <;> rw [stored] at items
      case none =>
        cases items
      case some given =>
        exact congrArg some items
    rw [same, decodeSegments]
    simp [Except.map]

/-! ## The other files -/

theorem content_encode (member : (name, some data) ∈ files state) :
    content (indexZIP (encode state)) name = data := by
  rw [content, lookup_encode member]
  rfl

theorem parseJSON_marshal {σ : Type} {r : Record σ} (bounded : r.depth < maxNestingDepth) (x : σ) :
    parseJSON r name (r.marshal x) = .ok (r.restored x) := by
  rw [parseJSON, r.unmarshal_marshal bounded]

/-- A file that is absent only if the part is empty. -/
theorem parseOptional_encode (bounded : r.depth < maxNestingDepth) [Decidable written]
    (member : (name, if written then some (r.marshal x) else none) ∈ files state)
    (empty : ¬written → r.restored x = absent) :
    parseOptional r (indexZIP (encode state)) name absent = .ok (r.restored x) := by
  grind [lookup_encode, parseJSON_marshal, parseOptional]

theorem checkRequired_of_found (found : ∀ n ∈ names, ∃ data, index.lookup n = some data) :
    checkRequired index names = .ok () := by
  induction names with
  | nil => rfl
  | cons n rest ih => grind [mem_cons_self, checkRequired]

theorem checkRequired_encode : checkRequired (indexZIP (encode state)) requiredFiles = .ok () := by
  refine checkRequired_of_found fun n member => ?_
  have written : ∃ data, (n, some data) ∈ files state := by
    simp only [requiredFiles, mem_cons, not_mem_nil, or_false] at member
    rcases member with rfl | rfl | rfl | rfl
    · exact ⟨_, .head _⟩
    · exact ⟨_, .tail _ (.head _)⟩
    · exact ⟨_, .tail _ (.tail _ (.head _))⟩
    · exact ⟨_, .tail _ (.tail _ (.tail _ (.tail _ (.head _))))⟩
  obtain ⟨data, found⟩ := written
  exact ⟨data, lookup_encode found⟩

/-- What the card keeps of a state. -/
def kept (state : DollState) : DollState where
  version := currentStateVersion
  identity := state.identity
  soul := ⟨1, trimSpace state.soul.content⟩
  owner := ⟨[], [], trimSpace state.owner.content⟩
  self := state.self
  memories := ⟨nonempty state.memories.items⟩
  drives := ⟨nonempty state.drives.items⟩
  goals := ⟨nonempty state.goals.items⟩
  intentions := ⟨nonempty state.intentions.items⟩

theorem checkIdentity_ok {identity : Identity} (id : identity.dollID ≠ [])
    (name : identity.canonicalName ≠ []) : checkIdentity identity = .ok () := by
  rw [checkIdentity, if_neg id, if_neg name]

theorem prose_ok (nonblank : trimSpace data ≠ []) : prose name data = .ok (trimSpace data) := by
  rw [prose, if_neg nonblank]

theorem self_encode : parseOptional Self.record (indexZIP (encode state)) "self/self.json".toList
      newDollState.self = .ok state.self := by
  refine parseOptional_encode (x := state.self) (by decide)
    (.tail _ (.tail _ (.tail _ (.head _)))) ?_
  intro blank
  simp only [ne_eq, not_or, not_not] at blank
  change Self.mk state.self.displayName state.self.pronouns state.self.tagline = _
  rw [blank.1, blank.2.1, blank.2.2]
  rfl

theorem drives_encode :
    parseOptional Drives.record (indexZIP (encode state)) "drives/drives.json".toList
      newDollState.drives = .ok ⟨nonempty state.drives.items⟩ := by
  refine parseOptional_encode (x := state.drives) (by decide)
    (.tail _ (.tail _ (.tail _ (.tail _ (.tail _ (.tail _ (.head _))))))) fun empty => ?_
  exact congrArg Drives.mk (if_pos (not_not.mp empty))

theorem goals_encode :
    parseOptional Goals.record (indexZIP (encode state)) "goals/goals.json".toList
      newDollState.goals = .ok ⟨nonempty state.goals.items⟩ := by
  refine parseOptional_encode (x := state.goals) (by decide)
    (.tail _ (.tail _ (.tail _ (.tail _ (.tail _ (.tail _ (.tail _ (.head _)))))))) fun empty => ?_
  exact congrArg Goals.mk (if_pos (not_not.mp empty))

theorem intentions_encode :
    parseOptional Intentions.record (indexZIP (encode state)) "intentions/intentions.json".toList
      newDollState.intentions = .ok ⟨nonempty state.intentions.items⟩ := by
  refine parseOptional_encode (x := state.intentions) (by decide)
    (.tail _ (.tail _ (.tail _ (.tail _ (.tail _ (.tail _ (.tail _ (.tail _ (.head _)))))))))
    fun empty => ?_
  exact congrArg Intentions.mk (if_pos (not_not.mp empty))

theorem ok_bind {ε α β : Type} {x : Except ε α} {a : α} (ok : x = .ok a) (f : α → Except ε β) :
    (x >>= f) = f a := by
  rw [ok]
  rfl

theorem decodeZip_encode (id : state.identity.dollID ≠ [])
    (name : state.identity.canonicalName ≠ []) (soul : trimSpace state.soul.content ≠ [])
    (owner : trimSpace state.owner.content ≠ [])
    (fits : ∀ m ∈ state.memories.items.getD [], Fits m) :
    decodeZip (encode state) = .ok (kept state) := by
  have card : parseJSON CardHeader.record "card.json".toList
      (content (indexZIP (encode state)) "card.json".toList) = .ok ⟨currentCardVersion⟩ := by
    rw [content_encode (.head _)]
    exact parseJSON_marshal (by decide) _
  have identity : parseJSON Identity.record "identity.json".toList
      (content (indexZIP (encode state)) "identity.json".toList) = .ok state.identity := by
    rw [content_encode (.tail _ (.head _))]
    exact parseJSON_marshal (by decide) _
  have soulText : prose "soul.md".toList (content (indexZIP (encode state)) "soul.md".toList) =
      .ok (trimSpace state.soul.content) := by
    rw [content_encode (.tail _ (.tail _ (.head _)))]
    exact prose_ok soul
  have ownerText : prose "owner/owner.md".toList
      (content (indexZIP (encode state)) "owner/owner.md".toList) =
      .ok (trimSpace state.owner.content) := by
    rw [content_encode (.tail _ (.tail _ (.tail _ (.tail _ (.head _)))))]
    exact prose_ok owner
  refine (ok_bind checkRequired_encode _).trans ?_
  refine (ok_bind card _).trans ?_
  refine (ok_bind (show checkVersion ⟨currentCardVersion⟩ = .ok () from rfl) _).trans ?_
  refine (ok_bind identity _).trans ?_
  refine (ok_bind (checkIdentity_ok id name) _).trans ?_
  refine (ok_bind soulText _).trans ?_
  refine (ok_bind ownerText _).trans ?_
  refine (ok_bind self_encode _).trans ?_
  refine (ok_bind (decodeMemories_encode fits) _).trans ?_
  refine (ok_bind drives_encode _).trans ?_
  refine (ok_bind goals_encode _).trans ?_
  exact ok_bind intentions_encode _

theorem getD_nonempty (items : Option (List α)) :
    (nonempty items).getD [] = items.getD [] := by
  grind [nonempty]

/-- Encoding and decoding keep the identity, the trimmed prose of Soul and Owner, and the items
of the structured parts in their order. -/
theorem card_round_trip (state : DollState) (id : state.identity.dollID ≠ [])
    (name : state.identity.canonicalName ≠ []) (soul : trimSpace state.soul.content ≠ [])
    (owner : trimSpace state.owner.content ≠ [])
    (fits : ∀ m ∈ state.memories.items.getD [], Fits m) :
    ∃ decoded, decodeZip (encode state) = .ok decoded ∧
      decoded.identity = state.identity ∧
      decoded.soul.content = trimSpace state.soul.content ∧
      decoded.owner = ⟨[], [], trimSpace state.owner.content⟩ ∧
      decoded.self = state.self ∧
      decoded.memories.items.getD [] = state.memories.items.getD [] ∧
      decoded.drives.items.getD [] = state.drives.items.getD [] ∧
      decoded.goals.items.getD [] = state.goals.items.getD [] ∧
      decoded.intentions.items.getD [] = state.intentions.items.getD [] :=
  ⟨kept state, decodeZip_encode id name soul owner fits, rfl, rfl, rfl, rfl,
    getD_nonempty _, getD_nonempty _, getD_nonempty _, getD_nonempty _⟩

def sampleState : DollState :=
  { newDollState with
    identity := ⟨['d'], ['D'], []⟩
    soul := ⟨1, [' ', 's', '\n']⟩
    owner := ⟨['o'], ['O'], ['p']⟩
    memories := ⟨some [⟨['m'], [], ['k'], ['"', '\n'], 7, []⟩]⟩ }

theorem fits_sampleState : ∀ m ∈ sampleState.memories.items.getD [], Fits m := by
  intro m member
  rw [mem_singleton.mp member, Fits]
  decide

/-- The white space around the Soul, and the id and the name of the Owner are not on the card. -/
theorem soul_and_owner_change :
    sampleState.identity.dollID ≠ [] ∧ sampleState.identity.canonicalName ≠ [] ∧
      trimSpace sampleState.soul.content ≠ [] ∧ trimSpace sampleState.owner.content ≠ [] ∧
      ∃ decoded, decodeZip (encode sampleState) = .ok decoded ∧
        decoded.soul.content ≠ sampleState.soul.content ∧ decoded.owner ≠ sampleState.owner := by
  refine ⟨by decide, by decide, by decide, by decide, kept sampleState, ?_, by decide, by decide⟩
  exact decodeZip_encode (by decide) (by decide) (by decide) (by decide)
    fits_sampleState

/-- A Doll with one memory. -/
theorem card_round_trip_sample : ∃ decoded, decodeZip (encode sampleState) = .ok decoded ∧
      decoded.memories.items.getD [] = sampleState.memories.items.getD [] := by
  obtain ⟨decoded, read, _, _, _, _, memories, _⟩ :=
    card_round_trip sampleState (by decide) (by decide) (by decide) (by decide) fits_sampleState
  exact ⟨decoded, read, memories⟩

end NeonDoll.DollCard
