import NeonDoll.Lib.Numeral

/-!
# Network addresses

Addresses and prefixes of IPv4 and IPv6, their texts in the canonical form (the first longest
run of at least two zero groups of an IPv6 address is written `::`, and an IPv4-mapped one ends
in the dotted form), and the reading of such texts.
-/

namespace NeonDoll.Lib.Netip

open Text List Nat

structure V4 where
  octets : List Nat
  length_eq : octets.length = 4
  bounded : ∀ octet ∈ octets, octet < 256
  deriving DecidableEq

structure V6 where
  hextets : List Nat
  length_eq : hextets.length = 8
  bounded : ∀ hextet ∈ hextets, hextet < 65536
  deriving DecidableEq

inductive Addr where
  | v4 (address : V4)
  | v6 (address : V6)
  deriving DecidableEq

def Addr.bitLen : Addr → Nat
  | .v4 _ => 32
  | .v6 _ => 128

/-- A valid prefix. -/
structure Cidr where
  addr : Addr
  bits : Nat
  fits : bits ≤ addr.bitLen
  deriving DecidableEq

/-! ## Texts -/

def dotted (octets : List Nat) : Text := ['.'].intercalate (octets.map (Nat.toDigits 10))

def leadingZeros : List Nat → Nat
  | 0 :: rest => leadingZeros rest + 1
  | _ => 0

/-- The start and the length of the first longest run of at least two zeros, or `best`. -/
def longestRun : Nat → Nat × Nat → List Nat → Nat × Nat
  | _, best, [] => best
  | i, best, hextet :: rest =>
    let length := leadingZeros (hextet :: rest)
    longestRun (i + 1) (if 2 ≤ length ∧ best.2 < length then (i, length) else best) rest

/-- The fields between the colons; a blank field for an end at which the run stands. -/
def fields (hextets : List Nat) : List Text :=
  let (start, length) := longestRun 0 (0, 0) hextets
  if length = 0 then hextets.map (Nat.toDigits 16)
  else
    (if start = 0 then [[]] else (hextets.take start).map (Nat.toDigits 16)) ++ [[]] ++
      (if start + length = hextets.length then [[]]
        else (hextets.drop (start + length)).map (Nat.toDigits 16))

/-- The octets that an IPv4-mapped address ends in. -/
def mappedOctets (hextets : List Nat) : List Nat :=
  (hextets.drop 6).flatMap fun hextet => [hextet / 256, hextet % 256]

def isMapped (hextets : List Nat) : Bool := hextets.take 6 = [0, 0, 0, 0, 0, 65535]

def Addr.text : Addr → Text
  | .v4 address => dotted address.octets
  | .v6 address =>
    if isMapped address.hextets then
      [':'].intercalate [[], [], "ffff".toList, dotted (mappedOctets address.hextets)]
    else [':'].intercalate (fields address.hextets)

def Cidr.text (p : Cidr) : Text := p.addr.text ++ '/' :: Nat.toDigits 10 p.bits

/-! ## Reading -/

def readBelow (base bound : Nat) (t : Text) : Option Nat :=
  match toNat? base t with
  | none => none
  | some n => if n < bound then some n else none

def readOctets (t : Text) : Option (List Nat) := readAll (readBelow 10 256) (t.splitOn '.')

/-- The fields after the gap; a single blank field stands for none. -/
def afterGap : List Text → Option (List Text)
  | [] => none
  | [[]] => some []
  | right => some right

/-- The fields to the right of `::`, from what follows the first blank field. -/
def rightOf (left rest : List Text) : Option (List Text) :=
  match left, rest with
  | [], [] :: right => afterGap right
  | [], _ => none
  | _ :: _, right => afterGap right

def readHextets (fields : List Text) : Option (List Nat) :=
  let left := fields.takeWhile (· ≠ [])
  match fields.dropWhile (· ≠ []) with
  | [] => readAll (readBelow 16 65536) fields
  | _ :: rest =>
    match rightOf left rest with
    | none => none
    | some right =>
      match readAll (readBelow 16 65536) left, readAll (readBelow 16 65536) right with
      | some l, some r =>
        if l.length + r.length < 8 then
          some (l ++ List.replicate (8 - (l.length + r.length)) 0 ++ r)
        else none
      | _, _ => none

/-- The hextets of an IPv4-mapped address with these octets. -/
def mapped : List Nat → List Nat
  | [a, b, c, d] => [0, 0, 0, 0, 0, 65535, a * 256 + b, c * 256 + d]
  | _ => []

def readFields (fields : List Text) : Option (List Nat) :=
  match fields with
  | [[], [], middle, last] =>
    if '.' ∈ last then
      if middle = "ffff".toList then (readOctets last).map mapped else none
    else readHextets fields
  | _ => readHextets fields

def readAddr (t : Text) : Option Addr :=
  if ':' ∈ t then
    match readFields (t.splitOn ':') with
    | none => none
    | some hextets =>
      if h : hextets.length = 8 ∧ ∀ hextet ∈ hextets, hextet < 65536 then
        some (.v6 ⟨hextets, h.1, h.2⟩)
      else none
  else
    match readOctets t with
    | none => none
    | some octets =>
      if h : octets.length = 4 ∧ ∀ octet ∈ octets, octet < 256 then
        some (.v4 ⟨octets, h.1, h.2⟩)
      else none

def readCidr (t : Text) : Option Cidr :=
  match t.splitOn '/' with
  | [address, length] =>
    match readAddr address, toNat? 10 length with
    | some addr, some bits => if h : bits ≤ addr.bitLen then some ⟨addr, bits, h⟩ else none
    | _, _ => none
  | _ => none

/-! ## The texts can be read back -/

variable {c sep : Char} {ls : List Text}

theorem mem_intercalate (member : c ∈ [sep].intercalate ls) : c = sep ∨ ∃ l ∈ ls, c ∈ l := by
  induction ls with
  | nil => cases member
  | cons l rest ih =>
    cases rest with
    | nil =>
      rw [intercalate_singleton] at member
      exact .inr ⟨l, mem_singleton_self l, member⟩
    | cons l' rest => grind [intercalate_cons_cons]

theorem readBelow_toDigits (large : 1 < base) (small : base ≤ 16)
    (below : n < bound) : readBelow base bound (Nat.toDigits base n) = some n := by
  rw [readBelow, toNat?_toDigits large small]
  exact if_pos below

variable {octets : List Nat}

theorem readOctets_dotted (some_left : octets ≠ [])
    (bounded : ∀ octet ∈ octets, octet < 256) : readOctets (dotted octets) = some octets := by
  have undotted : ∀ l ∈ octets.map (Nat.toDigits 10), '.' ∉ l := by
    intro l member
    obtain ⟨n, _, rfl⟩ := mem_map.mp member
    exact not_mem_toDigits (by decide) (by decide) (by decide)
  rw [readOctets, dotted, splitOn_intercalate '.' undotted (by simpa using some_left)]
  exact readAll_map fun octet member =>
    readBelow_toDigits (by decide) (by decide) (bounded octet member)

theorem leadingZeros_le : leadingZeros hextets ≤ hextets.length := by
  induction hextets with
  | nil => exact le_refl 0
  | cons hextet rest ih =>
    cases hextet with
    | zero =>
      rw [leadingZeros, length_cons]
      exact succ_le_succ ih
    | succ n => exact zero_le _

theorem take_leadingZeros :
    hextets.take (leadingZeros hextets) = List.replicate (leadingZeros hextets) 0 := by
  induction hextets with
  | nil => rfl
  | cons hextet rest ih =>
    cases hextet with
    | zero =>
      rw [leadingZeros, take_succ_cons, replicate_succ, ih]
    | succ n => rfl

theorem longestRun_spec (i : Nat) (best : Nat × Nat) :
    longestRun i best hextets = best ∨
      ∃ offset length, longestRun i best hextets = (i + offset, length) ∧
        offset + length ≤ hextets.length ∧
        (hextets.drop offset).take length = List.replicate length 0 := by
  induction hextets generalizing i best with
  | nil => exact .inl rfl
  | cons hextet rest ih =>
    rw [longestRun]
    rcases ih (i + 1) (if 2 ≤ leadingZeros (hextet :: rest) ∧
        best.2 < leadingZeros (hextet :: rest) then (i, leadingZeros (hextet :: rest))
        else best) with same | ⟨offset, length, eq, _, zeros⟩
    · rw [same]
      split
      · exact .inr ⟨0, _, rfl, by rw [Nat.zero_add]; exact leadingZeros_le, take_leadingZeros⟩
      · exact .inl rfl
    · refine .inr ⟨offset + 1, length, ?_, ?_, ?_⟩
      · rw [eq, Nat.add_assoc, Nat.add_comm 1 offset]
      · rw [length_cons]
        omega
      · rw [drop_succ_cons]
        exact zeros

theorem toDigits_filter (hextets : List Nat) :
    ∀ field ∈ hextets.map (Nat.toDigits 16), (decide (field ≠ [])) = true := by
  grind [toDigits_ne_nil]

variable {hextets : List Nat}

theorem afterGap_map (some_left : hextets ≠ []) :
    afterGap (hextets.map (Nat.toDigits 16)) = some (hextets.map (Nat.toDigits 16)) := by
  cases hextets with
  | nil => exact absurd rfl some_left
  | cons hextet rest => grind [toDigits_ne_nil, afterGap]

theorem readAll_hextets (bounded : ∀ hextet ∈ hextets, hextet < 65536) :
    readAll (readBelow 16 65536) (hextets.map (Nat.toDigits 16)) = some hextets :=
  readAll_map fun hextet member =>
    readBelow_toDigits (by decide) (by decide) (bounded hextet member)

/-- The groups around a gap are read back with the zeros between them. -/
theorem readHextets_gap (left right : List Nat) (few : left.length + right.length < 8)
    (boundedLeft : ∀ hextet ∈ left, hextet < 65536)
    (boundedRight : ∀ hextet ∈ right, hextet < 65536) :
    readHextets ((if left = [] then [[]] else left.map (Nat.toDigits 16)) ++ [[]] ++
        (if right = [] then [[]] else right.map (Nat.toDigits 16))) =
      some (left ++ List.replicate (8 - (left.length + right.length)) 0 ++ right) := by
  have after : afterGap (if right = [] then [[]] else right.map (Nat.toDigits 16)) =
      some (right.map (Nat.toDigits 16)) := by
    split
    · rename_i none
      rw [none]
      rfl
    · rename_i some_left
      exact afterGap_map some_left
  cases left with
  | nil =>
    grind [takeWhile_cons, dropWhile_cons, readAll_hextets, readHextets, rightOf, readAll]
  | cons hextet rest =>
    rw [if_neg (cons_ne_nil hextet rest), append_assoc]
    have before := toDigits_filter (hextet :: rest)
    have take : ((hextet :: rest).map (Nat.toDigits 16) ++ ([[]] ++
        if right = [] then [[]] else right.map (Nat.toDigits 16))).takeWhile (· ≠ []) =
        (hextet :: rest).map (Nat.toDigits 16) := by
      rw [takeWhile_append_of_pos before]
      simp
    have drop : ((hextet :: rest).map (Nat.toDigits 16) ++ ([[]] ++
        if right = [] then [[]] else right.map (Nat.toDigits 16))).dropWhile (· ≠ []) =
        [] :: if right = [] then [[]] else right.map (Nat.toDigits 16) := by
      rw [dropWhile_append_of_pos before]
      rfl
    rw [readHextets]
    simp only [take, drop]
    rw [map_cons, rightOf, after, ← map_cons]
    simp only [readAll_hextets boundedLeft, readAll_hextets boundedRight]
    exact if_pos few

theorem readHextets_fields (length_eq : hextets.length = 8)
    (bounded : ∀ hextet ∈ hextets, hextet < 65536) :
    readHextets (fields hextets) = some hextets := by
  rcases longestRun_spec 0 (0, 0) with none | ⟨start, length, run, _, _⟩
  · -- There is no run of zeros, so that all groups are written.
    rw [fields, none]
    grind [dropWhile_eq_nil_iff.mpr, toDigits_filter, readAll_hextets, readHextets]
  rw [fields, run]
  dsimp only
  rw [Nat.zero_add]
  split
  · grind [dropWhile_eq_nil_iff.mpr, toDigits_filter, readAll_hextets, readHextets]
  have front : (hextets.take start).length = start := by
    rw [length_take]
    omega
  have back : (hextets.drop (start + length)).length = 8 - (start + length) := by
    rw [length_drop, length_eq]
  have parts : hextets =
      hextets.take start ++ List.replicate length 0 ++ hextets.drop (start + length) := by
    grind [take_append_drop, drop_drop]
  have emptyFront : start = 0 ↔ hextets.take start = [] := by
    rw [← length_eq_zero_iff, front]
  have emptyBack : start + length = hextets.length ↔
      hextets.drop (start + length) = [] := by
    rw [← length_eq_zero_iff, back, length_eq]
    omega
  have gap := readHextets_gap (hextets.take start) (hextets.drop (start + length)) (by omega)
    (fun hextet member => bounded hextet (mem_of_mem_take member))
    (fun hextet member => bounded hextet (mem_of_mem_drop member))
  have width : 8 - ((hextets.take start).length + (hextets.drop (start + length)).length) =
      length := by omega
  rw [width, ← parts] at gap
  simp only [emptyFront, emptyBack]
  exact gap

def isAddressChar (c : Char) : Bool := digitValue c < 16 ∨ c = '.' ∨ c = ':'

theorem isAddressChar_toDigits (large : 1 < base) (small : base ≤ 16)
    (member : c ∈ Nat.toDigits base n) : digitValue c < 16 :=
  lt_of_lt_of_le (digitValue_of_mem_toDigits large small member) small

theorem digits_of_fields (member : field ∈ fields hextets)
    (inside : c ∈ field) : digitValue c < 16 := by
  have written : ∀ {part : List Nat}, field ∈ part.map (Nat.toDigits 16) → digitValue c < 16 := by
    intro part found
    obtain ⟨n, _, rfl⟩ := mem_map.mp found
    exact isAddressChar_toDigits (by decide) (by decide) inside
  rw [fields] at member
  dsimp only at member
  split at member
  · exact written member
  · grind

theorem dotted_chars (member : c ∈ dotted octets) : digitValue c < 16 ∨ c = '.' := by
  rcases mem_intercalate member with dot | ⟨_, found, inside⟩
  · exact .inr dot
  · obtain ⟨n, _, rfl⟩ := mem_map.mp found
    exact .inl (isAddressChar_toDigits (by decide) (by decide) inside)

theorem Addr.text_chars {addr : Addr} (member : c ∈ addr.text) : isAddressChar c = true := by
  refine decide_eq_true ?_
  cases addr with
  | v4 address =>
    rcases dotted_chars member with digit | dot
    · exact .inl digit
    · exact .inr (.inl dot)
  | v6 address =>
    rw [Addr.text] at member
    split at member
    · rcases mem_intercalate member with colon | ⟨_, found, inside⟩
      · exact .inr (.inr colon)
      · simp only [mem_cons, not_mem_nil, or_false] at found
        rcases found with rfl | rfl | rfl | rfl
        · cases inside
        · cases inside
        · have same : "ffff".toList = List.replicate 4 'f' := rfl
          rw [same] at inside
          rw [eq_of_mem_replicate inside]
          exact .inl (by decide)
        · grind [dotted_chars]
    · grind [mem_intercalate, digits_of_fields]

theorem two_le_length_fields (length_eq : hextets.length = 8) : 2 ≤ (fields hextets).length := by
  grind [fields]

theorem mem_intercalate_of_two (two : 2 ≤ ls.length) : sep ∈ [sep].intercalate ls := by
  match ls with
  | [] => cases two
  | [_] => exact absurd two (by simp)
  | first :: second :: rest =>
    rw [intercalate_cons_cons]
    exact mem_append_left _ (mem_append_right _ (mem_singleton_self sep))

theorem drop_six (length_eq : hextets.length = 8) : ∃ a b, hextets.drop 6 = [a, b] := by
  have two : (hextets.drop 6).length = 2 := by rw [length_drop, length_eq]
  exact length_eq_two.mp two

theorem mapped_mappedOctets (length_eq : hextets.length = 8)
    (isMapped : isMapped hextets = true) : mapped (mappedOctets hextets) = hextets := by
  obtain ⟨a, b, split⟩ := drop_six length_eq
  have whole := take_append_drop 6 hextets
  rw [of_decide_eq_true isMapped, split] at whole
  rw [mappedOctets, split, ← whole]
  simp [mapped, div_add_mod']

theorem readFields_text :
    readFields ((Addr.v6 address).text.splitOn ':') = some address.hextets := by
  obtain ⟨hextets, length_eq, bounded⟩ := address
  rw [Addr.text]
  split
  · rename_i isMapped
    have octets : mappedOctets hextets ≠ [] := by
      intro none
      have back := mapped_mappedOctets length_eq isMapped
      rw [none] at back
      rw [← back] at length_eq
      cases length_eq
    have small : ∀ octet ∈ mappedOctets hextets, octet < 256 := by
      intro octet member
      obtain ⟨hextet, found, inside⟩ := mem_flatMap.mp member
      have bound := bounded hextet (mem_of_mem_drop found)
      simp only [mem_cons, not_mem_nil, or_false] at inside
      omega
    have plain : ∀ l ∈ [[], [], "ffff".toList, dotted (mappedOctets hextets)], ':' ∉ l := by
      intro l found inside
      simp only [mem_cons, not_mem_nil, or_false] at found
      rcases found with rfl | rfl | rfl | rfl
      · cases inside
      · cases inside
      · exact absurd inside (by decide)
      · rcases dotted_chars inside with digit | dot
        · exact absurd digit (by decide)
        · cases dot
    have dot : '.' ∈ dotted (mappedOctets hextets) := by
      refine mem_intercalate_of_two ?_
      rw [length_map, mappedOctets, length_flatMap]
      obtain ⟨a, b, split⟩ := drop_six length_eq
      rw [split]
      exact le_add_right 2 2
    rw [splitOn_intercalate ':' plain (cons_ne_nil _ _), readFields, if_pos dot, if_pos rfl,
      readOctets_dotted octets small, Option.map_some, mapped_mappedOctets length_eq isMapped]
  · have plain : ∀ l ∈ fields hextets, ':' ∉ l := by
      intro l found inside
      exact absurd (digits_of_fields found inside) (by decide)
    have some_left : fields hextets ≠ [] := by grind [two_le_length_fields]
    rw [splitOn_intercalate ':' plain some_left]
    unfold readFields
    split
    · rename_i _ last eq
      have undotted : '.' ∉ last := by
        intro inside
        have found : last ∈ fields hextets := by
          rw [eq]
          simp
        exact absurd (digits_of_fields found inside) (by decide)
      rw [if_neg undotted]
      exact readHextets_fields length_eq bounded
    · exact readHextets_fields length_eq bounded

theorem readAddr_text : readAddr addr.text = some addr := by
  cases addr with
  | v4 address =>
    obtain ⟨octets, length_eq, bounded⟩ := address
    have plain : ':' ∉ dotted octets := by
      intro member
      rcases dotted_chars member with digit | dot
      · exact absurd digit (by decide)
      · cases dot
    have some_left : octets ≠ [] := by
      rintro rfl
      cases length_eq
    rw [Addr.text, readAddr, if_neg plain, readOctets_dotted some_left bounded]
    exact dif_pos ⟨length_eq, bounded⟩
  | v6 address =>
    have colon : ':' ∈ (Addr.v6 address).text := by
      rw [Addr.text]
      split
      · exact mem_intercalate_of_two (le_add_right 2 2)
      · exact mem_intercalate_of_two (two_le_length_fields address.length_eq)
    rw [readAddr, if_pos colon, readFields_text]
    exact dif_pos ⟨address.length_eq, address.bounded⟩

theorem readCidr_text : readCidr p.text = some p := by
  obtain ⟨addr, bits, fits⟩ := p
  have unslashed : '/' ∉ addr.text := fun member =>
    absurd (Addr.text_chars member) (by decide)
  have digits : '/' ∉ Nat.toDigits 10 bits :=
    not_mem_toDigits (by decide) (by decide) (by decide)
  rw [Cidr.text, readCidr, splitOn_append_cons_self_of_not_mem unslashed,
    splitOn_eq_singleton digits]
  have length : toNat? 10 (Nat.toDigits 10 bits) = some bits :=
    toNat?_toDigits (by decide) (by decide) bits
  simp only [readAddr_text, length]
  exact dif_pos fits

theorem Cidr.newline_not_mem_text (p : Cidr) : '\n' ∉ p.text := by
  intro member
  rcases mem_append.mp member with address | length
  · exact absurd (Addr.text_chars address) (by decide)
  · rcases mem_cons.mp length with slash | digit
    · cases slash
    · exact not_mem_toDigits (by decide) (by decide) (by decide) digit

end NeonDoll.Lib.Netip
