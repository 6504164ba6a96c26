import NeonDoll.Daemon.MemoriesKept

/-!
# The sequences of memories

A turn numbers its two items from one more than the largest sequence
(`Core/Interaction/service.go`); a plan numbers what it retains from the number of items
(`Core/DollMind/plan.go`).  The two rules agree on lists without gaps.  The table of memories has
the sequence in its key, so a save of a list with a repeated sequence fails.
-/

namespace NeonDoll.Daemon

open Lib Transition DollState Persistence List Nat Int64

def Distinct (state : DollState) : Prop := ((items state).map MemoryItem.sequence).Nodup

instance (state : DollState) : Decidable (Distinct state) :=
  inferInstanceAs (Decidable (List.Nodup _))

/-- The two ways in which memories are added. -/
inductive Addition where
  | interaction (memory : TurnMemory)
  | experience (retained : List (Text × Text)) (now : Text)
  deriving DecidableEq

def Addition.apply (state : DollState) : Addition → DollState
  | .interaction memory => appendTurn state memory
  | .experience retained now => (MindEdit.retain retained now).apply state

def afterAdditions (state : DollState) (additions : List Addition) : DollState :=
  additions.foldl Addition.apply state

/-- Every added item has a larger sequence than all items before it. -/
def AddsAbove (state : DollState) (a : Addition) : Prop :=
  ∃ new, items (a.apply state) = items state ++ new ∧
    (∀ m ∈ new, ∀ e ∈ items state, e.sequence < m.sequence) ∧
    new.Pairwise fun e m => e.sequence < m.sequence

/-- Every statement of a save works that is not refused because of a key. -/
structure Works (calls : SaveCalls) (inserts : Nat) : Prop where
  begin : calls.begin = true
  read : calls.read = true
  upsert : calls.upsert = true
  delete : calls.delete = true
  inserts : inserts ≤ calls.inserts
  commit : calls.commit = true

/-- No save of the state fails because of the key of the memories. -/
def Savable (state : DollState) : Prop :=
  ∀ store calls, state.identity.dollID ≠ [] → Works calls (items state).length →
    (saveDoll store state calls).2 = none

/-- There is room for two sequences above the largest; or every sequence is less than the number
of items, which a plan starts from.  (That number is an `int` of the source, and so are the numbers
after it.) -/
def Addition.Fits (state : DollState) : Addition → Prop
  | .interaction _ => ∀ m ∈ items state, m.sequence.toInt + 2 < 2 ^ 63
  | .experience retained _ => retained = [] ∨
      ((∀ m ∈ items state, m.sequence.toInt < (items state).length) ∧
        (items state).length + retained.length ≤ 2 ^ 63)

instance (state : DollState) (a : Addition) : Decidable (a.Fits state) :=
  match a with
  | .interaction _ => inferInstanceAs (Decidable (∀ m ∈ items state, _))
  | .experience _ _ => inferInstanceAs (Decidable (_ ∨ _))

/-! ## The largest sequence -/

/-- The loop of `nextSequence`. -/
def largest (start : Int64) (items : List MemoryItem) : Int64 :=
  items.foldl (fun largest m => if largest < m.sequence then m.sequence else largest) start

theorem largest_cons : largest start (m :: rest) =
      largest (if start < m.sequence then m.sequence else start) rest := rfl

theorem start_le_largest (items : List MemoryItem) : start ≤ largest start items := by
  induction items generalizing start with
  | nil => exact Int64.le_refl start
  | cons m rest ih => grind [largest_cons]

variable {m : MemoryItem}

theorem le_largest {items : List MemoryItem}
    (member : m ∈ items) : m.sequence ≤ largest start items := by
  induction items generalizing start with
  | nil => cases member
  | cons e rest ih => grind [largest_cons, start_le_largest]

theorem largest_mem (start : Int64) (items : List MemoryItem) :
    largest start items = start ∨ ∃ m ∈ items, m.sequence = largest start items := by
  induction items generalizing start with
  | nil => exact .inl rfl
  | cons e rest ih => grind [largest_cons]

/-! ## What an addition adds -/

def Addition.added (state : DollState) : Addition → List MemoryItem
  | .interaction memory => turnItems (nextSequence (items state)) memory
  | .experience retained now => observations now (items state).length retained

theorem items_addition (a : Addition) : items (a.apply state) = items state ++ a.added state := by
  cases a with
  | interaction memory => rfl
  | experience retained now =>
    rw [Addition.apply, MindEdit.apply]
    split
    · rename_i none_
      rw [none_, Addition.added, observations, append_nil]
    · rfl

theorem addsAbove_iff : AddsAbove state a ↔
      (∀ m ∈ a.added state, ∀ e ∈ items state, e.sequence < m.sequence) ∧
        (a.added state).Pairwise fun e m => e.sequence < m.sequence := by
  rw [AddsAbove, items_addition]
  constructor
  · rintro ⟨new, same, above⟩
    rw [append_cancel_left same]
    exact above
  · exact fun above => ⟨_, rfl, above⟩

theorem toInt_add_one (x : Int64) : (x + 1).toInt = (x.toInt + 1).bmod (2 ^ 64) :=
  toInt_add x 1

theorem lt_add_one_iff (x : Int64) : x < x + 1 ↔ x.toInt + 1 < 2 ^ 63 := by
  rw [lt_iff_toInt_lt, toInt_add_one, Int.bmod_def]
  split
  all_goals omega

theorem toInt_add_one_of_lt {x : Int64} (room : x.toInt + 1 < 2 ^ 63) :
    (x + 1).toInt = x.toInt + 1 := by
  have low := le_toInt x
  rw [toInt_add_one, Int.bmod_def]
  split
  all_goals omega

theorem interaction_addsAbove_iff (state : DollState) (memory : TurnMemory) :
    AddsAbove state (.interaction memory) ↔ (Addition.interaction memory).Fits state := by
  have above : ∀ m ∈ items state, m.sequence ≤ largest (-1) (items state) :=
    fun m member => le_largest member
  have attained := largest_mem (-1) (items state)
  have next : nextSequence (items state) = largest (-1) (items state) + 1 := rfl
  rw [addsAbove_iff, Addition.added, turnItems, next, Addition.Fits]
  generalize largest (-1) (items state) = top at above attained
  simp only [mem_cons, not_mem_nil, or_false, forall_eq_or_imp, forall_eq,
    pairwise_cons, List.Pairwise.nil, and_true, IsEmpty.forall_iff, implies_true]
  constructor
  · rintro ⟨⟨first, -⟩, second⟩ m member
    rw [lt_add_one_iff] at second
    have room : top.toInt + 1 < 2 ^ 63 := by
      rcases attained with low | ⟨e, stored, eq⟩
      · rw [low]
        decide
      · rw [← lt_add_one_iff, ← eq]
        exact eq ▸ first e stored
    rw [toInt_add_one_of_lt room] at second
    have le := le_iff_toInt_le.mp (above m member)
    omega
  · intro fits
    have room : top.toInt + 2 < 2 ^ 63 := by
      rcases attained with low | ⟨e, stored, eq⟩
      · rw [low]
        decide
      · rw [← eq]
        exact fits e stored
    have one := (lt_add_one_iff top).mpr (by omega)
    have two : top + 1 < top + 1 + 1 := by
      rw [lt_add_one_iff, toInt_add_one_of_lt (by omega)]
      omega
    exact ⟨⟨fun e member => Int64.lt_of_le_of_lt (above e member) one,
      fun e member => Int64.lt_trans (Int64.lt_of_le_of_lt (above e member) one) two⟩, two⟩

/-! ## What a plan retains -/

theorem toInt_ofNat : (Int64.ofNat n).toInt = (n : Int).bmod (2 ^ 64) :=
  Int64.toInt_ofNat

theorem toInt_ofNat_of_lt (small : n < 2 ^ 63) : (Int64.ofNat n).toInt = n := by
  grind [toInt_ofNat]

variable {retained : List (Text × Text)} {now : Text}

theorem mem_observations (member : m ∈ observations now first retained) :
    ∃ i < retained.length, m.sequence = Int64.ofNat (first + i) := by
  induction retained generalizing first with
  | nil => cases member
  | cons head rest ih =>
    cases member with
    | head => exact ⟨0, zero_lt_succ _, rfl⟩
    | tail _ later =>
      obtain ⟨i, less, eq⟩ := ih later
      refine ⟨i + 1, succ_lt_succ less, ?_⟩
      rw [eq, add_assoc, add_comm 1 i]

theorem pairwise_observations (room : first + retained.length ≤ 2 ^ 63) :
    (observations now first retained).Pairwise fun e m => e.sequence < m.sequence := by
  induction retained generalizing first with
  | nil => exact .nil
  | cons head rest ih =>
    rw [length_cons] at room
    refine .cons ?_ (ih (by omega))
    intro m member
    obtain ⟨i, _, eq⟩ := mem_observations member
    rw [eq, lt_iff_toInt_lt, toInt_ofNat_of_lt (by omega), toInt_ofNat_of_lt (by omega)]
    omega

theorem room_of_pairwise (small : start < 2 ^ 63)
    (increasing : (observations now start retained).Pairwise fun e m => e.sequence < m.sequence) :
    start + retained.length ≤ 2 ^ 63 := by
  induction retained generalizing start with
  | nil => exact le_of_lt small
  | cons head rest ih =>
    cases rest with
    | nil =>
      rw [length_singleton]
      exact succ_le_of_lt small
    | cons second rest =>
      obtain ⟨first, increasing⟩ := pairwise_cons.mp increasing
      have less := first _ mem_cons_self
      have step : start + 1 < 2 ^ 63 := by
        rw [lt_iff_toInt_lt, toInt_ofNat_of_lt small, toInt_ofNat, Int.bmod_def] at less
        split at less
        all_goals omega
      have room := ih step increasing
      rw [length_cons] at room
      rw [length_cons, length_cons]
      omega

/-- Distinct sequences that are all below the number of items leave that number in the type:
there are not enough sequences below a negative number. -/
theorem length_lt_of_below {all : List MemoryItem} (distinct : (all.map MemoryItem.sequence).Nodup)
    (below : ∀ m ∈ all, m.sequence < Int64.ofNat all.length) : all.length < 2 ^ 63 := by
  have nodup : (all.map fun m => m.sequence.toInt).Nodup := by
    have images := distinct.map (f := Int64.toInt) fun x y => toInt_inj.mp
    rw [map_map] at images
    exact images
  have inside : (all.map fun m => m.sequence.toInt).toFinset ⊆
      Finset.Ico (-2 ^ 63) (Int64.ofNat all.length).toInt := by
    intro x member
    obtain ⟨m, found, rfl⟩ := mem_map.mp (mem_toFinset.mp member)
    exact Finset.mem_Ico.mpr
      ⟨le_toInt m.sequence, lt_iff_toInt_lt.mp (below m found)⟩
  have count := Finset.card_le_card inside
  rw [toFinset_card_of_nodup nodup, length_map, Int.card_Ico, toInt_ofNat, Int.bmod_def] at count
  split at count
  all_goals omega

theorem experience_addsAbove_iff (distinct : Distinct state) (now : Text) :
    AddsAbove state (.experience retained now) ↔
      (Addition.experience retained now).Fits state := by
  rw [addsAbove_iff, Addition.added, Addition.Fits]
  constructor
  · rintro ⟨above, increasing⟩
    cases retained with
    | nil => exact .inl rfl
    | cons head rest =>
      right
      have below : ∀ m ∈ items state, m.sequence < Int64.ofNat (items state).length :=
        fun m member => above _ mem_cons_self m member
      have small := length_lt_of_below distinct below
      refine ⟨fun m member => ?_, room_of_pairwise small increasing⟩
      have less := lt_iff_toInt_lt.mp (below m member)
      rw [toInt_ofNat_of_lt small] at less
      exact less
  · rintro (rfl | ⟨below, room⟩)
    · exact ⟨nofun, .nil⟩
    · refine ⟨fun m member e stored => ?_, pairwise_observations room⟩
      obtain ⟨i, _, eq⟩ := mem_observations member
      have small := below e stored
      rw [eq, lt_iff_toInt_lt, toInt_ofNat_of_lt (by omega)]
      omega

/-- An addition numbers its items above the others exactly if it fits. -/
theorem addsAbove_iff_fits (distinct : Distinct state) : AddsAbove state a ↔ a.Fits state := by
  cases a with
  | interaction memory => exact interaction_addsAbove_iff state memory
  | experience retained now => exact experience_addsAbove_iff distinct now

/-! ## Distinct sequences and saves -/

theorem distinct_of_addsAbove (distinct : Distinct state)
    (above : AddsAbove state a) : Distinct (a.apply state) := by
  grind [Distinct, AddsAbove]

theorem insertMemories_of_nodup {rows all : List MemoryItem} (enough : all.length ≤ n)
    (distinct : ((rows ++ all).map MemoryItem.sequence).Nodup) :
    insertMemories n rows all = some (rows ++ all) := by
  induction all generalizing n rows with
  | nil => rw [insertMemories, append_nil]
  | cons m rest ih =>
    cases n with
    | zero => cases enough
    | succ n => grind [insertMemories]

theorem savable_of_distinct (distinct : Distinct state) : Savable state := by
  intro store calls named works
  have saved : ∃ memories, savedMemories store state calls = some memories := by
    rw [savedMemories]
    cases given : state.memories.items with
    | none => exact ⟨_, rfl⟩
    | some all =>
      have eq : items state = all := by rw [items, given, Option.getD_some]
      have enough := works.inserts
      rw [Distinct, eq] at distinct
      rw [eq] at enough
      dsimp only
      have inserted : insertMemories calls.inserts [] all = some ([] ++ all) :=
        insertMemories_of_nodup enough distinct
      rw [if_pos works.delete, inserted]
      exact ⟨_, rfl⟩
  obtain ⟨_, saved⟩ := saved
  rw [saveDoll, if_neg named, if_neg (fun fails => fails ⟨works.begin, works.read, works.upsert⟩),
    saved]
  dsimp only
  rw [if_pos works.commit]

/-! ## Any order of additions -/

/-- Along the additions every item is numbered above the items before it, and in every state that
is passed the sequences are distinct and a save does not fail because of them. -/
structure StaysUnique (state : DollState) (additions : List Addition) : Prop where
  above : ∀ before a, before ++ [a] <+: additions → AddsAbove (afterAdditions state before) a
  distinct : ∀ before, before <+: additions → Distinct (afterAdditions state before)
  savable : ∀ before, before <+: additions → Savable (afterAdditions state before)

theorem afterAdditions_concat :
    afterAdditions state (before ++ [a]) = a.apply (afterAdditions state before) := by
  rw [afterAdditions, foldl_append]
  rfl

/-- If every addition fits where it is made, all states that are passed have distinct
sequences. -/
theorem distinct_afterAdditions (distinct : Distinct state)
    (fits : ∀ before a, before ++ [a] <+: additions → a.Fits (afterAdditions state before))
    (passed : before <+: additions) :
    Distinct (afterAdditions state before) := by
  induction before using List.reverseRecOn with
  | nil => exact distinct
  | append_singleton before a ih =>
    grind [prefix_append, afterAdditions_concat, distinct_of_addsAbove, addsAbove_iff_fits]

/-- For every state with distinct sequences and every order of additions: the sequences stay
unique exactly if every addition fits where it is made. -/
theorem sequences_stay_unique_iff {state : DollState} (distinct : Distinct state)
    (additions : List Addition) : StaysUnique state additions ↔
      ∀ before a, before ++ [a] <+: additions → a.Fits (afterAdditions state before) := by
  have earlier : ∀ {before a}, before ++ [a] <+: additions → before <+: additions :=
    fun passed => (prefix_append _ _).trans passed
  constructor
  · intro unique before a passed
    exact (addsAbove_iff_fits (unique.distinct before (earlier passed))).mp
      (unique.above before a passed)
  · intro fits
    have passes : ∀ before, before <+: additions → Distinct (afterAdditions state before) :=
      fun _ => distinct_afterAdditions distinct fits
    refine ⟨fun before a passed => ?_, passes, fun before passed => ?_⟩
    · exact (addsAbove_iff_fits (passes before (earlier passed))).mpr (fits before a passed)
    · exact savable_of_distinct (passes before passed)

/-- A Doll whose only memory has the sequence one: a gap. -/
def gapDoll : DollState :=
  { createdDoll ['d'] with memories := ⟨some [⟨['m'], [], [], ['x'], 1, []⟩]⟩ }

def gapPlan : Addition := .experience [(['o'], ['x'])] []

/-- A plan retains one observation after a gap: it gets the sequence that is there already, and
the save fails although every statement of it works. -/
theorem gap_repeats_sequence :
    Distinct gapDoll ∧ ¬AddsAbove gapDoll gapPlan ∧ ¬Distinct (afterAdditions gapDoll [gapPlan]) ∧
      Works saveWorks 2 ∧
      (saveDoll emptyDatabase.store (afterAdditions gapDoll [gapPlan]) saveWorks).2 =
        some .cannotSave := by
  have distinct : Distinct gapDoll := by decide
  refine ⟨distinct, ?_, by decide, ⟨rfl, rfl, rfl, rfl, by decide, rfl⟩, by decide +kernel⟩
  rw [addsAbove_iff_fits distinct]
  decide

theorem forall_prefix_cons {P : List Addition → Addition → Prop}
    {rest : List Addition} (first : P [] x)
    (later : ∀ before a, before ++ [a] <+: rest → P (x :: before) a) (before : List Addition)
    (a : Addition) (passed : before ++ [a] <+: x :: rest) : P before a := by
  cases before with
  | nil => grind
  | cons y before => grind

/-- A turn, a plan and a turn on a Doll that has no memories leave no gap. -/
theorem sequences_stay_unique_sample : StaysUnique (createdDoll ['d'])
      [.interaction (sampleMemory 'a'), gapPlan, .interaction (sampleMemory 'b')] :=
  (sequences_stay_unique_iff (by decide) _).mpr
    (forall_prefix_cons (by decide) (forall_prefix_cons (by decide)
      (forall_prefix_cons (by decide) fun before a passed => by simp at passed)))

end NeonDoll.Daemon
