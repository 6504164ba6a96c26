import NeonDoll.Inference.Types

/-!
# The sliding window

`SlidingWindowPolicy` of `Core/ContextBuilder/window.go`: the required items and the newest
groups of items that fit the budget.  Estimates count the characters of data in memory, so
that their sums are far from the bounds of a machine integer; they are kept as integers.
-/

namespace NeonDoll.ContextBuilder

open Lib Text Inference

inductive SourceKind where
  | interactionSession
  | cognitionRun
  | other (kind : Text)
  deriving DecidableEq

structure ContextSource where
  kind : SourceKind
  id : Text
  deriving DecidableEq

inductive OmitReason where
  | tokenBudget
  | incompleteTurn
  deriving DecidableEq

/-- An empty group makes the record independently selectable. -/
structure ContextRecord where
  id : Text
  source : ContextSource
  sequence : Int
  role : Role
  content : Text
  provenance : Text
  required : Bool
  windowGroup : Text
  omitReason : Option OmitReason
  deriving DecidableEq

inductive BuildError where
  | invalidRequest
  | requiredContextExceedsBudget
  | invalidSource
  | sourceNotFound
  | sourceUnsupported
  | sourceIsolation
  | store
  deriving DecidableEq

structure WindowItem where
  record : ContextRecord
  estimatedTokens : Int
  required : Bool
  deriving DecidableEq

structure OmittedMessage where
  id : Text
  sequence : Int
  estimatedTokens : Int
  reason : OmitReason
  provenance : Text
  deriving DecidableEq

structure Window where
  items : List WindowItem
  omittedMessages : List OmittedMessage
  estimatedTokens : Int
  startSequence : Option Int
  endSequence : Option Int
  deriving DecidableEq

def tokensOf (items : List WindowItem) : Int := (items.map WindowItem.estimatedTokens).sum

/-! ## Selection -/

/-- The tokens of the required items, added to those counted so far. -/
def countRequired : List WindowItem → Int → Except BuildError Int
  | [], counted => .ok counted
  | item :: items, counted =>
    if item.estimatedTokens ≤ 0 then .error .invalidRequest
    else if item.required then
      if item.record.omitReason ≠ none then .error .invalidRequest
      else countRequired items (counted + item.estimatedTokens)
    else countRequired items counted

def selectable (item : WindowItem) : Bool := !item.required && item.record.omitReason = none

def groupKey (item : WindowItem) : Text :=
  if item.record.windowGroup = [] then "record:".toList ++ item.record.id
  else "group:".toList ++ item.record.windowGroup

def inGroup (key : Text) (item : WindowItem) : Bool := selectable item && groupKey item = key

def groupTokens (items : List WindowItem) (key : Text) : Int :=
  tokensOf (items.filter (inGroup key))

/-- The groups that are selected, from the newest item on; `seen` holds the groups met before.
The first group that does not fit ends the selection. -/
def selectGroups (items : List WindowItem) : List WindowItem → List Text → Int → List Text
  | [], _, _ => []
  | item :: older, seen, remaining =>
    if selectable item = false ∨ groupKey item ∈ seen then selectGroups items older seen remaining
    else if remaining < groupTokens items (groupKey item) then []
    else
      groupKey item :: selectGroups items older (groupKey item :: seen)
        (remaining - groupTokens items (groupKey item))

def selected (groups : List Text) (item : WindowItem) : Bool :=
  selectable item && groupKey item ∈ groups

def omittedMessage (item : WindowItem) : OmittedMessage :=
  ⟨item.record.id, item.record.sequence, item.estimatedTokens,
    item.record.omitReason.getD .tokenBudget, item.record.provenance⟩

/-- `SlidingWindowPolicy.Select`. -/
def selectWindow (items : List WindowItem) (tokenBudget : Int) : Except BuildError Window :=
  if tokenBudget < 0 then .error .requiredContextExceedsBudget
  else
    match countRequired items 0 with
    | .error e => .error e
    | .ok requiredTokens =>
      if tokenBudget < requiredTokens then .error .requiredContextExceedsBudget
      else
        let groups := selectGroups items items.reverse [] (tokenBudget - requiredTokens)
        let optional := items.filter (selected groups)
        .ok
          { items := items.filter fun item => item.required || selected groups item
            omittedMessages :=
              (items.filter fun item => !(item.required || selected groups item)).map
                omittedMessage
            estimatedTokens := requiredTokens + tokensOf optional
            startSequence := optional.head?.map fun item => item.record.sequence
            endSequence := optional.getLast?.map fun item => item.record.sequence }

/-! ## What the selection spends -/

section Sums

variable {items : List WindowItem} {p q : WindowItem → Bool}

theorem tokensOf_filter_or (disjoint : ∀ item ∈ items, p item = true → q item = false) :
    tokensOf (items.filter fun item => p item || q item) =
      tokensOf (items.filter p) + tokensOf (items.filter q) := by
  induction items with
  | nil => rfl
  | cons item items ih =>
    have rest := ih fun other member => disjoint other (List.mem_cons_of_mem item member)
    unfold tokensOf at rest ⊢
    cases first : p item with
    | true => grind
    | false => grind

theorem tokensOf_partition (items : List WindowItem) (p : WindowItem → Bool) :
    tokensOf (items.filter p) + tokensOf (items.filter fun item => !p item) = tokensOf items := by
  rw [← tokensOf_filter_or fun item _ inside => by rw [inside, Bool.not_true]]
  simp

end Sums

/-- The tokens of distinct groups are those of the items in them. -/
theorem tokensOf_selected {items : List WindowItem} (distinct : groups.Nodup) :
    tokensOf (items.filter (selected groups)) = (groups.map (groupTokens items)).sum := by
  induction groups with
  | nil =>
    have none_selected : items.filter (selected []) = [] := by
      apply List.filter_eq_nil_iff.mpr
      intro item _
      simp [selected]
    rw [none_selected]
    rfl
  | cons key groups ih =>
    obtain ⟨fresh, distinct⟩ := List.nodup_cons.mp distinct
    have split : selected (key :: groups) =
        fun item => inGroup key item || selected groups item := by
      funext item
      simp [selected, inGroup, Bool.decide_or, ← Bool.and_or_distrib_left]
    rw [split, tokensOf_filter_or, ih distinct, List.map_cons, List.sum_cons, groupTokens]
    intro item _ inside
    rw [inGroup, Bool.and_eq_true, decide_eq_true_eq] at inside
    rw [selected, inside.2, decide_eq_false fresh, Bool.and_false]

theorem selectGroups_spends (seen : List Text) (remaining : Int)
    (left : 0 ≤ remaining) : (selectGroups items older seen remaining).Nodup ∧
      (∀ key ∈ selectGroups items older seen remaining, key ∉ seen) ∧
      ((selectGroups items older seen remaining).map (groupTokens items)).sum ≤ remaining := by
  induction older generalizing seen remaining with
  | nil => exact ⟨List.nodup_nil, nofun, left⟩
  | cons item older ih =>
    unfold selectGroups
    split
    · exact ih seen remaining left
    · grind

theorem countRequired_ok (ok : countRequired items counted = .ok total) :
    total = counted + tokensOf (items.filter WindowItem.required) := by
  induction items generalizing counted with
  | nil =>
    cases ok
    exact (Int.add_zero _).symm
  | cons item items ih => grind [countRequired, tokensOf]

theorem selectWindow_within
    (ok : selectWindow items tokenBudget = .ok window) :
    window.items.Sublist items ∧ tokensOf window.items = window.estimatedTokens ∧
      window.estimatedTokens ≤ tokenBudget := by
  unfold selectWindow at ok
  split at ok
  · cases ok
  split at ok
  · cases ok
  rename_i requiredTokens counted
  split at ok
  · cases ok
  cases ok
  obtain ⟨distinct, _, spent⟩ := selectGroups_spends []
    (tokenBudget - requiredTokens) (by omega)
  have required := countRequired_ok counted
  rw [Int.zero_add] at required
  refine ⟨List.filter_sublist, ?_, ?_⟩
  · rw [tokensOf_filter_or, ← required]
    -- A required item is in no group.
    intro item _ needed
    rw [selected, selectable, needed]
    rfl
  · dsimp only
    rw [tokensOf_selected distinct]
    omega

end NeonDoll.ContextBuilder
