import Mathlib

/-!
# Finite maps

Maps of the source are association lists with distinct keys.  This file adds to Mathlib's
`AList` the operations the handlers use on whole maps, each with its lookup equation.
-/

namespace NeonDoll.Lib

open List AList

universe u v

/-- A finite map with decidable keys. -/
abbrev GoMap (K : Type u) (V : Type v) := AList (fun _ : K => V)

namespace GoMap

variable {K : Type u} {V : Type v} [DecidableEq K]

@[grind =] theorem lookup_insert_ite (m : GoMap K V) (k k' : K) (v : V) :
    (m.insert k v).lookup k' = if k' = k then some v else m.lookup k' := by
  split
  · rename_i same
    rw [same, lookup_insert]
  · rename_i differ
    exact lookup_insert_ne differ

variable {m : GoMap K V}

/-- What a map holds after an insertion is the new value or was there before. -/
theorem lookup_insert_some (found : (m.insert k v).lookup k' = some w) :
    k' = k ∧ w = v ∨ k' ≠ k ∧ m.lookup k' = some w := by
  rw [lookup_insert_ite] at found
  split at found
  · rename_i same
    cases found
    exact .inl ⟨same, rfl⟩
  · rename_i differ
    exact .inr ⟨differ, found⟩

theorem lookup_insert_fresh (fresh : m.lookup k = none)
    (found : m.lookup k' = some v') : (m.insert k v).lookup k' = some v' := by
  have other : k' ≠ k := by
    rintro rfl
    rw [found] at fresh
    cases fresh
  rw [lookup_insert_ne other, found]

@[grind =] theorem lookup_erase_ite (m : GoMap K V) (k k' : K) :
    (m.erase k).lookup k' = if k' = k then none else m.lookup k' := by
  split
  · rename_i same
    rw [same, lookup_erase]
  · rename_i differ
    exact lookup_erase_ne differ

theorem lookup_erase_some (found : (m.erase k).lookup k' = some w) :
    k' ≠ k ∧ m.lookup k' = some w := by
  rw [lookup_erase_ite] at found
  split at found
  · cases found
  · rename_i differ
    exact ⟨differ, found⟩

/-- Deletion of every key of a list. -/
def eraseAll (m : GoMap K V) (ks : List K) : GoMap K V :=
  ks.foldl (fun acc k => acc.erase k) m

@[grind =] theorem lookup_eraseAll (m : GoMap K V) (ks : List K) (k' : K) :
    (eraseAll m ks).lookup k' = if k' ∈ ks then none else m.lookup k' := by
  induction ks generalizing m with
  | nil => simp [eraseAll]
  | cons k rest ih =>
    have step : eraseAll m (k :: rest) = eraseAll (m.erase k) rest := rfl
    rw [step, ih, lookup_erase_ite]
    by_cases same : k' = k
    all_goals simp [same]

theorem length_eraseAll_le (m : GoMap K V) (ks : List K) :
    (eraseAll m ks).keys.length ≤ m.keys.length := by
  induction ks generalizing m with
  | nil => exact Nat.le_refl _
  | cons k rest ih =>
    refine Nat.le_trans (ih (m.erase k)) ?_
    rw [AList.keys_erase]
    exact List.length_erase_le

theorem lookup_eraseAll_keys (m : GoMap K V) (n : GoMap K W) (k : K) :
    (eraseAll m n.keys).lookup k = if k ∈ n then none else m.lookup k := by
  rw [lookup_eraseAll]
  simp only [AList.mem_keys]

theorem mem_iff_lookup (m : GoMap K V) (k : K) : k ∈ m ↔ ∃ v, m.lookup k = some v := by
  rw [← lookup_isSome, Option.isSome_iff_exists]

theorem mem_eraseAll (m : GoMap K V) (ks : List K) (k : K) :
    k ∈ eraseAll m ks ↔ k ∉ ks ∧ k ∈ m := by
  rw [mem_iff_lookup, mem_iff_lookup, lookup_eraseAll]
  split
  · rename_i erased
    simp [erased]
  · rename_i kept
    simp [kept]

/-- In-place change of the value under a key; a missing key leaves the map alone. -/
def modify (m : GoMap K V) (k : K) (f : V → V) : GoMap K V :=
  match m.lookup k with
  | none => m
  | some v => m.insert k (f v)

@[grind =] theorem lookup_modify (m : GoMap K V) (k k' : K) (f : V → V) :
    (modify m k f).lookup k' = if k' = k then (m.lookup k).map f else m.lookup k' := by
  cases found : m.lookup k with
  | none =>
    have same : modify m k f = m := by rw [modify, found]
    rw [same]
    split
    · rename_i eq
      rw [eq, found]
      rfl
    · rfl
  | some v =>
    have changed : modify m k f = m.insert k (f v) := by rw [modify, found]
    rw [changed, lookup_insert_ite]
    rfl

/-- Every value is changed in place. -/
def mapValues (m : GoMap K V) (f : V → V) : GoMap K V :=
  ⟨m.entries.map fun entry => ⟨entry.1, f entry.2⟩, by
    have keys : (m.entries.map fun entry => (⟨entry.1, f entry.2⟩ : Sigma fun _ : K => V)).keys =
        m.entries.keys := by
      simp [List.keys, Function.comp_def]
    rw [List.NodupKeys, keys]
    exact m.nodupKeys⟩

@[grind =] theorem lookup_mapValues (m : GoMap K V) (f : V → V) (k : K) :
    (mapValues m f).lookup k = (m.lookup k).map f := by
  have entries : ∀ l : List (Sigma fun _ : K => V),
      (l.map fun entry => (⟨entry.1, f entry.2⟩ : Sigma fun _ : K => V)).dlookup k =
        (l.dlookup k).map f := by
    intro l
    induction l with
    | nil => rfl
    | cons entry rest ih =>
      obtain ⟨k', v⟩ := entry
      by_cases same : k = k'
      · subst same
        simp
      · rw [map_cons, dlookup_cons_ne _ _ same, dlookup_cons_ne _ _ same]
        exact ih
  exact entries m.entries

end GoMap

end NeonDoll.Lib
