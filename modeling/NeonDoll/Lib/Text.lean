import Mathlib

/-!
# Texts

A text is the list of its code points.  `trimSpace` removes the white space of the Unicode
standard at both ends.
-/

namespace NeonDoll.Lib

open List Bool

abbrev Text := List Char

instance instLawfulBEqText : LawfulBEq Text := inferInstance

namespace Text

/-- The characters with the Unicode property White_Space. -/
def isSpace (c : Char) : Bool :=
  let n := c.toNat
  (9 ≤ n ∧ n ≤ 13) ∨ n = 32 ∨ n = 0x85 ∨ n = 0xa0 ∨ n = 0x1680 ∨ (0x2000 ≤ n ∧ n ≤ 0x200a) ∨
    n = 0x2028 ∨ n = 0x2029 ∨ n = 0x202f ∨ n = 0x205f ∨ n = 0x3000

def trimRight (t : Text) : Text := (t.reverse.dropWhile isSpace).reverse

def trimSpace (t : Text) : Text := trimRight (t.dropWhile isSpace)

/-- Nothing is trimmed between two characters that are no white space. -/
theorem trimSpace_between (left : isSpace first = false)
    (right : isSpace last = false) (middle : Text) :
    trimSpace (first :: (middle ++ [last])) = first :: (middle ++ [last]) := by
  have before : (first :: (middle ++ [last])).dropWhile isSpace = first :: (middle ++ [last]) :=
    dropWhile_cons_of_neg (by rw [left]; exact false_ne_true)
  have backwards : (first :: (middle ++ [last])).reverse = last :: (middle.reverse ++ [first]) := by
    rw [reverse_cons, reverse_append, reverse_singleton, singleton_append, cons_append]
  have after : (last :: (middle.reverse ++ [first])).dropWhile isSpace =
      last :: (middle.reverse ++ [first]) :=
    dropWhile_cons_of_neg (by rw [right]; exact false_ne_true)
  rw [trimSpace, before, trimRight, backwards, after, ← backwards, reverse_reverse]

theorem trimSpace_trimSpace : trimSpace (trimSpace t) = trimSpace t := by
  have shorter : trimSpace t <+: t.dropWhile isSpace := rdropWhile_prefix isSpace _
  have front : (trimSpace t).dropWhile isSpace = trimSpace t := by
    rw [dropWhile_eq_self_iff]
    intro inside
    rw [shorter.getElem inside]
    exact dropWhile_get_zero_not isSpace t _
  have back : trimRight (trimSpace t) = trimSpace t := rdropWhile_idempotent isSpace _
  rw [trimSpace, front, back]

theorem trimSpace_of_all (plain : ∀ c ∈ t, isSpace c = false) : trimSpace t = t := by
  have whole : ∀ u : Text, (∀ c ∈ u, isSpace c = false) → u.dropWhile isSpace = u := by
    intro u free
    cases u with
    | nil => rfl
    | cons c rest =>
      apply dropWhile_cons_of_neg
      rw [free c mem_cons_self]
      exact false_ne_true
  rw [trimSpace, whole t plain, trimRight,
    whole t.reverse fun c member => plain c (mem_reverse.mp member), reverse_reverse]

end Text

end NeonDoll.Lib
