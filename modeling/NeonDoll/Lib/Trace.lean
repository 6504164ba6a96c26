import Mathlib

/-!
# Elements of a trace and what precedes them

A property of every element together with the part of the list before it, and how it is
established for lists that are put together from parts.
-/

namespace NeonDoll.Lib

universe u v

variable {α : Type u} {P Q : List α → α → Prop} {l l' : List α}

/-- `P before e` holds for every element `e` with the elements `before` it. -/
def Throughout (P : List α → α → Prop) (l : List α) : Prop :=
  ∀ before e after, l = before ++ e :: after → P before e

namespace Throughout

theorem nil : Throughout P [] := by
  intro before e after eq
  cases before <;> cases eq

theorem cons (head : P [] e) (tail : Throughout (fun before => P (e :: before)) l) :
    Throughout P (e :: l) := by
  intro before e' after eq
  cases before with
  | nil =>
    cases eq
    exact head
  | cons first rest =>
    injection eq with same eq
    subst same
    exact tail rest e' after eq

theorem append (first : Throughout P l) (second : Throughout (fun before => P (l ++ before)) l') :
    Throughout P (l ++ l') := by
  induction l generalizing P with
  | nil => exact second
  | cons e rest ih =>
    refine cons (first [] e rest rfl) (ih ?_ second)
    intro before e' after eq
    exact first (e :: before) e' after (by rw [eq, List.cons_append])

theorem mono (all : Throughout P l) (implies : ∀ before e, P before e → Q before e) :
    Throughout Q l :=
  fun before e after eq => implies before e (all before e after eq)

/-- A property that no longer past can spoil holds of a list of parts if it holds of each. -/
theorem flatMap {f : β → List α} {parts : List β}
    (longer : ∀ past before e, P before e → P (past ++ before) e)
    (each : ∀ part ∈ parts, Throughout P (f part)) : Throughout P (parts.flatMap f) := by
  induction parts with
  | nil => exact nil
  | cons part rest ih =>
    rw [List.flatMap_cons]
    refine append (each part List.mem_cons_self) ?_
    have later := ih fun part' member => each part' (List.mem_cons_of_mem part member)
    exact later.mono fun before e holds => longer (f part) before e holds

end Throughout

end NeonDoll.Lib
