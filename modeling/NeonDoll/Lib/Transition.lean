import Mathlib

/-!
# Labelled systems

A system is given by a partial step function that also returns the observable events of the
step.  A run is restricted by a guard on the state and the action of every step; the
unrestricted runs are those of the guard `free`.
-/

namespace NeonDoll.Lib.Transition

universe u v w

/-- A partial step function with events, started in one state. -/
structure System (State : Type u) (Action : Type v) (Event : Type w) where
  init : State
  step? : State → Action → Option (State × List Event)

/-- The guard that admits every step. -/
def free {State : Type u} {Action : Type v} (_ : State) (_ : Action) : Prop := True

variable {State : Type u} {Action : Type v} {Event : Type w}

namespace System

/-- Runs between two states whose steps all meet the guard, with the events in order. -/
inductive Run (sys : System State Action Event) (guard : State → Action → Prop) :
    State → List Event → State → Prop where
  | refl (s : State) : Run sys guard s [] s
  | tail {s m t : State} {trace events : List Event} {a : Action} :
      Run sys guard s trace m → guard m a → sys.step? m a = some (t, events) →
      Run sys guard s (trace ++ events) t

variable {sys : System State Action Event} {guard : State → Action → Prop} {s m t : State}
  {trace later events : List Event}

/-- A property that every admitted step keeps holds in the last state of a run. -/
theorem Run.invariant {P : State → Prop} (run : sys.Run guard s trace t) (start : P s)
    (keep : ∀ {x y : State} {a : Action} {es : List Event},
      P x → guard x a → sys.step? x a = some (y, es) → P y) : P t := by
  induction run with
  | refl => exact start
  | tail _ admitted stepped ih => exact keep ih admitted stepped

/-- A property of the trace and the state together, for invariants that mention history. -/
theorem Run.history {P : List Event → State → Prop} (run : sys.Run guard s trace t) (start : P [] s)
    (keep : ∀ {x y : State} {a : Action} {past es : List Event},
      P past x → guard x a → sys.step? x a = some (y, es) → P (past ++ es) y) : P trace t := by
  induction run with
  | refl => exact start
  | tail _ admitted stepped ih => exact keep ih admitted stepped

theorem Run.trans (first : sys.Run guard s trace m) (second : sys.Run guard m later t) :
    sys.Run guard s (trace ++ later) t := by
  induction second with
  | refl => simpa using first
  | tail _ admitted stepped ih =>
    rw [← List.append_assoc]
    exact .tail ih admitted stepped

/-- A run from `s` to `t` takes a step with the property `P`. -/
def Past (sys : System State Action Event) (guard : State → Action → Prop)
    (P : State → Action → List Event → Prop) (s t : State) : Prop :=
  ∃ before x a y events after, sys.Run guard s before x ∧ guard x a ∧
    sys.step? x a = some (y, events) ∧ P x a events ∧ sys.Run guard y after t

theorem Past.last
    (run : sys.Run guard s trace m) (admitted : guard m a)
    (stepped : sys.step? m a = some (t, events)) (holds : P m a events) : sys.Past guard P s t :=
  ⟨trace, m, a, t, events, [], run, admitted, stepped, holds, .refl t⟩

theorem Past.tail
    (past : sys.Past guard P s m) (admitted : guard m a)
    (stepped : sys.step? m a = some (t, events)) : sys.Past guard P s t := by
  obtain ⟨before, x, b, y, es, after, first, ok, step, holds, rest⟩ := past
  exact ⟨before, x, b, y, es, after ++ events, first, ok, step, holds, .tail rest admitted stepped⟩

/-- Execution of a list of actions; it stops at the first one that the guard or the step
function refuses. -/
def replay? (sys : System State Action Event) (guard : State → Action → Prop)
    [∀ x a, Decidable (guard x a)] : State → List Action → Option (State × List Event)
  | s, [] => some (s, [])
  | s, a :: rest =>
    if guard s a then
      match sys.step? s a with
      | none => none
      | some (m, events) =>
        match replay? sys guard m rest with
        | none => none
        | some (t, later) => some (t, events ++ later)
    else none

/-- A successful replay is a run. -/
theorem replay?_run [∀ x a, Decidable (guard x a)]
    (replayed : sys.replay? guard s actions = some (t, trace)) : sys.Run guard s trace t := by
  induction actions generalizing s trace with
  | nil =>
    simp only [replay?, Option.some.injEq, Prod.mk.injEq] at replayed
    obtain ⟨rfl, rfl⟩ := replayed
    exact .refl s
  | cons a rest ih =>
    rw [replay?] at replayed
    split at replayed
    · rename_i admitted
      split at replayed
      · cases replayed
      rename_i m events stepped
      split at replayed
      · cases replayed
      rename_i last later replayedRest
      simp only [Option.some.injEq, Prod.mk.injEq] at replayed
      obtain ⟨rfl, rfl⟩ := replayed
      have head : sys.Run guard s ([] ++ events) m := .tail (.refl s) admitted stepped
      exact head.trans (ih replayedRest)
    · cases replayed

/-- Actions that no step tells apart may replace each other. -/
theorem replay?_congr [∀ x a, Decidable (guard x a)]
    (same : ∀ x a b, R a b → (guard x a ↔ guard x b) ∧ sys.step? x a = sys.step? x b)
    (related : List.Forall₂ R actions actions') (s : State) :
    sys.replay? guard s actions = sys.replay? guard s actions' := by
  induction related generalizing s with
  | nil => rfl
  | cons pair _ ih =>
    obtain ⟨admitted, stepped⟩ := same s _ _ pair
    simp only [replay?, admitted, stepped, ih]

instance (x : State) (a : Action) : Decidable (free x a) := inferInstanceAs (Decidable True)

/-- A list of actions is executed with a trace and a last state that have property `Q`. -/
def replays? (sys : System State Action Event) (guard : State → Action → Prop)
    [∀ x a, Decidable (guard x a)] (actions : List Action) (Q : List Event → State → Bool) :
    Bool :=
  match sys.replay? guard sys.init actions with
  | none => false
  | some (s, trace) => Q trace s

theorem replays?_run [∀ x a, Decidable (guard x a)]
    (replayed : sys.replays? guard actions Q = true) :
    ∃ trace s, sys.Run guard sys.init trace s ∧ Q trace s = true := by
  rw [replays?] at replayed
  split at replayed
  · cases replayed
  · rename_i s trace done
    exact ⟨trace, s, replay?_run done, replayed⟩

/-- A list of actions leads to a state in which the action `a` is a step with property `Q`. -/
def reaches? (sys : System State Action Event) (guard : State → Action → Prop)
    [∀ x a, Decidable (guard x a)] (actions : List Action) (a : Action)
    (Q : State → State → List Event → Bool) : Bool :=
  match sys.replay? guard sys.init actions with
  | none => false
  | some (s, _) =>
    match sys.step? s a with
    | none => false
    | some (t, events) => decide (guard s a) && Q s t events

theorem reaches?_run [∀ x a, Decidable (guard x a)]
    (reached : sys.reaches? guard actions a Q = true) :
    ∃ trace s t events, sys.Run guard sys.init trace s ∧ guard s a ∧
      sys.step? s a = some (t, events) ∧ Q s t events = true := by
  rw [reaches?] at reached
  split at reached
  · cases reached
  rename_i s trace replayed
  split at reached
  · cases reached
  · rename_i t events stepped
    rw [Bool.and_eq_true, decide_eq_true_iff] at reached
    exact ⟨trace, s, t, events, replay?_run replayed, reached.1, stepped, reached.2⟩

end System

end NeonDoll.Lib.Transition
