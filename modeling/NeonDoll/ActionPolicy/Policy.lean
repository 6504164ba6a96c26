import NeonDoll.Lib.Text

/-!
# The action policy

`Core/ActionPolicy/policy.go`: restrictions on an action that are decided before any Body is
looked for.  Without a matching rule an action is allowed; a matching denial wins over every
other rule, and a matching requirement of approval over every permission.
-/

namespace NeonDoll.ActionPolicy

open Lib

/-- A value of type `any` in a decoded document: a string, or something else in its encoding. -/
inductive Value where
  | string (text : Text)
  | other (encoded : List Nat)
  deriving DecidableEq

/-- Decoded arguments, a `map[string]any`; `none` is the nil map. -/
abbrev Arguments := Option (List (Text × Value))

def Arguments.get (arguments : Arguments) (key : Text) : Option Value :=
  match arguments with
  | none => none
  | some entries => entries.lookup key

inductive Decision where
  | allow
  | deny
  | requireApproval
  | other
  deriving DecidableEq

/-- The action that a policy decides about. -/
structure Request where
  doll : Text
  capability : Text
  operation : Text
  arguments : Arguments
  deriving DecidableEq

structure Result where
  decision : Decision
  reason : Text
  message : Text
  deriving DecidableEq

structure Rule where
  doll : Text
  capability : Text
  operation : Text
  decision : Decision
  reason : Text
  message : Text
  deriving DecidableEq

/-- The rule applies to the action; a blank Doll stands for every Doll. -/
def Rule.applies (rule : Rule) (request : Request) : Bool :=
  rule.capability = request.capability ∧ rule.operation = request.operation ∧
    (rule.doll = [] ∨ rule.doll = request.doll)

def Rule.result (rule : Rule) : Result := ⟨rule.decision, rule.reason, rule.message⟩

/-- The loop of `Evaluate` with the result matched so far. -/
def evaluateFrom (request : Request) : Option Result → List Rule → Result
  | matched, [] => matched.getD ⟨.allow, "unrestricted".toList, []⟩
  | matched, rule :: rest =>
    if rule.applies request then
      if rule.decision = .deny then rule.result
      else if matched = none ∨ rule.decision = .requireApproval then
        evaluateFrom request (some rule.result) rest
      else evaluateFrom request matched rest
    else evaluateFrom request matched rest

def evaluate (rules : List Rule) (request : Request) : Result := evaluateFrom request none rules

end NeonDoll.ActionPolicy
