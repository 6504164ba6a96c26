import NeonDoll.ActionPolicy.Policy

/-!
# The Guard

`Core/Body/guard.go`: the path from an execution request to a Body.  What the registry, the
Body and the evaluator answer during one call is a parameter, so that nothing is assumed of
them; the calls that the Guard makes to the evaluator and to the Body are recorded.
-/

namespace NeonDoll.Body

open Lib ActionPolicy

abbrev BodyID := Text

inductive BodyKind where
  | local
  | remote
  | other
  deriving DecidableEq

inductive ExecutionStatus where
  | success
  | denied
  | unsupported
  | invalid
  | unavailable
  | failed
  | cancelled
  | expired
  | pending
  | running
  | other
  deriving DecidableEq

/-- The scope of a denial; `unset` is the blank text. -/
inductive AuthorityScope where
  | unset
  | body
  | global
  | other
  deriving DecidableEq

structure ExecutionRequest where
  executionID : Text
  doll : Text
  body : BodyID
  capability : Text
  operation : Text
  arguments : Arguments
  deriving DecidableEq

structure ExecutionResult where
  executionID : Text
  status : ExecutionStatus
  output : Text
  errorCode : Text
  error : Text
  denialScope : AuthorityScope
  deriving DecidableEq

structure AuthorityRequest where
  doll : Text
  body : BodyID
  capability : Text
  operation : Text
  arguments : Arguments
  deriving DecidableEq

inductive AuthorityDecision where
  | allow
  | deny
  | other
  deriving DecidableEq

structure AuthorityResult where
  decision : AuthorityDecision
  reason : Text
  message : Text
  scope : AuthorityScope
  deriving DecidableEq

/-- Everything but an explicit permission is a denial. -/
def AuthorityResult.isDeny (result : AuthorityResult) : Bool := result.decision ≠ .allow

inductive ResolutionError where
  | unsupportedCapability
  | unsupportedOperation
  | unavailable
  | other
  deriving DecidableEq

/-- An error of `ResolveCapability`, by the errors it wraps, with its text. -/
structure ResolutionFailure where
  error : ResolutionError
  text : Text
  deriving DecidableEq

/-- What the collaborators of the Guard answer during one call. -/
structure GuardCalls where
  registered : Bool
  resolution : Option ResolutionFailure
  authority : AuthorityResult
  /-- The error, or the result, which may be nil, of the Body's `Execute`. -/
  invocation : Except Text (Option ExecutionResult)

/-- A call that leaves the Guard. -/
inductive Call where
  | evaluate (request : AuthorityRequest) (decision : AuthorityDecision)
  | invoke (request : ExecutionRequest)
  deriving DecidableEq

def terminal (request : ExecutionRequest) (status : ExecutionStatus) (code message : Text) :
    ExecutionResult :=
  { executionID := request.executionID
    status := status
    output := []
    errorCode := code
    error := message
    denialScope := .unset }

/-- A required field of the request is blank. -/
def ExecutionRequest.incomplete (request : ExecutionRequest) : Bool :=
  request.executionID = [] ∨ request.doll = [] ∨ request.body = [] ∨ request.capability = [] ∨
    request.operation = []

def ExecutionRequest.authority (request : ExecutionRequest) : AuthorityRequest :=
  { doll := request.doll
    body := request.body
    capability := request.capability
    operation := request.operation
    arguments := request.arguments }

def resolutionResult (request : ExecutionRequest) (failure : ResolutionFailure) :
    ExecutionResult :=
  match failure.error with
  | .unsupportedCapability =>
    terminal request .unsupported "unsupported_capability".toList failure.text
  | .unsupportedOperation =>
    terminal request .unsupported "unsupported_operation".toList failure.text
  | .unavailable => terminal request .unavailable "unavailable".toList failure.text
  | .other => terminal request .failed "resolution_failed".toList failure.text

/-- The result of the invocation, under the identity of the request. -/
def invocationResult (request : ExecutionRequest) :
    Except Text (Option ExecutionResult) → ExecutionResult
  | .error message => terminal request .failed "invocation_failed".toList message
  | .ok none =>
    terminal request .failed "invocation_failed".toList "body returned nil result".toList
  | .ok (some result) => { result with executionID := request.executionID }

/-- `ExecuteContext`; the context only reaches the Body. -/
def executeContext (answers : GuardCalls) (request : ExecutionRequest) :
    ExecutionResult × List Call :=
  if request.incomplete then
    (terminal request .invalid "invalid_request".toList
      ("execution request is missing required fields " ++
        "(execution_id, doll, body, capability, operation)").toList, [])
  else if answers.registered = false then
    (terminal request .invalid "body_not_found".toList
      ("body \"".toList ++ request.body ++ "\" not found".toList), [])
  else
    match answers.resolution with
    | some failure => (resolutionResult request failure, [])
    | none =>
      if answers.authority.isDeny then
        ({ terminal request .denied answers.authority.reason answers.authority.message with
            denialScope := answers.authority.scope },
          [.evaluate request.authority answers.authority.decision])
      else
        (invocationResult request answers.invocation,
          [.evaluate request.authority answers.authority.decision, .invoke request])

/-- The Guard turns the request away before the Body. -/
def GuardCalls.refuses (answers : GuardCalls) : Bool :=
  answers.registered = false ∨ answers.resolution ≠ none ∨ answers.authority.isDeny = true

/-- A call of the Guard asks the evaluator at most once, about the request itself, and invokes
the Body at most once, with the request itself and only after the evaluator has allowed it. -/
theorem executeContext_calls (answers : GuardCalls) (request : ExecutionRequest) :
    (executeContext answers request).2 = [] ∨
      (∃ decision, decision ≠ .allow ∧
        (executeContext answers request).2 = [.evaluate request.authority decision]) ∨
      answers.refuses = false ∧
        (executeContext answers request).2 =
          [.evaluate request.authority .allow, .invoke request] := by
  rw [executeContext]
  split
  · exact .inl rfl
  split
  · exact .inl rfl
  rename_i registered
  split
  · exact .inl rfl
  rename_i resolved
  split
  · rename_i denied
    exact .inr (.inl ⟨_, of_decide_eq_true denied, rfl⟩)
  rename_i undenied
  have allowed : answers.authority.decision = .allow := by
    simpa [AuthorityResult.isDeny] using undenied
  refine .inr (.inr ⟨?_, by rw [allowed]⟩)
  simp [GuardCalls.refuses, registered, resolved, undenied]

end NeonDoll.Body
