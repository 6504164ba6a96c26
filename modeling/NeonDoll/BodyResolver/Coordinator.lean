import NeonDoll.BodyResolver.Resolver

/-!
# The coordinator

`Core/BodyResolver/coordinator.go`: the eligible Bodies are tried in their order, each attempt
through the Guard.  Only a denial by the Body's own scope, unavailability and failure lead on
to the next Body.
-/

namespace NeonDoll.BodyResolver

open Lib ActionPolicy Body

/-- The error of a context that has ended. -/
inductive ContextError where
  | canceled
  | deadlineExceeded
  deriving DecidableEq

def ContextError.text : ContextError → Text
  | .canceled => "context canceled".toList
  | .deadlineExceeded => "context deadline exceeded".toList

structure ExecutionRequest where
  executionID : Text
  doll : Text
  arguments : Arguments
  deriving DecidableEq

structure Attempt where
  bodyID : Body.BodyID
  executionID : Text
  result : ExecutionResult
  deriving DecidableEq

structure ExecutionOutcome where
  result : Option ExecutionResult
  attempts : List Attempt
  deriving DecidableEq

inductive ExecuteError where
  | invalidRequest
  | noExecutionCandidates
  | candidatesExhausted
  | globalProhibition
  | terminalExecution
  | context (error : ContextError)
  deriving DecidableEq

def ExecuteError.text : ExecuteError → Text
  | .invalidRequest => "invalid body resolution request".toList
  | .noExecutionCandidates => "no eligible execution candidates".toList
  | .candidatesExhausted => "body execution candidates exhausted".toList
  | .globalProhibition => "global authority prohibition".toList
  | .terminalExecution => "terminal body execution failure".toList
  | .context error => error.text

/-- What the world answers during one attempt: the context before and after it, and the
collaborators of the Guard. -/
structure AttemptCalls where
  before : Option ContextError
  guard : GuardCalls
  after : Option ContextError

/-- The outcome of an execution, its error and the calls it has made. -/
structure Executed where
  outcome : ExecutionOutcome
  error : Option ExecuteError
  calls : List Call
  deriving DecidableEq

/-- `%s/attempt/%d`. -/
def attemptID (executionID : Text) (index : Nat) : Text :=
  executionID ++ "/attempt/".toList ++ (toString (index + 1)).toList

def attemptRequest (requirement : ActionRequirement) (request : ExecutionRequest) (index : Nat)
    (candidate : ExecutionCandidate) : Body.ExecutionRequest :=
  { executionID := attemptID request.executionID index
    doll := request.doll
    body := candidate.body.id
    capability := requirement.capability
    operation := requirement.operation
    arguments := request.arguments }

/-- How the loop goes on after an attempt: with the next candidate, or to its end. -/
inductive Next where
  | continue
  | stop (error : Option ExecuteError)
  deriving DecidableEq

def afterAttempt (result : ExecutionResult) : Next :=
  match result.status with
  | .success => .stop none
  | .denied =>
    match result.denialScope with
    | .global => .stop (some .globalProhibition)
    | .unset | .body => .continue
    | .other => .stop (some .terminalExecution)
  | .unavailable | .failed => .continue
  | _ => .stop (some .terminalExecution)

/-- The loop of `Execute` from the candidate number `index` on. -/
def executeFrom (world : Nat → AttemptCalls) (requirement : ActionRequirement)
    (request : ExecutionRequest) (index : Nat) (outcome : ExecutionOutcome) (calls : List Call) :
    List ExecutionCandidate → Executed
  | [] => ⟨outcome, some .candidatesExhausted, calls⟩
  | candidate :: rest =>
    match (world index).before with
    | some error => ⟨outcome, some (.context error), calls⟩
    | none =>
      let attempted := attemptRequest requirement request index candidate
      let (result, made) := executeContext (world index).guard attempted
      let outcome : ExecutionOutcome :=
        ⟨some result, outcome.attempts ++ [⟨candidate.body.id, attempted.executionID, result⟩]⟩
      match (world index).after with
      | some error => ⟨outcome, some (.context error), calls ++ made⟩
      | none =>
        match afterAttempt result with
        | .stop error => ⟨outcome, error, calls ++ made⟩
        | .continue =>
          executeFrom world requirement request (index + 1) outcome (calls ++ made) rest

def execute (world : Nat → AttemptCalls) (resolved : Result) (request : ExecutionRequest) :
    Executed :=
  if request.executionID = [] ∨ request.doll = [] ∨ resolved.requirement.capability = [] ∨
      resolved.requirement.operation = [] then
    ⟨⟨none, []⟩, some .invalidRequest, []⟩
  else if resolved.eligible = [] then ⟨⟨none, []⟩, some .noExecutionCandidates, []⟩
  else executeFrom world resolved.requirement request 0 ⟨none, []⟩ [] resolved.eligible

variable {requirement : ActionRequirement} {request : ExecutionRequest}

variable {outcome : ExecutionOutcome} {calls : List Call} {candidates : List ExecutionCandidate}
  {index : Nat}

theorem executeFrom_invokes (member : .invoke invoked ∈
      (executeFrom world requirement request index outcome calls candidates).calls) :
    .invoke invoked ∈ calls ∨
      ∃ i, i < index + candidates.length ∧ (world i).guard.refuses = false := by
  induction candidates generalizing index outcome calls with
  | nil => exact .inl member
  | cons candidate rest ih =>
    have here : ∀ {made : List Call}, made = (executeContext (world index).guard
        (attemptRequest requirement request index candidate)).2 →
        .invoke invoked ∈ calls ++ made →
        .invoke invoked ∈ calls ∨ ∃ i, i < index + (candidate :: rest).length ∧
          (world i).guard.refuses = false := by
      rintro _ rfl member
      rcases List.mem_append.mp member with earlier | _
      · exact .inl earlier
      · grind [executeContext_calls]
    rw [executeFrom] at member
    split at member
    · exact .inl member
    · grind

/-- No stop of the loop reports exhaustion. -/
theorem afterAttempt_stop
    (stopped : afterAttempt result = .stop error) : error ≠ some .candidatesExhausted := by
  grind [afterAttempt]

theorem executeFrom_exhausted (some_left : candidates ≠ [])
    (exhausted : (executeFrom world requirement request index outcome calls candidates).error =
      some .candidatesExhausted) : ∃ candidate ∈ candidates, ∃ i,
      (executeFrom world requirement request index outcome calls candidates).outcome.result =
        some (executeContext (world (index + candidates.length - 1)).guard
          (attemptRequest requirement request i candidate)).1 := by
  induction candidates generalizing index outcome calls with
  | nil => exact absurd rfl some_left
  | cons candidate rest ih =>
    rw [executeFrom] at exhausted ⊢
    split at exhausted
    · cases exhausted
    dsimp only at exhausted ⊢
    split at exhausted
    · cases exhausted
    split at exhausted
    · rename_i _ stopped
      exact absurd exhausted (afterAttempt_stop stopped)
    · cases rest with
      | nil => grind [executeFrom]
      | cons next later => grind

end NeonDoll.BodyResolver
