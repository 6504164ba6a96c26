import NeonDoll.CognitiveExecution.Context

/-!
# The budget of a model end to end

Every request that an execution sends for an interaction or a cognition run, with its output
reserve and the overhead, is compared with the context of the model in exact integers.  A
validated configuration whose reserves overflow the machine subtraction leaves a capacity that
the context does not have.
-/

namespace NeonDoll.CognitiveExecution

open Lib Text Inference DollMind ContextBuilder ModelContextBudget

/-- Who asks for an execution. -/
inductive Caller where
  | interaction (turn : InteractionTurn)
  | cognition (run : Cognition)

def Caller.buildContext (rendering : Rendering) :
    Caller → World → ContextState → Except ContextError (List Inference.Message)
  | .interaction turn => interactionContext rendering turn
  | .cognition run => cognitionContext rendering run

/-- The execution of a request with the contexts of the caller. -/
def Caller.execute (caller : Caller) (rendering : Rendering)
    (request : Request World ContextError) : Outcome ContextError :=
  CognitiveExecution.execute { request with buildContext := caller.buildContext rendering }

/-- The messages, the output and the overhead fit the context of the model. -/
def Within (budget : ModelContextBudget) (request : Inference.Request) : Prop :=
  promptTokens request.messages + request.maxTokens.toInt + budget.requiredOverheadTokens.toInt ≤
    budget.contextTokens.toInt

instance (budget : ModelContextBudget) (request : Inference.Request) :
    Decidable (Within budget request) :=
  inferInstanceAs (Decidable (_ ≤ _))

theorem Caller.buildContext_within (caller : Caller) (rendering : Rendering)
    (ok : caller.buildContext rendering world state = .ok messages) :
    promptTokens messages ≤ state.inputTokenBudget.toInt := by
  cases caller with
  | interaction turn => exact interactionContext_within ok
  | cognition run => exact cognitionContext_within ok

/-- Each request carries a context of the caller, built for the capacity that the budget of its
model leaves. -/
theorem Caller.execute_sends {caller : Caller} {rendering : Rendering}
    {request : Request World ContextError} {sent : Inference.Request}
    (member : .inferred sent ∈ (caller.execute rendering request).events) :
    ∃ input, request.modelConfiguration.budget.inputTokens = .ok input ∧
      promptTokens sent.messages ≤ input.toInt ∧
      sent.maxTokens = request.modelConfiguration.budget.outputTokens := by
  unfold Caller.execute at member
  obtain ⟨_, input, capacity, runs⟩ := execute_ok (List.ne_nil_of_mem member)
  rw [runs] at member
  obtain ⟨_, _, _, built, rfl⟩ := iterate_sends member
  refine ⟨input, capacity, ?_, rfl⟩
  exact caller.buildContext_within rendering built

theorem Caller.execute_failsLast (caller : Caller) (rendering : Rendering)
    (request : Request World ContextError) :
    FailsLast (caller.execute rendering request).events := by
  by_cases sends : (caller.execute rendering request).events = []
  · rw [sends]
    exact .nil
  unfold Caller.execute at sends ⊢
  obtain ⟨provider, input, _, runs⟩ := execute_ok sends
  rw [runs]
  exact iterate_failsLast _ provider input 0 0 []

/-- A request of an interaction or of a cognition run fits the context of its model exactly if
the capacity of the model was computed without an overflow; and once a context cannot be built,
the provider is not called again. -/
theorem provider_requests_within_budget_iff (caller : Caller) (rendering : Rendering)
    (request : Request World ContextError) :
    (∀ sent, .inferred sent ∈ (caller.execute rendering request).events →
      (Within request.modelConfiguration.budget sent ↔
        request.modelConfiguration.budget.Representable)) ∧
      FailsLast (caller.execute rendering request).events := by
  refine ⟨?_, caller.execute_failsLast rendering request⟩
  intro sent member
  obtain ⟨_, capacity, _, reserve⟩ := Caller.execute_sends member
  have estimated := promptTokens_nonneg sent.messages
  unfold Within
  rw [reserve]
  constructor
  · intro within
    by_contra overflow
    have exceeded := reserves_exceed overflow
    omega
  · intro representable
    have exact_ := inputTokens_exact capacity representable
    unfold exactInput at exact_
    omega

/-! ## An interaction -/

/-- A session without history, in which the user says "hi". -/
def sampleTurn : InteractionTurn where
  sessionID := ['s']
  turnID := ['t']
  currentInput := "hi".toList
  state := DollState.newDollState

def sampleWorld : World where
  sessions :=
    { sessions := (Session.create .empty ⟨.body, ['b']⟩ [] ['s'] true).1
      readable := true
      history := fun _ => .ok [] }
  mind := none

def sampleModel (budget : ModelContextBudget) : ModelConfiguration :=
  ⟨['n'], ['p'], ['m'], ['e'], budget⟩

def plainRendering : Rendering where
  call := fun call => some call.name
  result := fun result => result.toolCallID

/-- One call of a provider that answers at once. -/
def sampleRequest (budget : ModelContextBudget) : Request World ContextError where
  provider := some fun _ _ => .response ⟨"hello".toList, []⟩
  modelConfiguration := sampleModel budget
  purpose := .respond
  correlation := ⟨['s'], ['t'], [], []⟩
  buildContext := fun _ _ => .error .working
  toolExecutor := none
  maxToolCalls := 10
  world := fun _ => sampleWorld
  cancelled := fun _ => false

def sampleSent (budget : ModelContextBudget) : Inference.Request where
  model := ['m']
  messages := [⟨.user, "hi".toList, [], [], none, none⟩]
  maxTokens := budget.outputTokens
  purpose := .respond
  turnID := ['t']

/-- The reserves of this budget exceed the context so far that the difference wraps around to a
capacity of 1003 tokens. -/
def wrappedBudget : ModelContextBudget := ⟨1, 9223372036854775807, 9223372036854774807⟩

theorem sample_sends (accepted : validateModelConfiguration (sampleModel budget) = none)
    (capacity : budget.inputTokens = .ok input)
    (built : interactionContext plainRendering sampleTurn sampleWorld ⟨input, [], []⟩ =
      .ok (sampleSent budget).messages) : .inferred (sampleSent budget) ∈
      ((Caller.interaction sampleTurn).execute plainRendering (sampleRequest budget)).events := by
  have runs : (Caller.interaction sampleTurn).execute plainRendering (sampleRequest budget) =
      iterate { sampleRequest budget with
          buildContext := (Caller.interaction sampleTurn).buildContext plainRendering }
        (fun _ _ => .response ⟨"hello".toList, []⟩) input 0 0 [] := by
    grind [Caller.execute, CognitiveExecution.execute, sampleRequest, sampleModel]
  rw [runs]
  exact iterate_first rfl built

/-- A validated budget whose reserves exceed the context is used for a request. -/
theorem overflowing_budget_exceeded :
    validateModelConfiguration (sampleModel wrappedBudget) = none ∧
      ∃ sent, .inferred sent ∈ ((Caller.interaction sampleTurn).execute plainRendering
        (sampleRequest wrappedBudget)).events ∧ ¬Within wrappedBudget sent := by
  refine ⟨by decide, sampleSent wrappedBudget, ?_, by decide⟩
  have capacity : wrappedBudget.inputTokens = .ok 1003 := by rfl
  exact sample_sends (by decide) capacity (by rfl)

theorem provider_requests_within_budget_iff_default :
    .inferred (sampleSent defaultModelContextBudget) ∈ ((Caller.interaction sampleTurn).execute
        plainRendering (sampleRequest defaultModelContextBudget)).events ∧
      Within defaultModelContextBudget (sampleSent defaultModelContextBudget) := by
  have capacity : defaultModelContextBudget.inputTokens = .ok 31488 := by rfl
  have sends := sample_sends (by decide) capacity (by rfl)
  refine ⟨sends, ?_⟩
  exact ((provider_requests_within_budget_iff (.interaction sampleTurn) plainRendering
    (sampleRequest defaultModelContextBudget)).1 _ sends).mpr (by decide)

end NeonDoll.CognitiveExecution
