import NeonDoll.DollMind.ToolExecutor

/-!
# Inference requests and the budget of a model

The provider-neutral types of `Core/Inference/types.go`, the context budget of
`Core/Inference/budget.go` and the validation of a model in `Core/Config/models.go`.  The
budget is kept in machine integers, and so is what is left of it for the input.
-/

namespace NeonDoll.Inference

open Lib Text DollMind

/-! ## Messages -/

/-- A role is one of the four that the context builder accepts, or another text. -/
inductive Role where
  | system
  | user
  | assistant
  | tool
  | other (name : Text)
  deriving DecidableEq

/-- A tool with the description that the model reads. -/
structure Tool extends DollMind.Tool where
  description : Text
  deriving DecidableEq

/-- A message with the tool metadata that is bound to it. -/
structure Message where
  role : Role
  content : Text
  provenance : Text
  tools : List Tool
  toolCall : Option ToolCall
  toolResult : Option ToolResult
  deriving DecidableEq

inductive Purpose where
  | orient
  | plan
  | respond
  deriving DecidableEq

structure Request where
  model : Text
  messages : List Message
  maxTokens : Int64
  purpose : Purpose
  turnID : Text
  deriving DecidableEq

/-- A response is final unless it asks for tools. -/
structure Response where
  content : Text
  toolCalls : List ToolCall
  deriving DecidableEq

def formatToolsForPrompt (tools : List Tool) : Text :=
  if tools = [] then []
  else
    "You have these tools available. When you want to use one, respond with exactly:\n".toList ++
      "TOOL_CALL: <tool_name>\nARGUMENTS:\n<JSON arguments>\n\nAvailable tools:\n".toList ++
      tools.flatMap fun tool =>
        "- ".toList ++ tool.name ++ ": ".toList ++ tool.description ++ ['\n']

/-! ## The budget -/

structure ModelContextBudget where
  contextTokens : Int64
  outputTokens : Int64
  requiredOverheadTokens : Int64
  deriving DecidableEq

def defaultModelContextBudget : ModelContextBudget := ⟨32768, 1024, 256⟩

inductive BudgetError where
  /-- Context and output must be positive and overhead non-negative. -/
  | sign
  /-- Reserved output and overhead leave no input capacity. -/
  | capacity
  deriving DecidableEq

namespace ModelContextBudget

/-- `InputTokens`: the capacity available to the context builder. -/
def inputTokens (budget : ModelContextBudget) : Except BudgetError Int64 :=
  if budget.contextTokens ≤ 0 ∨ budget.outputTokens ≤ 0 ∨ budget.requiredOverheadTokens < 0 then
    .error .sign
  else
    let input := budget.contextTokens - budget.outputTokens - budget.requiredOverheadTokens
    if input ≤ 0 then .error .capacity else .ok input

/-- What the reserves leave of the context, in exact integers. -/
def exactInput (budget : ModelContextBudget) : Int :=
  budget.contextTokens.toInt - budget.outputTokens.toInt - budget.requiredOverheadTokens.toInt

/-- The difference that `InputTokens` computes is a machine integer. -/
def Representable (budget : ModelContextBudget) : Prop := -2 ^ 63 ≤ budget.exactInput

instance (budget : ModelContextBudget) : Decidable budget.Representable :=
  inferInstanceAs (Decidable (_ ≤ _))

variable {budget : ModelContextBudget} {input : Int64}

theorem inputTokens_ok (accepted : budget.inputTokens = .ok input) :
    0 < budget.contextTokens.toInt ∧ 0 < budget.outputTokens.toInt ∧
      0 ≤ budget.requiredOverheadTokens.toInt ∧ 0 < input.toInt ∧
      input.toInt = budget.exactInput.bmod (2 ^ 64) := by
  unfold inputTokens at accepted
  split at accepted
  · cases accepted
  rename_i signs
  dsimp only at accepted
  split at accepted
  · cases accepted
  rename_i positive
  cases accepted
  simp only [not_or, Int64.not_le, Int64.not_lt] at signs
  obtain ⟨context, output, overhead⟩ := signs
  refine ⟨Int64.lt_iff_toInt_lt.mp context, Int64.lt_iff_toInt_lt.mp output,
    Int64.le_iff_toInt_le.mp overhead, Int64.lt_iff_toInt_lt.mp (Int64.not_le.mp positive), ?_⟩
  rw [Int64.toInt_sub, Int64.toInt_sub, Int.bmod_sub_bmod, exactInput]

theorem inputTokens_exact (accepted : budget.inputTokens = .ok input)
    (representable : budget.Representable) : input.toInt = budget.exactInput := by
  obtain ⟨_, _, _, _, wrapped⟩ := inputTokens_ok accepted
  rw [wrapped]
  have context := Int64.toInt_lt budget.contextTokens
  have lower : -2 ^ 63 ≤ budget.exactInput := representable
  have upper : budget.exactInput < 2 ^ 63 := by
    unfold exactInput
    omega
  apply Int.bmod_eq_of_le <;> omega

theorem reserves_exceed (overflow : ¬budget.Representable) : budget.contextTokens.toInt <
      budget.outputTokens.toInt + budget.requiredOverheadTokens.toInt := by
  have low : budget.exactInput < -2 ^ 63 := Int.not_le.mp overflow
  unfold exactInput at low
  omega

end ModelContextBudget

structure ModelConfiguration where
  name : Text
  provider : Text
  model : Text
  endpoint : Text
  budget : ModelContextBudget
  deriving DecidableEq

inductive ModelError where
  /-- A resolved model requires name, provider, model, and endpoint. -/
  | fields
  | budget (error : BudgetError)
  deriving DecidableEq

/-- `ValidateModelConfiguration`; an accepted configuration has no error. -/
def validateModelConfiguration (model : ModelConfiguration) : Option ModelError :=
  if trimSpace model.name = [] ∨ trimSpace model.provider = [] ∨ trimSpace model.model = [] ∨
      trimSpace model.endpoint = [] then some .fields
  else
    match model.budget.inputTokens with
    | .error e => some (.budget e)
    | .ok _ => none

end NeonDoll.Inference
