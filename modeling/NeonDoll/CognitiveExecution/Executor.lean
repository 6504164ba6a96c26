import NeonDoll.Inference.Types

/-!
# The cognitive execution

The loop of `Core/CognitiveExecution/executor.go`: a context is built before every call of the
provider, and the tools that the provider asks for are executed until it answers.  The worlds in
which contexts are built, the replies of the provider and the results of the tools are arbitrary
functions of the number of the iteration or the call.  The temperature of a request is left out,
and so is the refusal of a request without `BuildContext`.
-/

namespace NeonDoll.CognitiveExecution

open Lib Text Inference DollMind

def defaultToolCallLimit : Nat := 10

structure ToolExchange where
  call : ToolCall
  result : ToolResult
  required : Bool
  deriving DecidableEq

structure ContextState where
  inputTokenBudget : Int64
  tools : List Inference.Tool
  exchanges : List ToolExchange
  deriving DecidableEq

structure ToolExecutor where
  tools : List Inference.Tool
  executeCorrelatedCall : Nat → ToolCorrelation → ToolCall → Option Inference.Tool → ToolResult

/-- How a call of the provider ends; a response can be nil. -/
inductive Reply where
  | failed
  | missing
  | response (response : Response)

/-- What an execution fixes before the first call of the provider, with what it meets while it
runs.  Contexts are built from a world `W` and fail with an error of type `E`. -/
structure Request (W E : Type) where
  provider : Option (Nat → Inference.Request → Reply)
  modelConfiguration : ModelConfiguration
  purpose : Purpose
  correlation : ToolCorrelation
  buildContext : W → ContextState → Except E (List Inference.Message)
  toolExecutor : Option ToolExecutor
  maxToolCalls : Int64
  world : Nat → W
  cancelled : Nat → Bool

inductive ExecuteError (E : Type) where
  | missingProvider
  | model (error : ModelError)
  | budget (error : BudgetError)
  | cancelled
  | context (error : E)
  | inference
  | nilResponse
  | missingExecutor
  | toolCallLimit (limit : Nat)

/-- A context was built or not, and a request was sent to the provider. -/
inductive Event (E : Type) where
  | built (result : Except E (List Inference.Message))
  | inferred (request : Inference.Request)

structure Result where
  response : Response
  exchanges : List ToolExchange

structure Outcome (E : Type) where
  events : List (Event E)
  result : Except (ExecuteError E) Result

/-! ## The loop -/

variable {messages : List Inference.Message} {exchanges : List ToolExchange}

section

variable {W E : Type}

def Request.limit (request : Request W E) : Nat :=
  if request.maxToolCalls ≤ 0 then defaultToolCallLimit else request.maxToolCalls.toInt.toNat

def Request.tools (request : Request W E) : List Inference.Tool :=
  (request.toolExecutor.map ToolExecutor.tools).getD []

/-- The request for the provider that carries the messages. -/
def Request.providerRequest (request : Request W E) (messages : List Inference.Message) :
    Inference.Request where
  model := request.modelConfiguration.model
  messages := messages
  maxTokens := request.modelConfiguration.budget.outputTokens
  purpose := request.purpose
  turnID := request.correlation.turnID

/-- The entry of a map over the names of tools: the last one of a name. -/
def findTool (tools : List Inference.Tool) (name : Text) : Option Inference.Tool :=
  (tools.filter fun tool => tool.name = name).getLast?

/-- Exchanges that the provider has seen are no longer required. -/
def consumed (exchanges : List ToolExchange) : List ToolExchange :=
  exchanges.map fun exchange => { exchange with required := false }

/-- The tool calls of one response; `none` if they exceed the limit.  The source counts in an `int`,
which wraps only if `MaxToolCalls` is `2^63 - 1`. -/
def performCalls (executor : ToolExecutor) (correlation : ToolCorrelation) (limit : Nat) :
    List ToolCall → Nat → List ToolExchange → Option (Nat × List ToolExchange)
  | [], count, exchanges => some (count, exchanges)
  | call :: calls, count, exchanges =>
    if limit < count + 1 then none
    else
      let result := executor.executeCorrelatedCall count correlation call
        (findTool executor.tools call.name)
      performCalls executor correlation limit calls (count + 1)
        (exchanges ++ [⟨call, result, true⟩])

theorem performCalls_count
    (performed : performCalls executor correlation limit calls count exchanges =
      some (count', exchanges')) :
    count' = count + calls.length ∧ (calls ≠ [] → count' ≤ limit) := by
  induction calls generalizing count exchanges with
  | nil =>
    cases performed
    exact ⟨(Nat.add_zero _).symm, fun nonempty => absurd rfl nonempty⟩
  | cons call calls ih => grind [performCalls]

/-- The iterations from one on, with the tool calls made so far and their exchanges. -/
def iterate (request : Request W E) (provider : Nat → Inference.Request → Reply)
    (input : Int64) (iteration count : Nat) (exchanges : List ToolExchange) : Outcome E :=
  if request.cancelled iteration then ⟨[], .error .cancelled⟩
  else
    match request.buildContext (request.world iteration) ⟨input, request.tools, exchanges⟩ with
    | .error e => ⟨[.built (.error e)], .error (.context e)⟩
    | .ok messages =>
      let sent := request.providerRequest messages
      match provider iteration sent with
      | .failed => ⟨[.built (.ok messages), .inferred sent], .error .inference⟩
      | .missing => ⟨[.built (.ok messages), .inferred sent], .error .nilResponse⟩
      | .response response =>
        if _ : response.toolCalls = [] then
          ⟨[.built (.ok messages), .inferred sent], .ok ⟨response, consumed exchanges⟩⟩
        else
          match request.toolExecutor with
          | none => ⟨[.built (.ok messages), .inferred sent], .error .missingExecutor⟩
          | some executor =>
            match performed : performCalls executor request.correlation request.limit
                response.toolCalls count (consumed exchanges) with
            | none =>
              ⟨[.built (.ok messages), .inferred sent],
                .error (.toolCallLimit request.limit)⟩
            | some (total, exchanged) =>
              let rest := iterate request provider input (iteration + 1) total exchanged
              ⟨.built (.ok messages) :: .inferred sent :: rest.events, rest.result⟩
termination_by request.limit - count
decreasing_by
  -- Every further iteration follows at least one tool call within the limit.
  have answered : response.toolCalls ≠ [] := by assumption
  obtain ⟨sum, bound⟩ := performCalls_count performed
  have within := bound answered
  have some_call := List.length_pos_iff.mpr answered
  omega

def execute (request : Request W E) : Outcome E :=
  match request.provider with
  | none => ⟨[], .error .missingProvider⟩
  | some provider =>
    match validateModelConfiguration request.modelConfiguration with
    | some e => ⟨[], .error (.model e)⟩
    | none =>
      match request.modelConfiguration.budget.inputTokens with
      | .error e => ⟨[], .error (.budget e)⟩
      | .ok input => iterate request provider input 0 0 []

/-! ## What an execution sends -/

variable {input : Int64} {count iteration : Nat} {provider : Nat → Inference.Request → Reply}
  {request : Request W E}

theorem iterate_sends
    (member : .inferred sent ∈ (iterate request provider input iteration count exchanges).events) :
    ∃ world exchanges messages,
      request.buildContext world ⟨input, request.tools, exchanges⟩ = .ok messages ∧
        sent = request.providerRequest messages := by
  have first {iteration : Nat} {exchanges : List ToolExchange} {messages : List Inference.Message}
      (built : request.buildContext (request.world iteration) ⟨input, request.tools, exchanges⟩ =
        .ok messages)
      (member : (.inferred sent : Event E) ∈
        [.built (.ok messages), .inferred (request.providerRequest messages)]) :
      ∃ world exchanges messages,
        request.buildContext world ⟨input, request.tools, exchanges⟩ = .ok messages ∧
          sent = request.providerRequest messages := by grind
  fun_induction iterate request provider input iteration count exchanges with
  | case1 => exact nomatch member
  | case2 iteration count exchanges _ e _ =>
    simp only [List.mem_singleton, reduceCtorEq] at member
  | case3 _ _ _ _ messages built _ _ | case4 _ _ _ _ messages built _ _
  | case5 _ _ _ _ messages built _ _ _ _ | case6 _ _ _ _ messages built _ _ _ _ _
  | case7 _ _ _ _ messages built _ _ _ _ _ _ _ => exact first built member
  | case8 _ _ _ _ messages built _ _ _ _ _ _ _ _ _ _ ih => grind

/-- A failed build is followed by nothing. -/
def FailsLast (events : List (Event E)) : Prop :=
  ∀ before e after, events = before ++ .built (.error e) :: after → after = []

theorem FailsLast.nil : FailsLast ([] : List (Event E)) := by
  intro before e after eq
  cases before <;> cases eq

variable {events : List (Event E)}

theorem FailsLast.cons (last : FailsLast events)
    (fine : ∀ e, event = .built (.error e) → events = []) : FailsLast (event :: events) := by
  intro before e after eq
  cases before with
  | nil => grind
  | cons first before =>
    injection eq with _ eq
    exact last before e after eq

theorem failsLast_sent (last : FailsLast events) (sent : Inference.Request) :
    FailsLast (.built (.ok messages) :: .inferred sent :: events) := by
  grind [FailsLast, FailsLast.cons]

theorem iterate_failsLast (request : Request W E) (provider : Nat → Inference.Request → Reply)
    (input : Int64) (iteration count : Nat) (exchanges : List ToolExchange) :
    FailsLast (iterate request provider input iteration count exchanges).events := by
  fun_induction iterate request provider input iteration count exchanges with
  | case1 => exact .nil
  | case2 => exact FailsLast.nil.cons fun _ _ => rfl
  | case3 | case4 | case5 | case6 | case7 => exact failsLast_sent .nil _
  | case8 _ _ _ _ _ _ _ _ _ _ _ _ _ _ _ _ ih => exact failsLast_sent ih _

theorem iterate_first (live : request.cancelled iteration = false)
    (built : request.buildContext (request.world iteration) ⟨input, request.tools, exchanges⟩ =
      .ok messages) : .inferred (request.providerRequest messages) ∈
      (iterate request provider input iteration count exchanges).events := by
  have here (events : List (Event E)) : (.inferred (request.providerRequest messages) : Event E) ∈
      .built (.ok messages) :: .inferred (request.providerRequest messages) :: events :=
    List.mem_cons_of_mem _ List.mem_cons_self
  rw [iterate, if_neg (by rw [live]; exact Bool.false_ne_true)]
  simp only [built]
  split
  · exact here []
  · exact here []
  · grind

theorem execute_ok (sends : (execute request).events ≠ []) :
    ∃ provider input, request.modelConfiguration.budget.inputTokens = .ok input ∧
      execute request = iterate request provider input 0 0 [] := by grind [execute]

theorem iterate_bounded (within : count ≤ request.limit) :
    (iterate request provider input iteration count exchanges).events.length ≤
      2 * (request.limit - count + 1) := by
  fun_induction iterate request provider input iteration count exchanges with
  | case8 _ _ _ _ _ _ _ _ _ calls _ _ _ _ performed rest ih =>
    -- Every iteration but the last one performs a tool call.
    obtain ⟨sum, bound⟩ := performCalls_count performed
    have few := ih (bound calls)
    have some_call := List.length_pos_iff.mpr calls
    have reached := bound calls
    simp only [List.length_cons, rest]
    omega
  | _ => grind

/-- Whatever the provider, the builder and the tools do, an execution ends, and it builds the
context and asks the provider at most once more than the limit on tool calls. -/
theorem execute_bounded (request : Request W E) :
    (execute request).events.length ≤ 2 * (request.limit + 1) := by
  by_cases quiet : (execute request).events = []
  · rw [quiet]
    exact Nat.zero_le _
  · obtain ⟨provider, input, _, runs⟩ := execute_ok quiet
    rw [runs]
    exact iterate_bounded (Nat.zero_le _)

end

/-! ## Tool metadata -/

/-- The encoding of a call and the text of a result that a prompt shows. -/
structure Rendering where
  call : ToolCall → Option Text
  result : ToolResult → Text

inductive BindError where
  | encoding
  | metadataMissing
  deriving DecidableEq

def formatToolExchange (rendering : Rendering) (exchange : ToolExchange) : Option Text :=
  (rendering.call exchange.call).map fun encoded =>
    "Tool call:\n".toList ++ encoded ++ '\n' :: rendering.result exchange.result

/-- The tools are attached to the first system message. -/
def attachTools (tools : List Inference.Tool) : List Inference.Message → List Inference.Message
  | [] => []
  | message :: messages =>
    if message.role = .system then { message with tools := tools } :: messages
    else message :: attachTools tools messages

/-- The first unused exchange with the given text, and those that stay unused. -/
def takeExchange (rendering : Rendering) (content : Text) :
    List ToolExchange → Except BindError (ToolExchange × List ToolExchange)
  | [] => .error .metadataMissing
  | exchange :: unused =>
    match formatToolExchange rendering exchange with
    | none => .error .encoding
    | some text =>
      if text = content then .ok (exchange, unused)
      else
        match takeExchange rendering content unused with
        | .error e => .error e
        | .ok (found, rest) => .ok (found, exchange :: rest)

def bindExchanges (rendering : Rendering) (provenance : Text) :
    List Inference.Message → List ToolExchange → Except BindError (List Inference.Message)
  | [], _ => .ok []
  | message :: messages, unused =>
    if message.provenance ≠ provenance then
      match bindExchanges rendering provenance messages unused with
      | .error e => .error e
      | .ok bound => .ok (message :: bound)
    else
      match takeExchange rendering message.content unused with
      | .error e => .error e
      | .ok (exchange, rest) =>
        match bindExchanges rendering provenance messages rest with
        | .error e => .error e
        | .ok bound =>
          .ok ({ message with
            toolCall := some exchange.call
            toolResult := some exchange.result } :: bound)

def bindToolContext (rendering : Rendering) (messages : List Inference.Message)
    (tools : List Inference.Tool) (exchanges : List ToolExchange) (provenance : Text) :
    Except BindError (List Inference.Message) :=
  bindExchanges rendering provenance (attachTools tools messages) exchanges

theorem attachTools_contents :
    (attachTools tools messages).map Message.content = messages.map Message.content := by
  induction messages with
  | nil => rfl
  | cons message messages ih => grind [attachTools]

variable {bound : List Inference.Message}

theorem bindExchanges_contents
    (ok : bindExchanges rendering provenance messages unused = .ok bound) :
    bound.map Message.content = messages.map Message.content := by
  induction messages generalizing unused bound with
  | nil =>
    cases ok
    rfl
  | cons message messages ih => grind [bindExchanges]

theorem bindToolContext_contents
    (ok : bindToolContext rendering messages tools exchanges provenance = .ok bound) :
    bound.map Message.content = messages.map Message.content :=
  (bindExchanges_contents ok).trans (attachTools_contents)

end NeonDoll.CognitiveExecution
