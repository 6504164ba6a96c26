import NeonDoll.CognitiveExecution.Executor
import NeonDoll.ContextBuilder.Source

/-!
# The contexts of interactions and of cognition runs

The two functions that build a context for an execution: the one of
`Core/Interaction/service.go` and the one of `Core/DollMind/cognition_execution.go`, which joins
system messages as `Core/DollMind/cognition_context.go` does.  Both keep the estimate of their
messages within the input budget.
-/

namespace NeonDoll.CognitiveExecution

open Lib Text Inference DollMind ContextBuilder List

/-- What a build reads from outside of the execution. -/
structure World where
  sessions : SessionView
  mind : Option DollState

inductive ContextError where
  | encoding
  | working
  | build (error : BuildError)
  | bind (error : BindError)
  deriving DecidableEq

def plainMessage (message : ContextBuilder.Message) : Inference.Message :=
  ⟨message.role, message.content, message.provenance, [], none, none⟩

/-- The instructions of one iteration: the tools are described last. -/
def withTools (instructions : List Text) (tools : List Inference.Tool) : List Text :=
  if tools = [] then instructions else instructions ++ [formatToolsForPrompt tools]

/-! ## Interactions -/

/-- A turn, with the Doll as it was loaded at its beginning. -/
structure InteractionTurn where
  sessionID : Session.SessionID
  turnID : Text
  currentInput : Text
  state : DollState

def interactionInstructions (state : DollState) : List Text :=
  let name := state.identity.canonicalName
  let soul := state.soul.content
  let owner := state.owner.name
  let parts :=
    (if name = [] then [] else ["Your name is ".toList ++ name ++ ['.']]) ++
      (if soul = [] then [] else ["Your nature: ".toList ++ soul]) ++
      (if owner = [] then [] else ["Your owner is ".toList ++ owner ++ ['.']])
  if parts = [] then [] else [List.intercalate ['\n'] parts]

def interactionProvenance : Text := "interaction.tool_exchange".toList

/-- The exchanges of the turn as transient messages, numbered from `index` on. -/
def transientExchanges (rendering : Rendering) (turnID : Text) :
    Nat → List ToolExchange → Option (List TransientMessage)
  | _, [] => some []
  | index, exchange :: exchanges =>
    match formatToolExchange rendering exchange,
      transientExchanges rendering turnID (index + 1) exchanges with
    | some content, some rest =>
      let id := turnID ++ "/tool/".toList ++ Nat.toDigits 10 index
      some (⟨id, ⟨.tool, content, interactionProvenance⟩, exchange.required, id⟩ :: rest)
    | _, _ => none

/-- `BuildContext` of an interaction. -/
def interactionContext (rendering : Rendering) (turn : InteractionTurn) (world : World)
    (state : ContextState) : Except ContextError (List Inference.Message) :=
  match transientExchanges rendering turn.turnID 0 state.exchanges with
  | none => .error .encoding
  | some transient =>
    match build (resolveSession world.sessions) approximateEstimator turn.sessionID
        state.inputTokenBudget.toInt
        (withTools (interactionInstructions turn.state) state.tools)
        [⟨.user, turn.currentInput, []⟩] transient with
    | .error e => .error (.build e)
    | .ok built =>
      match bindToolContext rendering (built.messages.map plainMessage) state.tools
          state.exchanges interactionProvenance with
      | .error e => .error (.bind e)
      | .ok messages => .ok messages

/-! ## Cognition runs -/

/-- A cognition run with the working records and exchanges it had before the execution. -/
structure Cognition where
  run : CognitionRun
  baseWorking : List CognitionWorkingRecord
  baseExchanges : List ToolExchange
  instructions : List Text

def cognitionProvenance : Text := "cognition_run.tool_exchange".toList

def cognitionToolRecord (rendering : Rendering) (exchange : ToolExchange) :
    Option CognitionWorkingRecord :=
  (formatToolExchange rendering exchange).map fun content =>
    ⟨.tool, content, cognitionProvenance, exchange.required⟩

/-- One more message, newest first: a system message is joined to a system message before it. -/
def coalesceStep (messages : List Inference.Message) (message : ContextBuilder.Message) :
    List Inference.Message :=
  match messages with
  | [] => [plainMessage message]
  | last :: before =>
    if message.role = .system ∧ last.role = .system then
      { last with content := last.content ++ '\n' :: '\n' :: message.content } :: before
    else plainMessage message :: last :: before

def coalesce (messages : List ContextBuilder.Message) : List Inference.Message :=
  (messages.foldl coalesceStep []).reverse

def trimFirst : List Inference.Message → List Inference.Message
  | [] => []
  | message :: messages => { message with content := trimSpace message.content } :: messages

/-- `cognitionRunExecution.messages`. -/
def cognitionMessages (run : CognitionRun) (working : List CognitionWorkingRecord)
    (mind : Option DollState) (tokenBudget : Int) (instructions : List Text) :
    Except BuildError (List Inference.Message) :=
  match buildSource (resolveCognition run working mind) approximateEstimator
      ⟨run.source, tokenBudget, instructions, [], []⟩ with
  | .error e => .error e
  | .ok result => .ok (trimFirst (coalesce result.messages))

/-- `BuildContext` of a cognition run. -/
def cognitionContext (rendering : Rendering) (cognition : Cognition) (world : World)
    (state : ContextState) : Except ContextError (List Inference.Message) :=
  match state.exchanges.mapM (cognitionToolRecord rendering) with
  | none => .error .encoding
  | some records =>
    let working := cognition.baseWorking ++ records
    if validateCognitionWorking working = false then .error .working
    else
      match cognitionMessages cognition.run working world.mind state.inputTokenBudget.toInt
          (withTools cognition.instructions state.tools) with
      | .error e => .error (.build e)
      | .ok messages =>
        match bindToolContext rendering messages state.tools
            (cognition.baseExchanges ++ state.exchanges) cognitionProvenance with
        | .error e => .error (.bind e)
        | .ok messages => .ok messages

/-! ## The estimate of a request -/

def contentTokens (content : Text) : Int := 4 + (((content.length + 3) / 4 : Nat) : Int)

/-- The estimate of the default estimator for the messages of a request. -/
def promptTokens (messages : List Inference.Message) : Int :=
  messagesTokens approximateEstimator
    (messages.map fun message => ⟨message.role, message.content, message.provenance⟩)

theorem estimate_approximate :
    estimate approximateEstimator message = contentTokens message.content := by
  have positive : 0 < approximateEstimator message := by
    unfold approximateEstimator
    omega
  rw [estimate, if_pos positive]
  rfl

theorem messagesTokens_contents : messagesTokens approximateEstimator messages =
      ((messages.map ContextBuilder.Message.content).map contentTokens).sum := by
  grind [map_congr_left, estimate_approximate, messagesTokens]

theorem promptTokens_contents :
    promptTokens messages = ((messages.map Inference.Message.content).map contentTokens).sum := by
  simp only [promptTokens, messagesTokens_contents, map_map, Function.comp_def]

theorem promptTokens_cons :
    promptTokens (message :: messages) = contentTokens message.content + promptTokens messages := by
  simp [promptTokens_contents]

theorem promptTokens_plain :
    promptTokens (messages.map plainMessage) = messagesTokens approximateEstimator messages := by
  simp only [promptTokens_contents, messagesTokens_contents, map_map, Function.comp_def,
    plainMessage]

theorem promptTokens_nonneg (messages : List Inference.Message) : 0 ≤ promptTokens messages := by
  induction messages with
  | nil => exact Int.le_refl 0
  | cons message messages ih =>
    rw [promptTokens_cons, contentTokens]
    omega

theorem promptTokens_reverse : promptTokens messages.reverse = promptTokens messages := by
  simp [promptTokens_contents]

/-! ## The joined messages -/

/-- A joined message costs no more than its parts: four framing tokens pay for the two line
breaks and for the rounding. -/
theorem contentTokens_join (first second : Text) : contentTokens (first ++ '\n' :: '\n' :: second) ≤
      contentTokens first + contentTokens second := by
  simp only [contentTokens, length_append, length_cons]
  omega

theorem coalesceStep_tokens (messages : List Inference.Message) (message : ContextBuilder.Message) :
    promptTokens (coalesceStep messages message) ≤
      promptTokens messages + contentTokens message.content := by
  cases messages with
  | nil =>
    simp only [coalesceStep, plainMessage, promptTokens_cons]
    omega
  | cons last before =>
    dsimp only [coalesceStep]
    split
    · have joined := contentTokens_join last.content message.content
      simp only [promptTokens_cons]
      omega
    · simp only [plainMessage, promptTokens_cons]
      omega

theorem coalesce_tokens :
    promptTokens (coalesce messages) ≤ messagesTokens approximateEstimator messages := by
  have from_ (acc : List Inference.Message) : promptTokens (messages.foldl coalesceStep acc) ≤
      promptTokens acc + messagesTokens approximateEstimator messages := by
    induction messages generalizing acc with
    | nil => exact Int.le_of_eq (Int.add_zero _).symm
    | cons message messages ih =>
      have rest := ih (coalesceStep acc message)
      have step := coalesceStep_tokens acc message
      rw [messagesTokens_contents] at rest ⊢
      simp only [foldl_cons, map_cons, sum_cons]
      omega
  have all := from_ []
  rw [coalesce, promptTokens_reverse]
  change promptTokens (messages.foldl coalesceStep []) ≤ 0 + _ at all
  omega

theorem length_trimSpace_le (text : Text) : (trimSpace text).length ≤ text.length := by
  grind [dropWhile_sublist, trimSpace, trimRight]

theorem trimFirst_tokens : promptTokens (trimFirst messages) ≤ promptTokens messages := by
  cases messages with
  | nil => exact Int.le_refl _
  | cons message messages =>
    have shorter := length_trimSpace_le message.content
    simp only [trimFirst, promptTokens_cons, contentTokens]
    omega

/-! ## Built contexts -/

theorem bindToolContext_tokens
    (ok : bindToolContext rendering messages tools exchanges provenance = .ok bound) :
    promptTokens bound = promptTokens messages := by
  rw [promptTokens_contents, promptTokens_contents, bindToolContext_contents ok]

variable {state : ContextState} {messages : List Inference.Message}

theorem interactionContext_within
    (ok : interactionContext rendering turn world state = .ok messages) :
    promptTokens messages ≤ state.inputTokenBudget.toInt := by
  unfold interactionContext at ok
  split at ok
  · cases ok
  split at ok
  · cases ok
  rename_i _ built_ok
  split at ok
  · cases ok
  rename_i _ bound_ok
  cases ok
  obtain ⟨estimated, within⟩ := build_within built_ok
  rw [bindToolContext_tokens bound_ok, promptTokens_plain, estimated]
  exact within

theorem cognitionMessages_within
    (ok : cognitionMessages run working mind tokenBudget instructions = .ok messages) :
    promptTokens messages ≤ tokenBudget := by
  unfold cognitionMessages at ok
  split at ok
  · cases ok
  rename_i result built
  cases ok
  obtain ⟨estimated, within⟩ := buildSource_within built
  calc promptTokens (trimFirst (coalesce result.messages))
      ≤ promptTokens (coalesce result.messages) := trimFirst_tokens
    _ ≤ messagesTokens approximateEstimator result.messages := coalesce_tokens
    _ = result.metadata.estimatedTokens := estimated
    _ ≤ tokenBudget := within

theorem cognitionContext_within
    (ok : cognitionContext rendering cognition world state = .ok messages) :
    promptTokens messages ≤ state.inputTokenBudget.toInt := by
  unfold cognitionContext at ok
  split at ok
  · cases ok
  dsimp only at ok
  split at ok
  · cases ok
  split at ok
  · cases ok
  rename_i _ built_ok
  split at ok
  · cases ok
  rename_i _ bound_ok
  cases ok
  rw [bindToolContext_tokens bound_ok]
  exact cognitionMessages_within built_ok

end NeonDoll.CognitiveExecution
