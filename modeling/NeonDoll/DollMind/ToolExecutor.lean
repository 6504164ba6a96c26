import NeonDoll.BodyResolver.Coordinator
import NeonDoll.Permission.Manager

/-!
# The tool executor

`Core/DollMind/tool_executor.go`: one tool call is decided by the action policy and then
sent, resolved and executed, or turned into a permission request.  The answers of the policy,
the Bodies, the evaluator and the communication service are parameters of the call; the calls
that leave the executor are recorded in their order.
-/

namespace NeonDoll.DollMind

open Lib ActionPolicy Body BodyResolver

structure ToolCorrelation where
  sessionID : Text
  turnID : Text
  cognitiveRunID : Text
  intentionID : Text
  deriving DecidableEq

structure ToolCall where
  id : Text
  name : Text
  arguments : Arguments
  deriving DecidableEq

structure Tool where
  name : Text
  capabilityID : Text
  operationID : Text
  targetBodyID : Body.BodyID
  deriving DecidableEq

inductive ToolResultStatus where
  | success
  | failure
  deriving DecidableEq

structure ToolError where
  code : Text
  message : Text
  permissionRequestID : Permission.RequestID
  deriving DecidableEq

structure ToolExecutionAttempt where
  bodyID : Body.BodyID
  executionID : Text
  status : ExecutionStatus
  errorCode : Text
  deriving DecidableEq

/-- The maps that the executor returns as the result of a tool. -/
inductive ResultValue where
  | output (text : Text)
  | delivered (deliveryID sessionID : Text)
  | queued (deliveryID : Text)
  | peers (principals : List Text)
  deriving DecidableEq

structure ToolResult where
  toolCallID : Text
  executionID : Text
  status : ToolResultStatus
  result : Option ResultValue
  error : Option ToolError
  attempts : List ToolExecutionAttempt
  candidateRejections : List RejectedCandidate
  deriving DecidableEq

inductive DeliveryStatus where
  | pending
  | accepted
  | failed
  deriving DecidableEq

structure SendTextRequest where
  recipientPrincipalID : Text
  text : Text
  correlation : ToolCorrelation
  toolCallID : Text
  deriving DecidableEq

structure SendTextResult where
  deliveryID : Text
  sessionID : Text
  status : DeliveryStatus
  deriving DecidableEq

/-- An error of the communication service, by the errors it wraps. -/
inductive SendError where
  | unknownRecipient
  | recipientUnavailable
  | other (text : Text)
  deriving DecidableEq

/-- What the executor is built from. -/
structure ExecutorConfig where
  /-- The registry, the policy and the coordinator are present. -/
  composed : Bool
  dollID : Text
  preferences : Body.BodyID → Int
  ownerPolicy : OwnerPolicy
  /-- The manager of permission requests is present. -/
  requests : Bool
  ownerID : Text
  approvalTTL : Int
  communication : Bool
  manager : Permission.ManagerConfig
  marshal : Arguments → Option Permission.RawMessage
  marshalResult : ResultValue → Permission.RawMessage

/-- What the world answers during one tool call. -/
structure World where
  ctx : Option ContextError
  policy : ActionPolicy.Result
  bodies : List BodyView
  attempts : Nat → AttemptCalls
  send : SendTextResult × Option SendError
  peers : Except Text (List Text)
  /-- The error with which the insert of `Create` fails. -/
  createError : Option Text

/-- A call that leaves the executor. -/
inductive ExternalCall where
  | policy (request : ActionPolicy.Request) (decision : Decision)
  | body (call : Body.Call)
  | sendText (request : SendTextRequest)
  deriving DecidableEq

def failureResult (callID code message : Text) : ToolResult :=
  { toolCallID := callID
    executionID := []
    status := .failure
    result := none
    error := some ⟨code, message, 0⟩
    attempts := []
    candidateRejections := [] }

def successResult (callID : Text) (result : ExecutionResult) : ToolResult :=
  { toolCallID := callID
    executionID := result.executionID
    status := .success
    result := if result.output = [] then none else some (.output result.output)
    error := none
    attempts := []
    candidateRejections := [] }

/-! ## Communication -/

def communicationCapability : Text := "core.communication".toList
def operationSendText : Text := "send_text".toList
def operationListPeers : Text := "list_peers".toList

def listCommunicationPeers (cfg : ExecutorConfig) (world : World) (call : ToolCall) : ToolResult :=
  if cfg.communication = false then
    failureResult call.id "communication_unavailable".toList
      "communication service is unavailable".toList
  else
    match world.peers with
    | .error message => failureResult call.id "peer_discovery_failed".toList message
    | .ok peers =>
      { toolCallID := call.id
        executionID := []
        status := .success
        result := some (.peers peers)
        error := none
        attempts := []
        candidateRejections := [] }

/-- The error that reports a delivery which was not accepted. -/
def deliveryError (status : DeliveryStatus) (error : Option SendError) : ToolError :=
  match status, error with
  | .pending, _ =>
    ⟨"delivery_pending".toList,
      "message is durably queued and awaiting Gateway delivery".toList, 0⟩
  | _, some .unknownRecipient =>
    ⟨"unknown_recipient".toList, "recipient is not known to Core".toList, 0⟩
  | _, some .recipientUnavailable =>
    ⟨"recipient_unavailable".toList, "recipient has no active Gateway conversation".toList, 0⟩
  | _, some (.other text) => ⟨"delivery_failed".toList, text, 0⟩
  | _, none => ⟨"delivery_failed".toList, "message delivery failed".toList, 0⟩

def deliveryResult (call : ToolCall) (sent : SendTextResult) (error : Option SendError) :
    ToolResult :=
  if error = none ∧ sent.status = .accepted then
    { toolCallID := call.id
      executionID := sent.deliveryID
      status := .success
      result := some (.delivered sent.deliveryID sent.sessionID)
      error := none
      attempts := []
      candidateRejections := [] }
  else
    { toolCallID := call.id
      executionID := sent.deliveryID
      status := .failure
      result := if sent.status = .pending then some (.queued sent.deliveryID) else none
      error := some (deliveryError sent.status error)
      attempts := []
      candidateRejections := [] }

/-- The recipient and the text of a message, if both are present and not blank. -/
def messageArguments (arguments : Arguments) : Option (Text × Text) :=
  match arguments.get "recipient_principal_id".toList, arguments.get "text".toList with
  | some (.string recipient), some (.string text) =>
    if recipient.trimSpace = [] ∨ text.trimSpace = [] then none else some (recipient, text)
  | _, _ => none

def sendCommunication (cfg : ExecutorConfig) (world : World) (correlation : ToolCorrelation)
    (call : ToolCall) : ToolResult × List ExternalCall :=
  if cfg.communication = false then
    (failureResult call.id "communication_unavailable".toList
      "communication service is unavailable".toList, [])
  else
    match messageArguments call.arguments with
    | none =>
      (failureResult call.id "invalid_arguments".toList
        "recipient_principal_id and text are required".toList, [])
    | some (recipient, text) =>
      (deliveryResult call world.send.1 world.send.2,
        [.sendText ⟨recipient, text, correlation, call.id⟩])

/-! ## Execution on Bodies -/

def resolveErrorText : ResolveError → Text
  | .invalidRequest => "invalid body resolution request".toList
  | .duplicateCandidate id =>
    "invalid body resolution request: duplicate candidate ".toList ++ id
  | .noEligibleCandidates => "no eligible body candidate".toList

def registryCandidates (cfg : ExecutorConfig) (bodies : List BodyView) : List Candidate :=
  bodies.map fun body => ⟨some body, [], [], [], false, cfg.preferences body.id⟩

def exhaustedToolError (outcome : ExecutionOutcome) : Text × Text :=
  match outcome.result with
  | none => ("candidates_exhausted".toList, ExecuteError.candidatesExhausted.text)
  | some result =>
    match result.status with
    | .denied => ("denied".toList, "authority denied: ".toList ++ result.error)
    | .unavailable => ("unavailable".toList, "capability unavailable: ".toList ++ result.error)
    | .failed => ("execution_failed".toList, "Body execution failed: ".toList ++ result.error)
    | _ => ("candidates_exhausted".toList, ExecuteError.candidatesExhausted.text)

/-- The code and message of an execution that has not succeeded. -/
def executionError (outcome : ExecutionOutcome) : Option ExecuteError → Text × Text
  | some (.context error) => ("cancelled".toList, error.text)
  | some .globalProhibition => ("action_denied".toList, "global authority prohibition".toList)
  | some .candidatesExhausted => exhaustedToolError outcome
  | some error => ("execution_failed".toList, error.text)
  | none => ("execution_failed".toList, "Body execution failed".toList)

def toolAttempts (outcome : ExecutionOutcome) : List ToolExecutionAttempt :=
  outcome.attempts.map fun attempt =>
    ⟨attempt.bodyID, attempt.executionID, attempt.result.status, attempt.result.errorCode⟩

def toolFailure (callID : Text) (outcome : ExecutionOutcome) (rejected : List RejectedCandidate)
    (error : Option ExecuteError) : ToolResult :=
  { failureResult callID (executionError outcome error).1 (executionError outcome error).2 with
    executionID := (outcome.result.map ExecutionResult.executionID).getD []
    attempts := toolAttempts outcome
    candidateRejections := rejected }

def toolOutcome (callID : Text) (outcome : ExecutionOutcome) (rejected : List RejectedCandidate)
    (error : Option ExecuteError) : ToolResult :=
  match outcome.result with
  | some result =>
    if error = none ∧ result.status = .success then
      { successResult callID result with
        attempts := toolAttempts outcome
        candidateRejections := rejected }
    else toolFailure callID outcome rejected error
  | none => toolFailure callID outcome rejected error

/-- The eligible Bodies for a tool, among those that the registry holds. -/
def resolveTool (cfg : ExecutorConfig) (world : World) (tool : Tool) :
    BodyResolver.Result × Option ResolveError :=
  resolve ⟨tool.capabilityID, tool.operationID, [], [], []⟩
    ⟨if tool.targetBodyID = [] then [] else [tool.targetBodyID], [], [], []⟩
    cfg.ownerPolicy (registryCandidates cfg world.bodies)

def toolExecutionID (call : ToolCall) : Text := "tool_".toList ++ call.id

/-- The part of `executeCall` that comes after the policy and is not communication. -/
def executeOnBodies (cfg : ExecutorConfig) (world : World) (call : ToolCall) (tool : Tool) :
    ToolResult × List ExternalCall :=
  match resolveTool cfg world tool with
  | (resolved, some error) =>
    ({ failureResult call.id "no_eligible_body".toList (resolveErrorText error) with
        candidateRejections := resolved.rejected }, [])
  | (resolved, none) =>
    let executed := execute world.attempts resolved
      ⟨toolExecutionID call, cfg.dollID, call.arguments⟩
    (toolOutcome call.id executed.outcome resolved.rejected executed.error,
      executed.calls.map .body)

/-- What `executeCall` does once the policy lets the action pass. -/
def perform (cfg : ExecutorConfig) (world : World) (correlation : ToolCorrelation)
    (call : ToolCall) (tool : Tool) : ToolResult × List ExternalCall :=
  if tool.capabilityID = communicationCapability ∧ tool.operationID = operationSendText then
    sendCommunication cfg world correlation call
  else if tool.capabilityID = communicationCapability ∧ tool.operationID = operationListPeers then
    (listCommunicationPeers cfg world call, [])
  else executeOnBodies cfg world call tool

/-! ## Approval -/

/-- The lifetime of a permission request, fifteen minutes by default. -/
def approvalLifetime (cfg : ExecutorConfig) : Permission.Time :=
  if cfg.approvalTTL ≤ 0 then 15 * 60 * 1000000000 else cfg.approvalTTL.toNat

def approvalQuestion (tool : Tool) (decision : ActionPolicy.Result) : Text :=
  if decision.message.trimSpace = [] then
    "May I execute ".toList ++ tool.capabilityID ++ "/".toList ++ tool.operationID ++ "?".toList
  else decision.message.trimSpace

/-- The input of `Create` for an action that requires approval. -/
def approvalInput (cfg : ExecutorConfig) (now : Permission.Time) (correlation : ToolCorrelation)
    (call : ToolCall) (tool : Tool) (decision : ActionPolicy.Result)
    (arguments : Permission.RawMessage) : Permission.CreateRequest :=
  { dollID := cfg.dollID
    ownerID := cfg.ownerID
    origin := .policyRequired
    action := tool.name
    question := approvalQuestion tool decision
    capability := tool.capabilityID
    operation := tool.operationID
    arguments := arguments
    expiresAt := now + approvalLifetime cfg
    correlation :=
      { cognitiveRunID := correlation.cognitiveRunID
        sessionID := correlation.sessionID
        turnID := correlation.turnID
        toolCallID := call.id
        intentionID := correlation.intentionID } }

/-- `requestApproval`, with the input that it hands to `Create`. -/
def requestApproval (cfg : ExecutorConfig) (now : Permission.Time)
    (correlation : ToolCorrelation) (call : ToolCall) (tool : Tool)
    (decision : ActionPolicy.Result) : Except ToolResult Permission.CreateRequest :=
  if cfg.requests = false ∨ cfg.ownerID = [] then
    .error (failureResult call.id "approval_required".toList decision.message)
  else
    match cfg.marshal call.arguments with
    | none =>
      .error (failureResult call.id "invalid_arguments".toList
        "tool arguments cannot be recorded for approval".toList)
    | some arguments => .ok (approvalInput cfg now correlation call tool decision arguments)

/-! ## The call -/

/-- What becomes of a tool call: a result, or an approval that has to be requested. -/
inductive Reply where
  | result (result : ToolResult)
  | approval (decision : ActionPolicy.Result)
  deriving DecidableEq

/-- `executeCall` up to the request of an approval; a nil tool is `none`. -/
def executeCall (cfg : ExecutorConfig) (world : World) (correlation : ToolCorrelation)
    (call : ToolCall) (tool : Option Tool) (approved : Bool) : Reply × List ExternalCall :=
  match tool with
  | none =>
    (.result (failureResult call.id "unknown_tool".toList "tool definition not found".toList), [])
  | some tool =>
    match world.ctx with
    | some error => (.result (failureResult call.id "cancelled".toList error.text), [])
    | none =>
      if cfg.composed = false ∨ cfg.dollID = [] then
        (.result (failureResult call.id "invalid_configuration".toList
          "tool execution boundaries are unavailable".toList), [])
      else
        let asked : ActionPolicy.Request :=
          ⟨cfg.dollID, tool.capabilityID, tool.operationID, call.arguments⟩
        let decided := ExternalCall.policy asked world.policy.decision
        let performed := perform cfg world correlation call tool
        match world.policy.decision with
        | .allow => (.result performed.1, decided :: performed.2)
        | .deny =>
          (.result (failureResult call.id "action_denied".toList world.policy.message),
            [decided])
        | .requireApproval =>
          if approved then (.result performed.1, decided :: performed.2)
          else (.approval world.policy, [decided])
        | .other =>
          (.result (failureResult call.id "invalid_configuration".toList
            "action policy returned an invalid decision".toList), [decided])

/-- The call with which `HandlePermissionResolution` continues a claimed request. -/
def continuedCall (cfg : ExecutorConfig) (claimed : Permission.Request) : ToolCall :=
  { id := if claimed.correlation.toolCallID = [] then
      "permission_".toList ++ (toString claimed.id).toList else claimed.correlation.toolCallID
    name := claimed.action
    arguments := (Permission.decodeArguments cfg.manager claimed.arguments).getD none }

def continuedTool (claimed : Permission.Request) : Tool :=
  ⟨claimed.action, claimed.capability, claimed.operation, []⟩

def continuedCorrelation (claimed : Permission.Request) : ToolCorrelation :=
  ⟨claimed.correlation.sessionID, claimed.correlation.turnID, claimed.correlation.cognitiveRunID,
    claimed.correlation.intentionID⟩

/-- The execution of a claimed and approved request. -/
def executeApproved (cfg : ExecutorConfig) (world : World) (claimed : Permission.Request) :
    Reply × List ExternalCall :=
  executeCall cfg world (continuedCorrelation claimed) (continuedCall cfg claimed)
    (some (continuedTool claimed)) true

/-- The codes after which a claim is released. -/
def releaseCode (code : Text) : Bool :=
  code = "no_eligible_body".toList ∨ code = "unavailable".toList

def releases (result : ToolResult) : Bool :=
  match result.error with
  | none => false
  | some error => releaseCode error.code

/-- The outcome that completes a continuation. -/
def outcomeOf (cfg : ExecutorConfig) (result : ToolResult) : Permission.ContinuationOutcome :=
  { success := result.status = .success
    executionID := result.executionID
    output := (result.result.map cfg.marshalResult).getD []
    errorCode := (result.error.map ToolError.code).getD []
    error := (result.error.map ToolError.message).getD [] }

end NeonDoll.DollMind
