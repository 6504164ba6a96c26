import NeonDoll.ContextBuilder.Window

/-!
# The context builder

`Service.BuildSource` of `Core/ContextBuilder/builder.go` over an arbitrary resolver and token
estimator, with the sliding window as its policy.  The metadata of a result are kept as the
source has them.
-/

namespace NeonDoll.ContextBuilder

open Lib Text Inference List

structure Message where
  role : Role
  content : Text
  provenance : Text
  deriving DecidableEq

structure ResolvedSource where
  source : ContextSource
  records : List ContextRecord
  deriving DecidableEq

structure TransientMessage where
  id : Text
  message : Message
  required : Bool
  windowGroup : Text
  deriving DecidableEq

structure SourceRequest where
  source : ContextSource
  tokenBudget : Int
  systemInstructions : List Text
  requiredMessages : List Message
  transientMessages : List TransientMessage
  deriving DecidableEq

structure Metadata where
  tokenBudget : Int
  estimatedTokens : Int
  historyMessages : Nat
  historyStartSequence : Option Int
  historyEndSequence : Option Int
  windowStartSequence : Option Int
  windowEndSequence : Option Int
  includedHistoryMessages : Nat
  omittedHistoryMessages : Nat
  includedMessageIDs : List Text
  omittedMessages : List OmittedMessage
  deriving DecidableEq

structure Result where
  sessionID : Text
  messages : List Message
  metadata : Metadata
  deriving DecidableEq

abbrev TokenEstimator := Message → Int

/-- `ApproximateEstimator`: four framing tokens and one for every four code points. -/
def approximateEstimator : TokenEstimator := fun message =>
  4 + (((message.content.length + 3) / 4 : Nat) : Int)

def estimate (estimator : TokenEstimator) (message : Message) : Int :=
  if 0 < estimator message then estimator message else 1

def messagesTokens (estimator : TokenEstimator) (messages : List Message) : Int :=
  (messages.map (estimate estimator)).sum

def validSource (source : ContextSource) : Bool :=
  trimSpace source.id ≠ [] ∧ (source.kind = .interactionSession ∨ source.kind = .cognitionRun)

def validRole (role : Role) : Bool :=
  role = .system ∨ role = .user ∨ role = .assistant ∨ role = .tool

def validMessage (message : Message) : Bool :=
  validRole message.role ∧ trimSpace message.content ≠ []

/-- The check of the resolved records; `previous` is the sequence of the record before. -/
def checkRecords (source : ContextSource) : Option Int → List ContextRecord → Option BuildError
  | _, [] => none
  | previous, record :: records =>
    if record.source ≠ source then some .sourceIsolation
    else if trimSpace record.id = [] ∨ record.sequence < 0 ∨
        previous.any (fun sequence => record.sequence ≤ sequence) then some .invalidSource
    else checkRecords source (some record.sequence) records

/-- The loop over messages that must be part of the context: each one is `valid` and fits what
is left of the budget. -/
def reserve (estimator : TokenEstimator) (valid : Message → Bool) (tokenBudget : Int) :
    List Message → Int → Except BuildError Int
  | [], spent => .ok spent
  | message :: messages, spent =>
    if valid message = false then .error .invalidRequest
    else if tokenBudget < spent + estimate estimator message then
      .error .requiredContextExceedsBudget
    else reserve estimator valid tokenBudget messages (spent + estimate estimator message)

def recordMessage (record : ContextRecord) : Message :=
  ⟨record.role, record.content, record.provenance⟩

def windowItem (estimator : TokenEstimator) (record : ContextRecord) : WindowItem :=
  ⟨record, estimate estimator (recordMessage record), record.required⟩

def recordItems (estimator : TokenEstimator) :
    List ContextRecord → Except BuildError (List WindowItem)
  | [] => .ok []
  | record :: records =>
    if validRole record.role then
      match recordItems estimator records with
      | .error e => .error e
      | .ok items => .ok (windowItem estimator record :: items)
    else .error .invalidRequest

def transientRecord (source : ContextSource) (sequence : Int) (transient : TransientMessage) :
    ContextRecord where
  id := transient.id
  source := source
  sequence := sequence
  role := transient.message.role
  content := transient.message.content
  provenance := transient.message.provenance
  required := transient.required
  windowGroup := transient.windowGroup
  omitReason := none

/-- The items of transient messages; `known` holds the identifiers of the history and of the
transient messages before. -/
def transientItems (estimator : TokenEstimator) (source : ContextSource) :
    Int → List Text → List TransientMessage → Except BuildError (List WindowItem)
  | _, _, [] => .ok []
  | sequence, known, transient :: transients =>
    if trimSpace transient.id = [] ∨ validMessage transient.message = false ∨
        transient.id ∈ known then .error .invalidRequest
    else
      match transientItems estimator source (sequence + 1) (transient.id :: known) transients with
      | .error e => .error e
      | .ok items => .ok (windowItem estimator (transientRecord source sequence transient) :: items)

def nextSequence (records : List ContextRecord) : Int :=
  match records.getLast? with
  | none => 0
  | some record => record.sequence + 1

def instructionMessages (instructions : List Text) : List Message :=
  instructions.map fun instruction => ⟨.system, instruction, []⟩

/-- The result from the selected window: instructions, selected history, required messages and
selected transient messages. -/
def assemble (request : SourceRequest) (records : List ContextRecord) (spent : Int)
    (window : Window) : Result :=
  let historical := fun item : WindowItem => decide (item.record.id ∈ records.map ContextRecord.id)
  let history := window.items.filter historical
  let rolling := history.filter fun item => !item.required
  { sessionID := if request.source.kind = .interactionSession then request.source.id else []
    messages := instructionMessages request.systemInstructions ++
      (history.map (fun item => recordMessage item.record) ++
        (request.requiredMessages ++
          (window.items.filter fun item => !historical item).map fun item =>
            recordMessage item.record))
    metadata :=
      { tokenBudget := request.tokenBudget
        estimatedTokens := spent + window.estimatedTokens
        historyMessages := records.length
        historyStartSequence := records.head?.map ContextRecord.sequence
        historyEndSequence := records.getLast?.map ContextRecord.sequence
        windowStartSequence := rolling.head?.map fun item => item.record.sequence
        windowEndSequence := rolling.getLast?.map fun item => item.record.sequence
        includedHistoryMessages := history.length
        omittedHistoryMessages := (window.omittedMessages.filter fun omitted =>
          decide (omitted.id ∈ records.map ContextRecord.id)).length
        includedMessageIDs := history.map fun item => item.record.id
        omittedMessages := window.omittedMessages } }

/-- `BuildSource` once the source is resolved. -/
def buildRecords (estimator : TokenEstimator) (request : SourceRequest)
    (records : List ContextRecord) : Except BuildError Result := do
  let instructed ← reserve estimator (fun _ => true) request.tokenBudget
    (instructionMessages request.systemInstructions) 0
  let spent ← reserve estimator validMessage request.tokenBudget request.requiredMessages instructed
  let history ← recordItems estimator records
  let transient ← transientItems estimator request.source (nextSequence records)
    (records.map ContextRecord.id) request.transientMessages
  let window ← selectWindow (history ++ transient) (request.tokenBudget - spent)
  return assemble request records spent window

def buildSource (resolve : ContextSource → Except BuildError ResolvedSource)
    (estimator : TokenEstimator) (request : SourceRequest) : Except BuildError Result :=
  if validSource request.source = false then .error .invalidSource
  else if request.tokenBudget ≤ 0 then .error .invalidRequest
  else
    match resolve request.source with
    | .error e => .error e
    | .ok resolved =>
      if resolved.source ≠ request.source then .error .sourceIsolation
      else
        match checkRecords request.source none resolved.records with
        | some e => .error e
        | none => buildRecords estimator request resolved.records

/-- `Build`: a session request is one for its source. -/
def build (resolve : ContextSource → Except BuildError ResolvedSource) (estimator : TokenEstimator)
    (sessionID : Text) (tokenBudget : Int) (systemInstructions : List Text)
    (requiredMessages : List Message) (transientMessages : List TransientMessage) :
    Except BuildError Result :=
  if trimSpace sessionID = [] ∨ tokenBudget ≤ 0 then .error .invalidRequest
  else
    buildSource resolve estimator
      ⟨⟨.interactionSession, sessionID⟩, tokenBudget, systemInstructions, requiredMessages,
        transientMessages⟩

/-! ## The estimate of a result -/

section

theorem messagesTokens_append : messagesTokens estimator (first ++ second) =
      messagesTokens estimator first + messagesTokens estimator second := by
  rw [messagesTokens, map_append, sum_append]
  rfl

theorem reserve_ok (ok : reserve estimator valid tokenBudget messages spent = .ok total)
    (within : spent ≤ tokenBudget) :
    total = spent + messagesTokens estimator messages ∧ total ≤ tokenBudget := by
  induction messages generalizing spent with
  | nil =>
    cases ok
    exact ⟨(Int.add_zero _).symm, within⟩
  | cons message messages ih => grind [reserve, messagesTokens]

/-- The item carries the estimate of its message. -/
def Estimated (estimator : TokenEstimator) (item : WindowItem) : Prop :=
  item.estimatedTokens = estimate estimator (recordMessage item.record)

variable {records : List ContextRecord} {items : List WindowItem}

theorem recordItems_estimated
    (ok : recordItems estimator records = .ok items) :
    ∀ item ∈ items, Estimated estimator item := by
  induction records generalizing items with
  | nil =>
    cases ok
    exact nofun
  | cons record records ih =>
    unfold recordItems at ok
    split at ok
    · split at ok
      · cases ok
      · rename_i _ listed
        cases ok
        exact forall_mem_cons.mpr ⟨rfl, ih listed⟩
    · cases ok

theorem transientItems_estimated
    (ok : transientItems estimator source start known transients = .ok items) :
    ∀ item ∈ items, Estimated estimator item := by
  induction transients generalizing start known items with
  | nil =>
    cases ok
    exact nofun
  | cons transient transients ih =>
    unfold transientItems at ok
    split at ok
    · cases ok
    split at ok
    · cases ok
    · rename_i _ listed
      cases ok
      exact forall_mem_cons.mpr ⟨rfl, ih listed⟩

theorem messagesTokens_items (estimated : ∀ item ∈ items, Estimated estimator item) :
    messagesTokens estimator (items.map fun item => recordMessage item.record) =
      tokensOf items := by
  grind [Estimated, map_congr_left, messagesTokens, tokensOf]

/-- Each message of a result comes from one part of the request, and the parts add up to the
estimate. -/
theorem assemble_tokens (estimated : ∀ item ∈ window.items, Estimated estimator item)
    (counted : tokensOf window.items = window.estimatedTokens)
    (reserved : spent = messagesTokens estimator (instructionMessages request.systemInstructions) +
      messagesTokens estimator request.requiredMessages) :
    messagesTokens estimator (assemble request records spent window).messages =
      (assemble request records spent window).metadata.estimatedTokens := by
  have within (p : WindowItem → Bool) : ∀ item ∈ window.items.filter p, Estimated estimator item :=
    fun item member => estimated item (mem_of_mem_filter member)
  have parts := tokensOf_partition window.items fun item =>
    decide (item.record.id ∈ records.map ContextRecord.id)
  unfold assemble
  dsimp only
  rw [messagesTokens_append, messagesTokens_append, messagesTokens_append,
    messagesTokens_items (within _), messagesTokens_items (within _), reserved, ← counted, ← parts]
  omega

/-- A context stays within its budget, and so does its estimate. -/
theorem buildRecords_within (positive : 0 < request.tokenBudget)
    (ok : buildRecords estimator request records = .ok result) :
    messagesTokens estimator result.messages = result.metadata.estimatedTokens ∧
      result.metadata.estimatedTokens ≤ request.tokenBudget := by
  unfold buildRecords at ok
  simp only [bind, Except.bind, pure, Except.pure] at ok
  split at ok
  · cases ok
  rename_i _ instructions
  split at ok
  · cases ok
  rename_i spent required
  split at ok
  · cases ok
  rename_i _ listed
  split at ok
  · cases ok
  rename_i _ added
  split at ok
  · cases ok
  rename_i window chosen
  cases ok
  obtain ⟨first, fits⟩ := reserve_ok instructions (Int.le_of_lt positive)
  obtain ⟨second, fits⟩ := reserve_ok required fits
  obtain ⟨sublist, counted, _⟩ := selectWindow_within chosen
  have estimated : ∀ item ∈ window.items, Estimated estimator item := by
    intro item member
    rcases mem_append.mp (sublist.subset member) with member | member
    · exact recordItems_estimated listed item member
    · exact transientItems_estimated added item member
  refine ⟨assemble_tokens estimated counted ?_, ?_⟩
  · rw [second, first, Int.zero_add]
  · change spent + window.estimatedTokens ≤ request.tokenBudget
    omega

theorem buildSource_within (ok : buildSource resolve estimator request = .ok result) :
    messagesTokens estimator result.messages = result.metadata.estimatedTokens ∧
      result.metadata.estimatedTokens ≤ request.tokenBudget := by
  unfold buildSource at ok
  split at ok
  · cases ok
  split at ok
  · cases ok
  rename_i positive
  split at ok
  · cases ok
  split at ok
  · cases ok
  split at ok
  · cases ok
  exact buildRecords_within (Int.not_le.mp positive) ok

theorem build_within
    (ok : build resolve estimator sessionID tokenBudget systemInstructions requiredMessages
      transientMessages = .ok result) :
    messagesTokens estimator result.messages = result.metadata.estimatedTokens ∧
      result.metadata.estimatedTokens ≤ tokenBudget := by
  unfold build at ok
  split at ok
  · cases ok
  · exact buildSource_within ok

end

end NeonDoll.ContextBuilder
