import NeonDoll.Gateway.Abi
import NeonDoll.Lib.JsonRecord

/-!
# The gateway adapter

The inbound side of `Core/Extension/gateway.go`.  Messages of the guest are staged in a queue;
the adapter hands the first one to Core, again at every retry until it is accepted, and only then
takes the next one.  The guest is not polled while the queue holds anything.  The state store of
the extension works, so the queue in memory and the stored one agree.
-/

namespace NeonDoll.Extension

open Lib Text Json Transition Session SessionEvent Interaction Gateway
open Permission (RequestID RawMessage)

/-- A `message.incoming` of the guest. -/
structure Incoming where
  updateID : Int64
  chatID : Int64
  senderID : Int64
  text : Text
  deriving DecidableEq

/-- The configuration of an adapter.  Identifiers of requests are numbers in the model, and
`requestID` gives the one that a text stands for. -/
structure Config where
  core : Interaction.Config
  gateway : GatewayInstance
  platform : Text
  dollID : Text
  conversationPrefix : Text
  requestID : Text → RequestID
  blank : ∀ t, requestID t = 0 ↔ trimSpace t = []
  marshal : PermissionDecidedPayload → RawMessage
  valid : ∀ payload, core.codec.valid (marshal payload) = true
  unmarshal : ∀ payload, core.codec.permissionDecided (marshal payload) = some payload

structure State where
  core : SessionEvent.State
  pending : List Incoming
  /-- The identifiers under `gateway/inbound-accepted/`. -/
  accepted : List Text

def inboundID (incoming : Incoming) : Text := intText incoming.updateID.toInt

/-! ## Staging -/

def pendingContains (s : State) (id : Text) : Bool :=
  s.pending.any fun incoming => inboundID incoming = id

/-- One message in the loop of `dispatch`: an accepted one is acknowledged again, a new one is
staged. -/
def stage (s : State) (incoming : Incoming) : State :=
  if inboundID incoming ∈ s.accepted then s
  else if pendingContains s (inboundID incoming) then s
  else { s with pending := s.pending ++ [incoming] }

/-- `dispatch` of the messages of the guest, in the order in which it comes to them: an
acknowledgement may make the guest emit more, which are dispatched before the rest. -/
def dispatch (s : State) (messages : List Incoming) : State := messages.foldl stage s

/-! ## Handling -/

/-- `strings.Fields`. -/
def fields (t : Text) : List Text := (t.splitOnP isSpace).filter fun field => field ≠ []

/-- `strings.EqualFold` on words whose letters have no other case forms. -/
def equalFold (a b : Text) : Bool := a.map Char.toLower = b.map Char.toLower

/-- The decision command that a text is, with the identifier of the request. -/
def command (text : Text) : Option (Decision × Text) :=
  match fields text with
  | [word, id] =>
    if equalFold word "/approve".toList then some (.approve, id)
    else if equalFold word "/deny".toList then some (.deny, id)
    else none
  | _ => none

/-- The outcome of each call of a handling; `eventID` is the identifier drawn for an event. -/
structure HandlingCalls where
  message : MessageCalls
  eventID : Text
  emit : EmitCalls
  deriving DecidableEq

def conversationOf (cfg : Config) (incoming : Incoming) : Text :=
  cfg.conversationPrefix ++ intText incoming.chatID.toInt

def senderOf (cfg : Config) (incoming : Incoming) : VerifiedExternalSender :=
  ⟨cfg.platform, intText incoming.senderID.toInt, []⟩

/-- The event that `NewEvent` makes of a decision. -/
def decisionEvent (cfg : Config) (s : SessionEvent.State) (sessionID : SessionID)
    (payload : PermissionDecidedPayload) (eventID : Text) : SessionEvent.Event :=
  { version := SessionEvent.version
    id := eventID
    sessionID := sessionID
    type := .permissionDecided
    timestamp := some s.permissions.now
    correlatedRequest := some payload.requestID
    payload := cfg.marshal payload }

/-- What became of an inbound message. -/
structure Handling where
  state : SessionEvent.State
  stored : Bool
  error : Option GatewayError

/-- The branch of `handleInbound` for a decision command. -/
def handleCommand (cfg : Config) (s : SessionEvent.State) (incoming : Incoming)
    (decision : Decision) (id : Text) (calls : HandlingCalls) : Handling :=
  match resolvePlatformSession s.sessions cfg.gateway (conversationOf cfg incoming)
    calls.message.session with
  | (sessions, .error e) => ⟨{ s with sessions := sessions }, false, some e⟩
  | (sessions, .ok sessionID) =>
    let t : SessionEvent.State := { s with sessions := sessions }
    let event := decisionEvent cfg t sessionID ⟨cfg.requestID id, decision⟩ calls.eventID
    if event.validate cfg.core.codec = false then ⟨t, false, some .invalidEvent⟩
    else
      let (u, error) := boundSessionEvent cfg.core.codec t cfg.gateway (senderOf cfg incoming)
        event calls.message.ingress calls.message.replay
      ⟨u, false, error⟩

def handleInbound (cfg : Config) (s : SessionEvent.State) (incoming : Incoming)
    (calls : HandlingCalls) : Handling :=
  match command incoming.text with
  | some (decision, id) => handleCommand cfg s incoming decision id calls
  | none =>
    let outcome := handlePlatformMessage s cfg.gateway (conversationOf cfg incoming)
      (senderOf cfg incoming) cfg.dollID incoming.text calls.message
    match outcome.result with
    | .error e => ⟨outcome.state, outcome.stored, some e⟩
    | .ok (sessionID, response) =>
      ⟨outcome.state, outcome.stored,
        emitInteractionResponse outcome.state cfg.gateway sessionID response calls.emit⟩

/-! ## The adapter's loop -/

inductive Event where
  | core (event : Interaction.Event)
  /-- The message is handed to Core. -/
  | handed (id : Text)
  /-- A turn of the message is stored in the session history. -/
  | turn (id : Text)
  | polled
  deriving DecidableEq

/-- `retryInbound`; `emitted` are the messages that the guest emits when the first message is
acknowledged. -/
def retryInbound (cfg : Config) (s : State) (calls : HandlingCalls) (emitted : List Incoming) :
    State × List Event :=
  match s.pending with
  | [] => (s, [])
  | incoming :: rest =>
    let id := inboundID incoming
    if id ∈ s.accepted then (dispatch { s with pending := rest } emitted, [])
    else
      let handling := handleInbound cfg s.core incoming calls
      let events := .handed id :: if handling.stored then [.turn id] else []
      match handling.error with
      | some _ => ({ s with core := handling.state }, events)
      | none =>
        (dispatch
          { core := handling.state
            pending := rest
            accepted := id :: s.accepted } emitted, events)

inductive Action where
  /-- Something else happens in Core. -/
  | core (action : Interaction.Action)
  | retry (calls : HandlingCalls) (emitted : List Incoming)
  /-- The poll ticker; `messages` are what the guest emits if it is polled, none if that fails. -/
  | poll (messages : Option (List Incoming)) (calls : HandlingCalls) (emitted : List Incoming)
  /-- The guest emits messages during a delivery. -/
  | deliver (messages : List Incoming)

def step? (cfg : Config) (s : State) : Action → Option (State × List Event)
  | .core action =>
    match Interaction.step? cfg.core s.core action with
    | none => none
    | some (core, events) => some ({ s with core := core }, events.map .core)
  | .retry calls emitted => some (retryInbound cfg s calls emitted)
  | .poll messages calls emitted =>
    if s.pending ≠ [] then some (s, [])
    else
      match messages with
      | none => some (s, [.polled])
      | some messages =>
        let (t, events) := retryInbound cfg (dispatch s messages) calls emitted
        some (t, .polled :: events)
  | .deliver messages => some (dispatch s messages, [])

def system (cfg : Config) : System State Action Event :=
  ⟨⟨Interaction.State.init cfg.core.identities, [], []⟩, step? cfg⟩

/-- What a step does. -/
inductive Moves (cfg : Config) (s : State) : Action → List Event → State → Prop where
  | core {action : Interaction.Action} {core : SessionEvent.State} {events : List Interaction.Event}
      (performed : Interaction.step? cfg.core s.core action = some (core, events)) :
      Moves cfg s (.core action) (events.map .core) { s with core := core }
  | retry (calls : HandlingCalls) (emitted : List Incoming) :
      Moves cfg s (.retry calls emitted) (retryInbound cfg s calls emitted).2
        (retryInbound cfg s calls emitted).1
  | skipped {messages : Option (List Incoming)} {calls : HandlingCalls} {emitted : List Incoming}
      (queued : s.pending ≠ []) : Moves cfg s (.poll messages calls emitted) [] s
  | unanswered {calls : HandlingCalls} {emitted : List Incoming} (empty : s.pending = []) :
      Moves cfg s (.poll none calls emitted) [.polled] s
  | polled (messages : List Incoming) (calls : HandlingCalls) (emitted : List Incoming)
      (empty : s.pending = []) :
      Moves cfg s (.poll (some messages) calls emitted)
        (.polled :: (retryInbound cfg (dispatch s messages) calls emitted).2)
        (retryInbound cfg (dispatch s messages) calls emitted).1
  | delivered (messages : List Incoming) :
      Moves cfg s (.deliver messages) [] (dispatch s messages)

theorem step_moves (stepped : step? cfg s a = some (t, es)) : Moves cfg s a es t := by
  cases a with
  | core action => grind [step?, Moves]
  | retry calls emitted =>
    obtain ⟨rfl, rfl⟩ := Prod.mk.inj (Option.some.inj stepped)
    exact .retry calls emitted
  | poll messages calls emitted =>
    rw [step?.eq_def] at stepped
    dsimp only at stepped
    split at stepped
    · grind [Moves]
    rename_i empty
    cases messages with
    | none =>
      cases stepped
      exact .unanswered (not_not.mp empty)
    | some messages =>
      obtain ⟨rfl, rfl⟩ := Prod.mk.inj (Option.some.inj stepped)
      exact .polled messages calls emitted (not_not.mp empty)
  | deliver messages =>
    cases stepped
    exact .delivered messages

end NeonDoll.Extension
