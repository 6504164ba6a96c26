import NeonDoll.Interaction.Ingress
import NeonDoll.Interaction.Service

/-!
# The ingress bound to a gateway

The operations of `boundIngress` in `Core/Gateway/abi.go` that an adapter calls, with the
response emitter of `Core/Runtime/gateway.go`.  The replay after an operation works on all of
Core; here it either succeeds or fails, and what it does are steps of their own.
-/

namespace NeonDoll.Gateway

open Lib Text Session SessionEvent Interaction

inductive GatewayError where
  | hostNotConfigured
  | unavailable
  | session (error : SessionError)
  | ingress (error : IngressError)
  | interaction
  | replay
  | invalidEvent
  | sessionUnavailable
  | delivery
  deriving DecidableEq

/-- Which calls of `ResolvePlatformSession` succeed, and the identifier drawn for a session. -/
structure SessionCalls where
  resume : Bool
  create : Bool
  again : Bool
  drawn : SessionID
  deriving DecidableEq

/-- `ResolvePlatformSession`: the session of the conversation, resumed or created. -/
def resolvePlatformSession (s : Store) (gateway : GatewayInstance) (ref : Text)
    (calls : SessionCalls) : Store × Except GatewayError SessionID :=
  if trimSpace ref = [] then (s, .error .hostNotConfigured)
  else
    match resumeConversation s (gatewayOwner gateway) ref calls.resume with
    | .ok session => (s, .ok session.id)
    | .error .notFound =>
      match create s (gatewayOwner gateway) ref calls.drawn calls.create with
      | (t, .ok session) => (t, .ok session.id)
      | (t, .error .conversationInUse) =>
        match resumeConversation t (gatewayOwner gateway) ref calls.again with
        | .ok session => (t, .ok session.id)
        | .error e => (t, .error (.session e))
      | (t, .error e) => (t, .error (.session e))
    | .error e => (s, .error (.session e))

def externalConversationRef (s : Store) (gateway : GatewayInstance) (id : SessionID) (ok : Bool) :
    Except GatewayError Text :=
  if trimSpace id = [] then .error .hostNotConfigured
  else
    match lookup s id ok with
    | .error e => .error (.session e)
    | .ok session =>
      if session.status ≠ .active ∨ session.owner ≠ gatewayOwner gateway ∨
          trimSpace session.externalConversationRef = [] then .error .unavailable
      else .ok session.externalConversationRef

/-- `boundIngress.HandleSessionEvent` of an adapter with structured events. -/
def boundSessionEvent (codec : Codec) (s : SessionEvent.State) (gateway : GatewayInstance)
    (sender : VerifiedExternalSender) (event : SessionEvent.Event) (calls : IngressCalls)
    (replay : Bool) : SessionEvent.State × Option GatewayError :=
  match handleSessionEvent codec s gateway sender event calls with
  | (t, .error e) => (t, some (.ingress e))
  | (t, .ok _) => (t, if replay then none else some .replay)

/-- The outcome of each call of a platform message. -/
structure MessageCalls where
  session : SessionCalls
  ingress : IngressCalls
  service : ServiceCalls
  replay : Bool
  deriving DecidableEq

/-- What became of a platform message: the state, whether a turn was stored, and the session with
the response unless there was an error. -/
structure MessageOutcome where
  state : SessionEvent.State
  stored : Bool
  result : Except GatewayError (SessionID × Response)

/-- `HandlePlatformMessage` with `HandleLegacy`: the response is returned once the replay has
succeeded. -/
def handlePlatformMessage (s : SessionEvent.State) (gateway : GatewayInstance) (ref : Text)
    (sender : VerifiedExternalSender) (dollID text : Text) (calls : MessageCalls) :
    MessageOutcome :=
  match resolvePlatformSession s.sessions gateway ref calls.session with
  | (sessions, .error e) => ⟨{ s with sessions := sessions }, false, .error e⟩
  | (sessions, .ok id) =>
    match routeVerifiedInteraction { s with sessions := sessions } gateway sender id
      calls.ingress with
    | (t, .error e) => ⟨t, false, .error (.ingress e)⟩
    | (t, .ok _) =>
      match handleInteraction dollID text calls.service with
      | (stored, none) => ⟨t, stored, .error .interaction⟩
      | (stored, some response) =>
        ⟨t, stored, if calls.replay then .ok (id, response) else .error .replay⟩

/-- Which calls of a response succeed.  The last one is the record of the delivery attempt; with
any other outcome of the attempt the delivery is returned, and its error is dropped. -/
structure EmitCalls where
  conversation : Bool
  lookup : Bool
  create : Bool
  record : Bool
  deriving DecidableEq

/-- The event that carries a response is valid; an empty error gets a text of its own. -/
def validResponse : Response → Bool
  | .message text => trimSpace text ≠ []
  | .error text => text = [] ∨ trimSpace text ≠ []

/-- `EmitInteractionResponse`: the response is staged as a delivery of its session. -/
def emitInteractionResponse (s : SessionEvent.State) (gateway : GatewayInstance) (id : SessionID)
    (response : Response) (calls : EmitCalls) : Option GatewayError :=
  match externalConversationRef s.sessions gateway id calls.conversation with
  | .error e => some e
  | .ok _ =>
    if validResponse response = false then some .invalidEvent
    else if s.available id calls.lookup = false then some .sessionUnavailable
    else if calls.create = false ∨ calls.record = false then some .delivery
    else none

theorem boundSessionEvent_frame (codec : Codec) (s : SessionEvent.State)
    (gateway : GatewayInstance) (sender : VerifiedExternalSender) (event : SessionEvent.Event)
    (calls : IngressCalls) (replay : Bool) :
    IngressFrame s (boundSessionEvent codec s gateway sender event calls replay).1 := by
  grind [handleSessionEvent_frame, boundSessionEvent]

/-! ## The session of a conversation -/

/-- An active session of the gateway for the conversation. -/
def Serves (s : Store) (gateway : GatewayInstance) (ref : Text) (id : SessionID) : Prop :=
  ∃ session, s.sessions.lookup id = some session ∧ session.owner = gatewayOwner gateway ∧
    session.externalConversationRef = ref ∧ session.status = .active

/-- The tables stay in order, and the session that is resolved serves the conversation. -/
theorem resolvePlatformSession_serves (keyed : s.Keyed) (gateway : GatewayInstance)
    (ref : Text) (calls : SessionCalls) : (resolvePlatformSession s gateway ref calls).1.Keyed ∧
      ∀ id, (resolvePlatformSession s gateway ref calls).2 = .ok id →
        trimSpace ref ≠ [] ∧
          Serves (resolvePlatformSession s gateway ref calls).1 gateway ref id := by
  unfold resolvePlatformSession
  split
  · exact ⟨keyed, nofun⟩
  rename_i named
  split
  · rename_i session resumed
    refine ⟨keyed, ?_⟩
    rintro id ⟨⟩
    exact ⟨named, session, resumeConversation_found keyed resumed⟩
  · rcases create_cases s (gatewayOwner gateway) ref calls.drawn calls.create with
      ⟨e, failed⟩ | ⟨_, _⟩
    · rw [failed]
      cases e with
      | conversationInUse =>
        dsimp only
        split
        · rename_i session resumed
          refine ⟨keyed, ?_⟩
          rintro id ⟨⟩
          exact ⟨named, session, resumeConversation_found keyed resumed⟩
        · exact ⟨keyed, nofun⟩
      | notFound | invalidRequest | invalidTransition | store => exact ⟨keyed, nofun⟩
    · grind [Serves, keyed_insert, AList.lookup_insert]
  · exact ⟨keyed, nofun⟩

variable {id : SessionID}

theorem serves_of_sessions (same : t.sessions = s.sessions) (serves : Serves s gateway ref id) :
    Serves t gateway ref id := by
  grind [Serves]

theorem externalConversationRef_serves
    (serves : Serves s gateway ref id) (spoken : trimSpace ref ≠ [])
    (named : trimSpace id ≠ []) (ok : Bool) :
    (∃ ref', externalConversationRef s gateway id ok = .ok ref') ↔ ok = true := by
  obtain ⟨_, found, owned, ref_eq, active⟩ := serves
  unfold externalConversationRef lookup loadSession
  rw [if_neg named, if_neg named]
  cases ok with
  | false => simp
  | true => simp [found, owned, ref_eq, active, spoken]

variable {s : SessionEvent.State}

theorem available_serves
    (serves : Serves s.sessions gateway ref id) (named : trimSpace id ≠ []) :
    s.available id ok = ok := by
  grind [Serves, State.available, lookup, loadSession]

theorem emitInteractionResponse_serves
    (serves : Serves s.sessions gateway ref id)
    (spoken : trimSpace ref ≠ []) (named : trimSpace id ≠ []) (response : Response)
    (calls : EmitCalls) : emitInteractionResponse s gateway id response calls = none ↔
      calls.conversation = true ∧ validResponse response = true ∧ calls.lookup = true ∧
        calls.create = true ∧ calls.record = true := by
  have known := externalConversationRef_serves serves spoken named calls.conversation
  unfold emitInteractionResponse
  rw [available_serves serves named]
  cases reference : externalConversationRef s.sessions gateway id calls.conversation with
  | error e => grind
  | ok ref' => grind

theorem handlePlatformMessage_keyed (keyed : s.sessions.Keyed) :
    (handlePlatformMessage s gateway ref sender dollID text calls).state.sessions.Keyed := by
  have resolved := (resolvePlatformSession_serves keyed gateway ref calls.session).1
  unfold handlePlatformMessage
  split
  · grind
  rename_i sessions id ended
  rw [ended] at resolved
  have frame := (routeVerifiedInteraction_frame { s with sessions := sessions } gateway sender id
    calls.ingress).1.sessions
  split
  all_goals grind [keyed_of_sessions]

end NeonDoll.Gateway
