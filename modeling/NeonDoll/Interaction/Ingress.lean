import NeonDoll.SessionEvent.Permission

/-!
# Gateway ingress

`Core/Interaction/gateway_ingress.go` and the session authorisation of `router.go`, and the
system that they are part of: permission requests, sessions, identities and presentations change
between the events of gateways, which come in any order from any instance.
-/

namespace NeonDoll.Interaction

open Lib Text Transition ExternalIdentity Session SessionEvent
open Permission (RequestID Request)
open DollMind (ExecutorConfig)

/-- `validID` of `Core/Extension/manifest.go`. -/
def validID (value : Text) : Bool :=
  value ≠ [] ∧ value.all fun c =>
    'a' ≤ c ∧ c ≤ 'z' ∨ 'A' ≤ c ∧ c ≤ 'Z' ∨ '0' ≤ c ∧ c ≤ '9' ∨ c = '-' ∨ c = '_' ∨ c = '.'

/-- The identity that the runtime binds to an ingress: the instance of a manifest that was
accepted. -/
structure GatewayInstance where
  id : Text
  valid : validID id = true
  deriving DecidableEq

/-- The claims are what a platform event says about its sender. -/
structure VerifiedExternalSender where
  platform : Text
  subjectID : Text
  claims : List (Text × Text)
  deriving DecidableEq

inductive RouteError where
  | invalidRoute
  | unknownSession
  | unauthorizedSession
  | closedSession
  | lookup (error : SessionError)
  | resume (error : SessionError)
  | hook (error : SessionError)
  deriving DecidableEq

inductive IngressError where
  | invalidEvent
  | invalidRoute
  | identity (error : IdentityError)
  | route (error : RouteError)
  | bridge (error : BridgeError)
  deriving DecidableEq

/-- Which calls of a routing succeed. -/
structure RouteCalls where
  lookup : Bool
  resume : Bool
  bind : Bool
  deriving DecidableEq

def validRouteOwner (owner : Owner) : Bool :=
  (owner.kind = .body ∨ owner.kind = .gateway) ∧ trimSpace owner.instanceID ≠ []

def authorizeSession (s : Store) (sessionID : SessionID) (owner : Owner)
    (onAuthorized : Option (Store → InteractionSession → Store × Option SessionError))
    (calls : RouteCalls) : Store × Except RouteError InteractionSession :=
  if trimSpace sessionID = [] ∨ validRouteOwner owner = false then (s, .error .invalidRoute)
  else
    match lookup s sessionID calls.lookup with
    | .error .notFound => (s, .error .unknownSession)
    | .error e => (s, .error (.lookup e))
    | .ok resolved =>
      if resolved.owner ≠ owner then (s, .error .unauthorizedSession)
      else if resolved.status ≠ .active then (s, .error .closedSession)
      else
        match resume s sessionID calls.resume with
        | .error .notFound => (s, .error .unknownSession)
        | .error .invalidTransition => (s, .error .closedSession)
        | .error e => (s, .error (.resume e))
        | .ok resolved =>
          match onAuthorized with
          | none => (s, .ok resolved)
          | some hook =>
            match hook s resolved with
            | (t, some e) => (t, .error (.hook e))
            | (t, none) => (t, .ok resolved)

/-- The hook of both handlers: the resolved principal takes part in the session. -/
def bindSender (gateway : GatewayInstance) (sender : VerifiedExternalSender)
    (principal : Principal) (ok : Bool) (s : Store) (resolved : InteractionSession) :
    Store × Option SessionError :=
  bindResolvedParticipant s resolved.id
    { sessionID := resolved.id
      gatewayInstanceID := gateway.id
      platform := sender.platform
      subjectID := sender.subjectID
      principalID := principal.id } ok

def gatewayOwner (gateway : GatewayInstance) : Owner := ⟨.gateway, gateway.id⟩

/-- The identity under which a sender of a gateway is looked up. -/
def presentedIdentity (gateway : GatewayInstance) (sender : VerifiedExternalSender) : Identity :=
  ⟨gateway.id, sender.platform, sender.subjectID⟩

/-- Which calls of an ingress operation succeed. -/
structure IngressCalls where
  resolve : Bool
  route : RouteCalls
  decide : DecideCalls
  deriving DecidableEq

/-- What is left of `HandleSessionEvent` once the event is decoded. -/
def handleDecision (s : SessionEvent.State) (gateway : GatewayInstance)
    (sender : VerifiedExternalSender) (sessionID : SessionID) (payload : PermissionDecidedPayload)
    (calls : IngressCalls) : SessionEvent.State × Except IngressError Request :=
  match if calls.resolve then s.identities.resolver.resolve (presentedIdentity gateway sender)
    else .error .context with
  | .error _ => (s, .error (.bridge .unauthorized))
  | .ok principal =>
    match authorizeSession s.sessions sessionID (gatewayOwner gateway)
      (some (bindSender gateway sender principal calls.route.bind)) calls.route with
    | (sessions, .error e) => ({ s with sessions := sessions }, .error (.route e))
    | (sessions, .ok _) =>
      let (t, result) :=
        bridgeDecide { s with sessions := sessions } sessionID principal payload calls.decide
      (t, result.mapError .bridge)

def handleSessionEvent (codec : Codec) (s : SessionEvent.State) (gateway : GatewayInstance)
    (sender : VerifiedExternalSender) (event : SessionEvent.Event) (calls : IngressCalls) :
    SessionEvent.State × Except IngressError Request :=
  if event.validate codec = false then (s, .error .invalidEvent)
  else
    match decodePermissionDecision codec event with
    | none => (s, .error .invalidEvent)
    | some payload => handleDecision s gateway sender event.sessionID payload calls

/-- `HandleVerifiedInteraction` up to the handler of the session, which works on the session that
is returned.  A sender that is not mapped has no principal and is not bound. -/
def routeVerifiedInteraction (s : SessionEvent.State) (gateway : GatewayInstance)
    (sender : VerifiedExternalSender) (sessionID : SessionID) (calls : IngressCalls) :
    SessionEvent.State × Except IngressError InteractionSession :=
  if trimSpace sender.platform = [] ∨ trimSpace sender.subjectID = [] then
    (s, .error .invalidRoute)
  else
    let route hook :=
      match authorizeSession s.sessions sessionID (gatewayOwner gateway) hook calls.route with
      | (sessions, result) => ({ s with sessions := sessions }, result.mapError .route)
    match if calls.resolve then s.identities.resolver.resolve (presentedIdentity gateway sender)
      else .error .context with
    | .ok principal => route (some (bindSender gateway sender principal calls.route.bind))
    | .error .unmapped => route none
    | .error e => (s, .error (.identity e))

/-! ## What the operations leave alone -/

theorem bindSender_quiet (sender : VerifiedExternalSender) (ok : Bool)
    (hook : Store → InteractionSession → Store × Option SessionError)
    (given : some (bindSender gateway sender principal ok) = some hook) (s : Store)
    (resolved : InteractionSession) : (hook s resolved).1.sessions = s.sessions := by
  cases given
  exact bindResolvedParticipant_sessions s _ _ ok

theorem authorizeSession_sessions (s : Store) (sessionID : SessionID) (owner : Owner)
    (onAuthorized : Option (Store → InteractionSession → Store × Option SessionError))
    (calls : RouteCalls) (quiet : ∀ hook, onAuthorized = some hook → ∀ s resolved,
      (hook s resolved).1.sessions = s.sessions) :
    (authorizeSession s sessionID owner onAuthorized calls).1.sessions = s.sessions := by
  unfold authorizeSession
  split
  · rfl
  split
  · rfl
  · rfl
  split
  · rfl
  split
  · rfl
  split
  · rfl
  · rfl
  · rfl
  split
  · rfl
  · grind

/-- Only permission requests, participants and their sources have changed. -/
structure IngressFrame (s t : SessionEvent.State) : Prop where
  identities : t.identities = s.identities
  sessions : t.sessions.sessions = s.sessions.sessions
  presentations : t.presentations = s.presentations

theorem IngressFrame.refl (s : SessionEvent.State) : IngressFrame s s := ⟨rfl, rfl, rfl⟩

theorem handleDecision_frame :
    IngressFrame s (handleDecision s gateway sender sessionID payload calls).1 := by
  unfold handleDecision
  split
  · exact .refl s
  rename_i principal _
  have quiet := authorizeSession_sessions s.sessions sessionID (gatewayOwner gateway)
    (some (bindSender gateway sender principal calls.route.bind)) calls.route
    (bindSender_quiet sender calls.route.bind)
  split
  · grind [IngressFrame]
  rename_i sessions _ authorised
  rw [authorised] at quiet
  have frame := bridgeDecide_frame { s with sessions := sessions } sessionID principal payload
    calls.decide
  refine ⟨frame.identities, ?_, frame.presentations⟩
  rw [frame.sessions]
  exact quiet

theorem handleSessionEvent_frame (codec : Codec) (s : SessionEvent.State)
    (gateway : GatewayInstance) (sender : VerifiedExternalSender) (event : SessionEvent.Event)
    (calls : IngressCalls) :
    IngressFrame s (handleSessionEvent codec s gateway sender event calls).1 := by
  grind [IngressFrame, handleDecision_frame, handleSessionEvent]

theorem routeVerifiedInteraction_frame (s : SessionEvent.State) (gateway : GatewayInstance)
    (sender : VerifiedExternalSender) (sessionID : SessionID) (calls : IngressCalls) :
    IngressFrame s (routeVerifiedInteraction s gateway sender sessionID calls).1 ∧
      (routeVerifiedInteraction s gateway sender sessionID calls).1.permissions =
        s.permissions := by
  unfold routeVerifiedInteraction
  split
  · exact ⟨.refl s, rfl⟩
  split
  · rename_i principal _
    have quiet := authorizeSession_sessions s.sessions sessionID (gatewayOwner gateway)
      (some (bindSender gateway sender principal calls.route.bind)) calls.route
      (bindSender_quiet sender calls.route.bind)
    exact ⟨⟨rfl, quiet, rfl⟩, rfl⟩
  · grind [IngressFrame, authorizeSession_sessions]
  · exact ⟨.refl s, rfl⟩

/-! ## The system -/

structure Config where
  executor : ExecutorConfig
  codec : Codec
  identities : Identities

inductive Action where
  /-- Any action on permission requests but a restart. -/
  | permission (action : Permission.Action)
  | createSession (owner : Owner) (ref : Text) (id : SessionID) (ok : Bool)
  | closeSession (id : SessionID) (ok : Bool)
  | interaction (gateway : GatewayInstance) (sender : VerifiedExternalSender)
      (sessionID : SessionID) (calls : IngressCalls)
  | present (id : RequestID) (calls : PresentCalls)
  | sessionEvent (gateway : GatewayInstance) (sender : VerifiedExternalSender)
      (event : SessionEvent.Event) (calls : IngressCalls)
  /-- A restart of Core, which may read another configuration. -/
  | restart (identities : Identities)

inductive Event where
  | permission (event : Permission.Event)
  | presented (id : RequestID) (sessionID : SessionID)
  deriving DecidableEq

/-- The sources that the daemon reconciles the participants with. -/
def configuredSources (identities : Identities) : List ParticipantSource :=
  identities.configured.map fun m =>
    { sessionID := []
      gatewayInstanceID := m.identity.gatewayInstanceID
      platform := m.identity.platform
      subjectID := m.identity.subjectID
      principalID := m.principal.id }

/-- The event of a presentation, if its row is new. -/
def presentedEvents (s t : SessionEvent.State) (id : RequestID) : List Event :=
  match s.presentations.lookup id, t.presentations.lookup id with
  | none, some sessionID => [.presented id sessionID]
  | _, _ => []

def permissionStep (cfg : Config) (s : SessionEvent.State) (a : Permission.Action) :
    Option (SessionEvent.State × List Event) :=
  match Permission.step? cfg.executor s.permissions a with
  | none => none
  | some (permissions, events) =>
    some ({ s with permissions := permissions }, events.map .permission)

def step? (cfg : Config) (s : SessionEvent.State) :
    Action → Option (SessionEvent.State × List Event)
  | .permission .restart => none
  | .permission a => permissionStep cfg s a
  | .createSession owner ref id ok =>
    some ({ s with sessions := (create s.sessions owner ref id ok).1 }, [])
  | .closeSession id ok => some ({ s with sessions := (close s.sessions id ok).1 }, [])
  | .interaction gateway sender sessionID calls =>
    some ((routeVerifiedInteraction s gateway sender sessionID calls).1, [])
  | .present id calls =>
    let t := (present cfg.executor.manager.validJSON s id calls).1
    some (t, presentedEvents s t id)
  | .sessionEvent gateway sender event calls =>
    some ((handleSessionEvent cfg.codec s gateway sender event calls).1, [])
  | .restart identities =>
    permissionStep cfg
      { s with
        identities := identities
        sessions := s.sessions.reconcile (configuredSources identities) } .restart

def State.init (identities : Identities) : SessionEvent.State :=
  ⟨identities, Store.empty, Permission.State.init, ∅⟩

def system (cfg : Config) : System SessionEvent.State Action Event :=
  ⟨State.init cfg.identities, step? cfg⟩

variable {es : List Event} {action : Permission.Action} {s t : SessionEvent.State}

theorem permissionStep_frame
    (stepped : permissionStep cfg s action = some (t, es)) : s.Frame t := by
  constructor <;> grind [permissionStep]

theorem permissionStep_of_step (stepped : step? cfg s (.permission action) = some (t, es)) :
    permissionStep cfg s action = some (t, es) := by
  cases action <;> first | exact stepped | cases stepped

theorem step_keyed
    (keyed : s.sessions.Keyed) (stepped : step? cfg s a = some (t, es)) : t.sessions.Keyed := by
  cases a with
  | permission action =>
    rw [(permissionStep_frame (permissionStep_of_step stepped)).sessions]
    exact keyed
  | createSession owner ref id ok =>
    cases stepped
    exact create_keyed keyed owner ref id ok
  | closeSession id ok =>
    cases stepped
    exact close_keyed keyed id ok
  | interaction gateway sender sessionID calls =>
    cases stepped
    exact keyed_of_sessions
      (routeVerifiedInteraction_frame s gateway sender sessionID calls).1.sessions keyed
  | present id calls =>
    cases stepped
    rw [(present_effect _ s id calls).sessions]
    exact keyed
  | sessionEvent gateway sender event calls =>
    cases stepped
    exact keyed_of_sessions
      (handleSessionEvent_frame cfg.codec s gateway sender event calls).sessions keyed
  | restart identities =>
    rw [step?] at stepped
    rw [(permissionStep_frame stepped).sessions]
    exact keyed_of_sessions (reconcile_frame s.sessions _).1 keyed

/-! ## Sources across a restart -/

/-- The configured mappings whose identity, as it is written, is filed under a text. -/
def filedUnder (identities : Identities) (text : Text) : List Mapping :=
  identities.configured.filter fun m =>
    sourceText m.identity.gatewayInstanceID m.identity.platform m.identity.subjectID = text

theorem allowed_configured (identities : Identities) (text : Text) :
    allowed (configuredSources identities) text =
      ((filedUnder identities text).getLast?.map (·.principal.id)).getD [] := by
  rw [allowed, configuredSources, ← List.map_reverse, List.find?_map, filedUnder,
    List.getLast?_eq_head?_reverse, ← List.filter_reverse, List.head?_filter]
  simp only [Function.comp_def]
  cases identities.configured.reverse.find? _ with
  | none | some m => rfl

/-- The resolver trims what is configured and what a sender presents, the daemon does not: a source
survives exactly if the last mapping filed under the sender's own text has the resolved
principal. -/
theorem bound_source_kept_iff {identities : Identities} {gateway : GatewayInstance}
    {sender : VerifiedExternalSender} {principal : Principal} {s : Store} {sessionID : SessionID}
    (resolved : identities.resolver.resolve (presentedIdentity gateway sender) = .ok principal)
    (bound : s.sources.lookup ⟨sessionID, gateway.id, sender.platform, sender.subjectID⟩ =
      some principal.id) :
    (s.reconcile (configuredSources identities)).sources.lookup
        ⟨sessionID, gateway.id, sender.platform, sender.subjectID⟩ = some principal.id ↔
      (filedUnder identities (sourceText gateway.id sender.platform sender.subjectID)).getLast?.map
        (·.principal.id) = some principal.id := by
  have named := (identities.resolve_maps resolved).1
  rw [lookup_reconcile, and_iff_right bound, allowed_configured]
  grind

/-- A configuration with a space before the platform. -/
def paddedIdentities : Identities where
  configured := [⟨⟨['g'], [' ', 'p'], ['u']⟩, ⟨['o'], .owner⟩⟩]
  resolver :=
    { mappings := (∅ : GoMap IdentityKey Principal).insert ⟨['g'], ['p'], ['u']⟩ ⟨['o'], .owner⟩
      principals := (∅ : GoMap Text Authority).insert ['o'] .owner }
  built := rfl

def boundStore (platform : Text) : Store :=
  ⟨∅, [(['s'], ['o'])], (∅ : GoMap SourceKey Text).insert ⟨['s'], ['g'], platform, ['u']⟩ ['o']⟩

theorem bound_source_kept_padded :
    ((boundStore [' ', 'p']).reconcile (configuredSources paddedIdentities)).sources.lookup
      ⟨['s'], ['g'], [' ', 'p'], ['u']⟩ = some ['o'] :=
  (@bound_source_kept_iff paddedIdentities ⟨['g'], by decide⟩ ⟨[' ', 'p'], ['u'], []⟩
    ⟨['o'], .owner⟩ (boundStore [' ', 'p']) ['s'] rfl rfl).mpr rfl

theorem trimmed_sender_forgotten :
    paddedIdentities.resolver.resolve ⟨['g'], ['p'], ['u']⟩ = .ok ⟨['o'], .owner⟩ ∧
      ((boundStore ['p']).reconcile (configuredSources paddedIdentities)).sources = ∅ :=
  ⟨rfl, rfl⟩

end NeonDoll.Interaction
