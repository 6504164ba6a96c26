import NeonDoll.Lib.Transition
import NeonDoll.Relay.Udp

/-!
# The Relay control server as an interleaved machine

Every Core connection, every Body connection and the liveness loop is a goroutine.  A step of
the machine is one critical section of one goroutine, so that two handlers interleave exactly
where the source releases a lock.  Data that only one goroutine touches (`core.routes`) is
read and written together with the neighbouring critical section.

Random identifiers come from one counter: the generators are assumed not to repeat.
-/

namespace NeonDoll.Relay

open Lib

/-- Identity of a Body connection (the pointer in the source). -/
abbrev BodyID := Nat

def protocolVersion : Nat := 1

def maxRouteID : RouteID := 2 ^ 63 - 1

def defaultBodyMaxQueueDepth : Nat := 256

structure Frame where
  version : Nat
  routeID : RouteID
  payload : Payload
  deriving DecidableEq

/-- A message read from a registered Core. -/
inductive CoreMessage where
  /-- Binary message; `none` when it does not decode. -/
  | binary (frame : Option Frame)
  | routeOpen (routeID : RouteID) (token : Token)
  | routeClose (routeID : RouteID)
  /-- Text that does not decode, or another control message. -/
  | ignored
  deriving DecidableEq

structure BodyAttach where
  version : Nat
  routeID : RouteID
  credential : Token
  deriving DecidableEq

inductive ErrorCode where
  | rateLimited
  | authFailed
  | routeLimit
  | notFound
  | internalError
  deriving DecidableEq

inductive Reply where
  | registered
  | relayError (code : ErrorCode) (message : String) (routeID : RouteID)
  | routeOpened (routeID : RouteID) (endpoint : UDPEndpoint) (credentials : Option Token)
  | routeClosed (routeID : RouteID)
  | bodyAttached (routeID : RouteID)
  deriving DecidableEq

/-- Program counter of the goroutine of a Core connection: the next critical section. -/
inductive CorePc where
  | addConn
  | setSink
  /-- Blocked in `ReadMessage`. -/
  | idle
  | keepalive (message : CoreMessage)
  -- binary frame
  | lookupBody (routeID : RouteID) (payload : Payload)
  | enqueue (routeID : RouteID) (payload : Payload) (target : BodyID)
  | sendTo (routeID : RouteID) (payload : Payload)
  -- RouteOpen
  | openBind (routeID : RouteID) (token : Token)
  | openAllocate (routeID : RouteID) (token : Token) (endpoint : UDPEndpoint)
  | openCompare (routeID : RouteID) (token : Token) (endpoint : UDPEndpoint)
  | openOwned (routeID : RouteID) (endpoint : UDPEndpoint)
  | openLocked (routeID : RouteID) (endpoint : UDPEndpoint)
  | endpointOwned (routeID : RouteID) (endpoint : UDPEndpoint)
  | endpointLocked (routeID : RouteID) (endpoint : UDPEndpoint)
  | openReply (routeID : RouteID) (endpoint : UDPEndpoint)
  /-- `UDP().Close` after a failed `RouteOpen`; `thenClose` when `CloseRoute` follows. -/
  | rollbackEndpoint (routeID : RouteID) (endpoint : UDPEndpoint) (reply : Reply)
      (thenClose : Bool)
  | rollbackRoute (routeID : RouteID) (reply : Reply)
  -- RouteClose
  | closeEndpoint (routeID : RouteID)
  | closeRoute (routeID : RouteID)
  | closeDetach (routeID : RouteID) (removed : Bool)
  -- deferred cleanup after the connection is lost
  | downConns
  | downSink (routes : List RouteID)
  | downRemove (routes : List RouteID)
  | downEndpoint (removed routes : List RouteID)
  | downDetach (removed : List RouteID) (routeID : RouteID) (routes : List RouteID)
  deriving DecidableEq

/-- `routes` is `core.routes`, a map that only ever stores `true`. -/
structure CoreConn where
  routes : GoMap RouteID Unit
  pc : CorePc

/-- Program counter of the goroutine of a Body connection. -/
inductive BodyPc where
  | checkRoute
  | checkCredential
  | insert
  | reply
  /-- Blocked in `ReadMessage`. -/
  | reading
  | frameOwner (payload : Payload)
  | frameConn (regID : RegistrationID) (payload : Payload)
  | frameWrite (regID : RegistrationID) (payload : Payload)
  | cleanup
  | close
  | exited
  deriving DecidableEq

structure BodyConn where
  routeID : RouteID
  /-- The credential presented in the attach message. -/
  credential : Token
  inbox : List Payload
  /-- The context is cancelled and the connection closed. -/
  closed : Bool
  pc : BodyPc
  /-- `drainInbox` runs; it may hold one payload it has taken. -/
  draining : Bool
  inHand : Option Payload

structure Config where
  maxRegistrations : Nat
  maxRoutes : Nat
  registrationTimeout : Time
  routeTimeout : Time
  maxBodyQueueDepth : Nat
  /-- `VerifyRegistrationToken` against the configured credentials. -/
  verifyRegistrationToken : Token → Bool

def Config.bodyQueueDepth (cfg : Config) : Nat :=
  if cfg.maxBodyQueueDepth = 0 then defaultBodyMaxQueueDepth else cfg.maxBodyQueueDepth

structure State where
  clock : Time
  nextID : Nat
  registry : Registry
  udp : UDPListener
  conns : GoMap RegistrationID Unit
  body : GoMap RouteID BodyID
  cores : GoMap RegistrationID CoreConn
  bodies : GoMap BodyID BodyConn
  /-- Expired routes whose endpoints the current sweep has still to close. -/
  sweeping : List RouteID

def State.init (cfg : Config) : State where
  clock := 0
  nextID := 1
  registry := Registry.new cfg.maxRegistrations cfg.maxRoutes
  udp := UDPListener.new
  conns := ∅
  body := ∅
  cores := ∅
  bodies := ∅
  sweeping := []

/-- Which handler closes an endpoint or detaches a Body, with what it knows about its own
removal from the registry. -/
inductive Cause where
  | routeClose
  | routeClosed (removed : Bool)
  | disconnect (removed : List RouteID)
  | rollback (endpoint : UDPEndpoint)
  deriving DecidableEq

inductive Event where
  /-- An error to a connection that did not register or attach. -/
  | refused (code : ErrorCode) (message : String)
  | reply (core : RegistrationID) (reply : Reply)
  | enqueued (core : RegistrationID) (routeID : RouteID) (target : BodyID)
  | sentTo (core : RegistrationID) (routeID : RouteID)
  | endpointClosed (core : RegistrationID) (routeID : RouteID) (cause : Cause)
  | detached (core : RegistrationID) (routeID : RouteID) (target : BodyID) (cause : Cause)
  | bodyReply (source : BodyID) (reply : Reply)
  /-- A payload of the inbox is written to the Body. -/
  | delivered (routeID : RouteID) (target : BodyID)
  /-- A frame of the Body is written to the Core. -/
  | forwarded (routeID : RouteID) (source : BodyID) (core : RegistrationID)
  deriving DecidableEq

inductive Action where
  | tick
  | connect (token : Token) (idGenerated : Bool)
  | receive (core : RegistrationID) (message : CoreMessage)
  | disconnect (core : RegistrationID)
  /-- The next critical section of a Core goroutine; `socket` and `rand` are what the
  operating system answers if the section asks for a port or for random bytes. -/
  | core (core : RegistrationID) (socket : Option UDPEndpoint) (rand : Bool)
  | sweep
  | sweepClose
  | datagram (routeID : RouteID) (source : SourceEndpoint)
  | attach (message : BodyAttach)
  | bodyReceive (source : BodyID) (frame : Option Frame)
  | bodyDisconnect (source : BodyID)
  | body (source : BodyID)
  | drainTake (source : BodyID)
  | drainWrite (source : BodyID)
  | drainStop (source : BodyID)
  deriving DecidableEq

/-! ## Helpers of the handlers -/

namespace State

/-- The goroutine of a Core moves on with the given connection record. -/
def setCore (s : State) (c : RegistrationID) (core : CoreConn) : State :=
  { s with cores := s.cores.insert c core }

def setBody (s : State) (b : BodyID) (conn : BodyConn) : State :=
  { s with bodies := s.bodies.insert b conn }

/-- `cancel` and `conn.Close` of a Body connection. -/
def cancelBody (s : State) (b : BodyID) : State :=
  { s with bodies := GoMap.modify s.bodies b fun conn => { conn with closed := true } }

/-- `detachBody`: the attachment that was removed, if there was one. -/
def detachBody (s : State) (routeID : RouteID) : State × Option BodyID :=
  match s.body.lookup routeID with
  | none => (s, none)
  | some b => (cancelBody { s with body := s.body.erase routeID } b, some b)

/-- The registry after an operation whose error the caller ignores. -/
def withRegistry (s : State) (result : Except RegistryError Registry) : State :=
  match result with
  | .ok registry => { s with registry := registry }
  | .error _ => s

end State

def detachEvents (c : RegistrationID) (routeID : RouteID) (cause : Cause) :
    Option BodyID → List Event
  | none => []
  | some b => [.detached c routeID b cause]

/-- `ValidateControl` for the two route commands. -/
def validateRouteOpen (routeID : RouteID) (token : Token) : Option String :=
  if routeID = 0 then some "relay: RouteOpen.route_id is required"
  else if token = 0 then some "relay: RouteOpen.credentials.token is required"
  else none

def validateRouteClose (routeID : RouteID) : Option String :=
  if routeID = 0 then some "relay: RouteClose.route_id is required" else none

/-- What the read loop does with a message before it touches shared state: the next critical
section, and the reply when the message is refused. -/
def CoreConn.dispatch (core : CoreConn) : CoreMessage → CorePc × Option Reply
  | .binary none => (.idle, none)
  | .binary (some frame) =>
    if frame.routeID ∈ core.routes then (.lookupBody frame.routeID frame.payload, none)
    else (.idle, none)
  | .routeOpen routeID token =>
    match validateRouteOpen routeID token with
    | some message => (.idle, some (.relayError .authFailed message routeID))
    | none => (.openBind routeID token, none)
  | .routeClose routeID =>
    match validateRouteClose routeID with
    | some message => (.idle, some (.relayError .authFailed message routeID))
    | none =>
      if routeID ∈ core.routes then (.closeEndpoint routeID, none)
      else
        (.idle,
          some (.relayError .notFound "route not owned by this registration" routeID))
  | .ignored => (.idle, none)

def replyEvents (c : RegistrationID) : Option Reply → List Event
  | none => []
  | some reply => [.reply c reply]

/-! ## The goroutine of a Core connection -/

/-- Sections of the binary frame path. -/
def forwardStep (cfg : Config) (s : State) (c : RegistrationID) (core : CoreConn) :
    CorePc → Option (State × List Event)
  | .lookupBody routeID payload =>
    match s.body.lookup routeID with
    | some b => some (s.setCore c { core with pc := .enqueue routeID payload b }, [])
    | none => some (s.setCore c { core with pc := .sendTo routeID payload }, [])
  | .enqueue routeID payload b =>
    match s.bodies.lookup b with
    | none => some (s.setCore c { core with pc := .idle }, [])
    | some conn =>
      if conn.inbox.length < cfg.bodyQueueDepth then
        some ((s.setBody b { conn with inbox := conn.inbox ++ [payload] }).setCore c
          { core with pc := .idle }, [.enqueued c routeID b])
      else some (s.setCore c { core with pc := .idle }, [])
  | .sendTo routeID _ =>
    -- the result of `SendTo` is only logged
    some (s.setCore c { core with pc := .idle }, [.sentTo c routeID])
  | _ => none

def CoreConn.rollback (core : CoreConn) (routeID : RouteID) (port : UDPEndpoint) (reply : Reply)
    (thenClose : Bool) : CoreConn :=
  { core with pc := .rollbackEndpoint routeID port reply thenClose }

/-- Sections of `RouteOpen`. -/
def openStep (s : State) (c : RegistrationID) (core : CoreConn) (socket : Option UDPEndpoint)
    (rand : Bool) : CorePc → Option (State × List Event)
  | .openBind routeID token =>
    match s.udp.bind routeID socket with
    | .error err =>
      some (s.setCore c { core with pc := .idle },
        [.reply c (.relayError .routeLimit err.message routeID)])
    | .ok (udp, port) =>
      some (({ s with udp := udp }).setCore c
        { core with pc := .openAllocate routeID token port }, [])
  | .openAllocate routeID token port =>
    match s.registry.allocateRoute s.clock c routeID (if rand then some s.nextID else none) with
    | .ok registry =>
      some (({ s with registry := registry, nextID := s.nextID + 1 }).setCore c
        { core with pc := .openOwned routeID port }, [])
    | .error .routeAlreadyExists =>
      some (s.setCore c { core with pc := .openCompare routeID token port }, [])
    | .error err =>
      some (s.setCore c (core.rollback routeID port
        (.relayError .internalError err.message routeID) false), [])
  | .openCompare routeID token port =>
    if s.registry.routeCredentialsFromEntry routeID = some token then
      some (s.setCore c { core with pc := .openOwned routeID port }, [])
    else
      some (s.setCore c (core.rollback routeID port
        (.relayError .authFailed "route credentials mismatch" routeID) false), [])
  | .openOwned routeID port =>
    match s.registry.getOwnedRoute c routeID with
    | .ok _ => some (s.setCore c { core with pc := .openLocked routeID port }, [])
    | .error err =>
      some (s.setCore c (core.rollback routeID port
        (.relayError .internalError err.message routeID) true), [])
  | .openLocked routeID port =>
    match s.registry.openRouteLocked s.clock c routeID with
    | .ok registry =>
      some (({ s with registry := registry }).setCore c
        { core with pc := .endpointOwned routeID port }, [])
    | .error err =>
      some (s.setCore c (core.rollback routeID port
        (.relayError .internalError err.message routeID) true), [])
  | .endpointOwned routeID port =>
    match s.registry.getOwnedRoute c routeID with
    | .ok _ => some (s.setCore c { core with pc := .endpointLocked routeID port }, [])
    | .error _ =>
      some (s.setCore c
        { core with routes := core.routes.insert routeID (), pc := .openReply routeID port }, [])
  | .endpointLocked routeID port =>
    some ((s.withRegistry (s.registry.setRouteEndpointLocked s.clock c routeID port)).setCore c
      { core with routes := core.routes.insert routeID (), pc := .openReply routeID port }, [])
  | .openReply routeID port =>
    some (s.setCore c { core with pc := .idle },
      [.reply c (.routeOpened routeID port (s.registry.routeCredentialsFromEntry routeID))])
  | .rollbackEndpoint routeID port reply thenClose =>
    let next := if thenClose then CorePc.rollbackRoute routeID reply else .idle
    let replies := if thenClose then [] else [Event.reply c reply]
    match s.udp.close routeID with
    | .ok udp =>
      some (({ s with udp := udp }).setCore c { core with pc := next },
        .endpointClosed c routeID (.rollback port) :: replies)
    | .error _ => some (s.setCore c { core with pc := next }, replies)
  | .rollbackRoute routeID reply =>
    some ((s.withRegistry (s.registry.closeRoute c routeID)).setCore c
      { core with pc := .idle }, [.reply c reply])
  | _ => none

/-- Sections of `RouteClose`. -/
def closeStep (s : State) (c : RegistrationID) (core : CoreConn) :
    CorePc → Option (State × List Event)
  | .closeEndpoint routeID =>
    match s.udp.close routeID with
    | .ok udp =>
      some (({ s with udp := udp }).setCore c { core with pc := .closeRoute routeID },
        [.endpointClosed c routeID .routeClose])
    | .error _ => some (s.setCore c { core with pc := .closeRoute routeID }, [])
  | .closeRoute routeID =>
    let routes := core.routes.erase routeID
    match s.registry.closeRoute c routeID with
    | .ok registry =>
      some (({ s with registry := registry }).setCore c
        { routes := routes, pc := .closeDetach routeID true }, [])
    | .error _ => some (s.setCore c { routes := routes, pc := .closeDetach routeID false }, [])
  | .closeDetach routeID removed =>
    let (detached, target) := s.detachBody routeID
    some (detached.setCore c { core with pc := .idle },
      detachEvents c routeID (.routeClosed removed) target ++ [.reply c (.routeClosed routeID)])
  | _ => none

/-- Sections of the deferred cleanup.  The goroutine ends with the last route. -/
def downStep (s : State) (c : RegistrationID) (core : CoreConn) :
    CorePc → Option (State × List Event)
  | .downConns =>
    some (({ s with conns := s.conns.erase c }).setCore c
      { core with pc := .downSink core.routes.keys }, [])
  | .downSink routes =>
    some (({ s with udp := s.udp.setSink c false }).setCore c
      { core with pc := .downRemove routes }, [])
  | .downRemove routes =>
    let (registry, removed) := s.registry.removeRegistration c
    some (({ s with registry := registry }).setCore c
      { core with pc := .downEndpoint removed routes }, [])
  | .downEndpoint _ [] => some ({ s with cores := s.cores.erase c }, [])
  | .downEndpoint removed (routeID :: rest) =>
    match s.udp.close routeID with
    | .ok udp =>
      some (({ s with udp := udp }).setCore c
        { core with pc := .downDetach removed routeID rest },
        [.endpointClosed c routeID (.disconnect removed)])
    | .error _ => some (s.setCore c { core with pc := .downDetach removed routeID rest }, [])
  | .downDetach removed routeID rest =>
    let (detached, target) := s.detachBody routeID
    some (detached.setCore c { core with pc := .downEndpoint removed rest },
      detachEvents c routeID (.disconnect removed) target)
  | _ => none

/-- The next critical section of a Core goroutine. -/
def coreStep (cfg : Config) (s : State) (c : RegistrationID) (core : CoreConn)
    (socket : Option UDPEndpoint) (rand : Bool) : Option (State × List Event) :=
  match core.pc with
  | .addConn =>
    some (({ s with conns := s.conns.insert c () }).setCore c { core with pc := .setSink }, [])
  | .setSink =>
    some (({ s with udp := s.udp.setSink c true }).setCore c { core with pc := .idle },
      [.reply c .registered])
  | .idle => none
  | .keepalive message =>
    let (next, reply) := core.dispatch message
    some ((s.withRegistry (s.registry.keepalive s.clock c)).setCore c { core with pc := next },
      replyEvents c reply)
  | .lookupBody .. | .enqueue .. | .sendTo .. => forwardStep cfg s c core core.pc
  | .openBind .. | .openAllocate .. | .openCompare .. | .openOwned .. | .openLocked ..
  | .endpointOwned .. | .endpointLocked .. | .openReply .. | .rollbackEndpoint ..
  | .rollbackRoute .. => openStep s c core socket rand core.pc
  | .closeEndpoint .. | .closeRoute .. | .closeDetach .. => closeStep s c core core.pc
  | .downConns | .downSink .. | .downRemove .. | .downEndpoint .. | .downDetach .. =>
    downStep s c core core.pc

/-! ## The goroutines of a Body connection -/

/-- The checks of `handleBodyFrame` that need no shared state: the payload to forward. -/
def BodyConn.acceptFrame (conn : BodyConn) : Option Frame → Option Payload
  | none => none
  | some frame =>
    if frame.version ≠ protocolVersion then none
    else if frame.routeID = 0 ∨ maxRouteID < frame.routeID then none
    else if frame.routeID ≠ conn.routeID then none
    else if frame.payload = [] then none
    else some frame.payload

/-- Every failed check of an attach message gives the same answer. -/
def attachRefused : List Event := [.refused .authFailed "route authentication failed"]

/-- The next critical section of `handleBodyWS` or of its read loop. -/
def bodyStep (s : State) (b : BodyID) (conn : BodyConn) : Option (State × List Event) :=
  let refuse := some (s.setBody b { conn with closed := true, pc := .exited }, attachRefused)
  match conn.pc with
  | .checkRoute =>
    match s.registry.route conn.routeID with
    | none => refuse
    | some entry =>
      if entry.state = .open then some (s.setBody b { conn with pc := .checkCredential }, [])
      else refuse
  | .checkCredential =>
    if s.registry.routeCredentialsFromEntry conn.routeID = some conn.credential then
      some (s.setBody b { conn with pc := .insert }, [])
    else refuse
  | .insert =>
    let replaced := match s.body.lookup conn.routeID with
      | none => s
      | some existing => s.cancelBody existing
    some (({ replaced with body := s.body.insert conn.routeID b }).setBody b
      { conn with pc := .reply }, [])
  | .reply =>
    some (s.setBody b { conn with pc := .reading, draining := true },
      [.bodyReply b (.bodyAttached conn.routeID)])
  | .reading => none
  | .frameOwner payload =>
    match s.registry.routeRegistration conn.routeID with
    | none => some (s.setBody b { conn with pc := .reading }, [])
    | some regID => some (s.setBody b { conn with pc := .frameConn regID payload }, [])
  | .frameConn regID payload =>
    match s.conns.lookup regID with
    | none => some (s.setBody b { conn with pc := .reading }, [])
    | some _ => some (s.setBody b { conn with pc := .frameWrite regID payload }, [])
  | .frameWrite regID _ =>
    some (s.setBody b { conn with pc := .reading }, [.forwarded conn.routeID b regID])
  | .cleanup =>
    let body := if s.body.lookup conn.routeID = some b then s.body.erase conn.routeID else s.body
    some (({ s with body := body }).setBody b { conn with pc := .close }, [])
  | .close => some (s.setBody b { conn with closed := true, pc := .exited }, [])
  | .exited => none

/-! ## The whole machine -/

/-- `handleWS` up to `AddRegistration`. -/
def connectStep (cfg : Config) (s : State) (token : Token) (idGenerated : Bool) :
    State × List Event :=
  if token = 0 then (s, [.refused .authFailed "register.token is required"])
  else if cfg.verifyRegistrationToken token = false then
    (s, [.refused .authFailed "register.token does not match any configured credential"])
  else if idGenerated = false then
    (s, [.refused .internalError "registration ID generation failed"])
  else
    match s.registry.addRegistration s.clock s.nextID with
    | .error err => ({ s with nextID := s.nextID + 1 }, [.refused .rateLimited err.message])
    | .ok registry =>
      (({ s with registry := registry, nextID := s.nextID + 1 }).setCore s.nextID
        { routes := ∅, pc := .addConn }, [])

/-- `handleBodyWS` up to the checks that read the registry. -/
def attachStep (s : State) (message : BodyAttach) : State × List Event :=
  if message.version ≠ protocolVersion ∨ message.routeID = 0 ∨ message.credential = 0 then
    (s, attachRefused)
  else
    (({ s with nextID := s.nextID + 1 }).setBody s.nextID
      { routeID := message.routeID, credential := message.credential, inbox := [],
        closed := false, pc := .checkRoute, draining := false, inHand := none }, [])

def step? (cfg : Config) (s : State) : Action → Option (State × List Event)
  | .tick => some ({ s with clock := s.clock + 1 }, [])
  | .connect token idGenerated => some (connectStep cfg s token idGenerated)
  | .receive c message =>
    match s.cores.lookup c with
    | some ⟨routes, .idle⟩ => some (s.setCore c ⟨routes, .keepalive message⟩, [])
    | _ => none
  | .disconnect c =>
    match s.cores.lookup c with
    | some ⟨routes, .idle⟩ => some (s.setCore c ⟨routes, .downConns⟩, [])
    | _ => none
  | .core c socket rand =>
    match s.cores.lookup c with
    | some core => coreStep cfg s c core socket rand
    | none => none
  | .sweep =>
    if s.sweeping = [] then
      let (registry, result) :=
        s.registry.expireStale s.clock cfg.registrationTimeout cfg.routeTimeout
      some ({ s with registry := registry, sweeping := result.allExpiredRoutes }, [])
    else none
  | .sweepClose =>
    match s.sweeping with
    | [] => none
    | routeID :: rest =>
      match s.udp.close routeID with
      | .ok udp => some ({ s with udp := udp, sweeping := rest }, [])
      | .error _ => some ({ s with sweeping := rest }, [])
  | .datagram routeID source =>
    match s.udp.routes.lookup routeID with
    | none => none
    | some _ =>
      match s.registry.touchRoute s.clock routeID with
      | .error _ => some (s, [])
      | .ok registry =>
        some ({ s with registry := registry, udp := s.udp.observe routeID source }, [])
  | .attach message => some (attachStep s message)
  | .bodyReceive b frame =>
    match s.bodies.lookup b with
    | none => none
    | some conn =>
      if conn.pc = .reading ∧ conn.closed = false then
        match conn.acceptFrame frame with
        | none => some (s, [])
        | some payload => some (s.setBody b { conn with pc := .frameOwner payload }, [])
      else none
  | .bodyDisconnect b =>
    match s.bodies.lookup b with
    | none => none
    | some conn =>
      if conn.pc = .reading then some (s.setBody b { conn with pc := .cleanup }, []) else none
  | .body b =>
    match s.bodies.lookup b with
    | none => none
    | some conn => bodyStep s b conn
  | .drainTake b =>
    match s.bodies.lookup b with
    | none => none
    | some conn =>
      match conn.inbox with
      | [] => none
      | payload :: rest =>
        if conn.draining = true ∧ conn.inHand = none then
          some (s.setBody b { conn with inbox := rest, inHand := some payload }, [])
        else none
  | .drainWrite b =>
    match s.bodies.lookup b with
    | none => none
    | some conn =>
      match conn.inHand with
      | none => none
      | some _ =>
        -- a write on a closed connection fails and its error is ignored
        some (s.setBody b { conn with inHand := none },
          if conn.closed then [] else [.delivered conn.routeID b])
  | .drainStop b =>
    match s.bodies.lookup b with
    | none => none
    | some conn =>
      if conn.closed = true ∧ conn.inHand = none then
        some (s.setBody b { conn with draining := false }, [])
      else none

/-- The control server with its service. -/
def system (cfg : Config) : Transition.System State Action Event where
  init := State.init cfg
  step? := step? cfg

end NeonDoll.Relay
