import NeonDoll.Relay.ControlServer

/-!
# The control client as an interleaved machine

`ControlClient` of the Core: `exchange` and `dispatch` (`control_exchange.go`), `connect` and
`readLoop` (`control_connection.go`), `reconnectLoop` and `restoreRoutes`
(`control_reconnect.go`), `OpenRoute` and `CloseRoute` (`control_routes.go`) and `Shutdown`
(`control_client.go`).  Every call, every `readLoop`, the reconnect loop and `Shutdown` are
goroutines; a step is one section under a lock, one atomic operation or one operation on a
channel.

A connection is named by the generation that `connect` has drawn for it.  Requests and replies
in flight carry the exchange that they belong to.  The client never reads this name.
-/

namespace NeonDoll.Relay.Client

open Lib

abbrev Generation := Nat

abbrev ExchangeID := Nat

/-- What an exchange is made for. -/
inductive Operation where
  | openRoute (token : Token)
  | closeRoute
  /-- One route of `restoreRoutes`. -/
  | restore (token : Token)
  deriving DecidableEq

def Operation.message (operation : Operation) (routeID : RouteID) : CoreMessage :=
  match operation with
  | .openRoute token => .routeOpen routeID token
  | .closeRoute => .routeClose routeID
  | .restore token => .routeOpen routeID token

inductive ExchangeError where
  | connectionLost
  | notConnected
  | clientClosed
  /-- The context of the caller is done. -/
  | context
  | write
  deriving DecidableEq

/-- `errorOrMsg`. -/
inductive Answer where
  | reply (request : ExchangeID) (reply : Reply)
  | error (error : ExchangeError)
  deriving DecidableEq

structure PendingOp where
  exchange : ExchangeID
  connGen : Generation
  deriving DecidableEq

/-- The next section of an exchange. -/
inductive ExchangePc where
  | loadGen
  | insert
  | write
  /-- Blocked in the select. -/
  | wait
  /-- The deferred deletion of the pending entry. -/
  | remove (result : Answer)
  /-- What the caller does with the result. -/
  | finish (result : Answer)
  | returned
  deriving DecidableEq

structure Exchange where
  operation : Operation
  routeID : RouteID
  connGen : Generation
  pc : ExchangePc
  /-- A channel with room for one answer. -/
  channel : Option Answer
  deriving DecidableEq

def Exchange.offer (answer : Answer) (e : Exchange) : Exchange :=
  { e with channel := e.channel.or (some answer) }

inductive Reader where
  | off
  | reading
  /-- `dispatch` has looked up the operation and is about to send. -/
  | sending (request : ExchangeID) (reply : Reply) (op : PendingOp)
  deriving DecidableEq

/-- A connection with what is in flight on it. -/
structure Link where
  requests : List (ExchangeID × CoreMessage)
  replies : List (ExchangeID × Reply)
  reader : Reader
  deriving DecidableEq

structure ManagedRoute where
  credentials : Token
  allocatedEndpoint : UDPEndpoint
  deriving DecidableEq

/-- The next section of `connect`, and of `restoreRoutes` after a reconnect. -/
inductive ConnectPc where
  | idle
  | disconnect (hadConn : Bool)
  | failPending
  | bump
  | dial (gen : Generation)
  | register (gen : Generation)
  | snapshot
  | restoring (rest : List (RouteID × Token)) (current : Option ExchangeID)
  deriving DecidableEq

inductive ShutdownPc where
  | running
  | cancelled
  | disconnected
  | ended
  deriving DecidableEq

structure State where
  connGen : Generation
  conn : Option Generation
  connected : Bool
  /-- The connection is made by the reconnect loop and not by `Start`. -/
  reconnecting : Bool
  connecting : ConnectPc
  shutdown : ShutdownPc
  links : GoMap Generation Link
  pending : GoMap RouteID PendingOp
  exchanges : GoMap ExchangeID Exchange
  nextExchange : ExchangeID
  routes : GoMap RouteID ManagedRoute

/-- `NewControlClient`. -/
def State.init : State where
  connGen := 0
  conn := none
  connected := false
  reconnecting := false
  connecting := .idle
  shutdown := .running
  links := ∅
  pending := ∅
  exchanges := ∅
  nextExchange := 0
  routes := ∅

inductive Event where
  /-- The reply to a request is put into the channel of an exchange. -/
  | delivered (request : ExchangeID) (target : ExchangeID)
  | dropped (request : ExchangeID)
  deriving DecidableEq

inductive Action where
  /-- `OpenRoute` or `CloseRoute`. -/
  | call (operation : Operation) (routeID : RouteID)
  | exchange (x : ExchangeID)
  /-- `writeMsg`; `ok` says that the message went out. -/
  | write (x : ExchangeID) (ok : Bool)
  | take (x : ExchangeID)
  | giveUp (x : ExchangeID)
  | connect (reconnect : Bool)
  /-- The next section of `connect`; `ok` answers the dial and the registration. -/
  | connectNext (ok : Bool)
  | restoreNext (routeID : RouteID) (token : Token)
  | restoreDone
  | read (gen : Generation)
  | send (gen : Generation)
  | readerExit (gen : Generation)
  /-- The Relay answers the first request of a connection. -/
  | answer (gen : Generation) (reply : Reply)
  | shutdown
  deriving DecidableEq

/-! ## Exchanges -/

namespace State

def setExchange (s : State) (x : ExchangeID) (e : Exchange) : State :=
  { s with exchanges := s.exchanges.insert x e }

def setLink (s : State) (gen : Generation) (link : Link) : State :=
  { s with links := s.links.insert gen link }

def offer (s : State) (x : ExchangeID) (answer : Answer) : State :=
  { s with exchanges := GoMap.modify s.exchanges x (Exchange.offer answer) }

def offerAll (s : State) (ids : List ExchangeID) (answer : Answer) : State :=
  { s with
    exchanges := ids.foldl (fun m x => GoMap.modify m x (Exchange.offer answer)) s.exchanges }

/-- `failPending`, and the loop of `Shutdown`. -/
def failPending (s : State) (error : ExchangeError) : State :=
  { s.offerAll (s.pending.entries.map fun entry => entry.2.exchange) (.error error) with
    pending := ∅ }

def begin (s : State) (operation : Operation) (routeID : RouteID) : State :=
  { s with
    exchanges := s.exchanges.insert s.nextExchange ⟨operation, routeID, 0, .loadGen, none⟩
    nextExchange := s.nextExchange + 1 }

end State

/-- The checks of `OpenRoute` and `CloseRoute`. -/
def callable (s : State) (operation : Operation) (routeID : RouteID) : Bool :=
  routeID ≠ 0 && s.connected &&
    match operation with
    | .openRoute token => token ≠ 0
    | .closeRoute => true
    | .restore _ => false

/-- The section of `exchange` that enters the pending operation; one that is there already is
failed. -/
def insertPending (s : State) (x : ExchangeID) (e : Exchange) : State :=
  let failed :=
    match s.pending.lookup e.routeID with
    | none => s
    | some existing => s.offer existing.exchange (.error .connectionLost)
  { failed with
    pending := s.pending.insert e.routeID ⟨x, e.connGen⟩
    exchanges := GoMap.modify failed.exchanges x fun e => { e with pc := .write } }

/-- `ValidateControl` of an answer, as far as a route command goes. -/
def validReply : Reply → Bool
  | .routeOpened routeID _ _ => routeID ≠ 0
  | .routeClosed routeID => routeID ≠ 0
  | _ => true

/-- What `OpenRoute`, `CloseRoute` and `restoreRoutes` do with the result. -/
def recordResult (routes : GoMap RouteID ManagedRoute) (e : Exchange) (result : Answer) :
    GoMap RouteID ManagedRoute :=
  match result with
  | .error _ => routes
  | .reply _ reply =>
    if validReply reply then
      match e.operation, reply with
      | .openRoute _, .routeOpened _ endpoint credentials =>
        routes.insert e.routeID ⟨credentials.getD 0, endpoint⟩
      | .closeRoute, .routeClosed _ => routes.erase e.routeID
      | .restore _, .routeOpened _ endpoint _ =>
        GoMap.modify routes e.routeID fun route => { route with allocatedEndpoint := endpoint }
      | .restore _, .relayError _ _ _ => routes.erase e.routeID
      | _, _ => routes
    else routes

def exchangeStep (s : State) (x : ExchangeID) (e : Exchange) : Option State :=
  match e.pc with
  | .loadGen => some (s.setExchange x { e with connGen := s.connGen, pc := .insert })
  | .insert => some (insertPending s x e)
  | .remove result =>
    some ({ s with pending := s.pending.erase e.routeID }.setExchange x
      { e with pc := .finish result })
  | .finish result =>
    some ({ s with routes := recordResult s.routes e result }.setExchange x
      { e with pc := .returned })
  | .write | .wait | .returned => none

def writeStep (s : State) (x : ExchangeID) (e : Exchange) (ok : Bool) : State :=
  match s.conn with
  | none => s.setExchange x { e with pc := .remove (.error .notConnected) }
  | some gen =>
    match s.links.lookup gen, ok with
    | some link, true =>
      (s.setLink gen
        { link with
          requests := link.requests ++ [(x, e.operation.message e.routeID)] }).setExchange x
        { e with pc := .wait }
    | _, _ => s.setExchange x { e with pc := .remove (.error .write) }

/-- The context of `restoreRoutes` is never done. -/
def giveUpStep (s : State) (x : ExchangeID) (e : Exchange) : Option State :=
  if s.shutdown ≠ .running then
    some (s.setExchange x { e with pc := .remove (.error .clientClosed) })
  else
    match e.operation with
    | .restore _ => none
    | _ => some (s.setExchange x { e with pc := .remove (.error .context) })

/-! ## Connections -/

def connectStep (s : State) (ok : Bool) : Option State :=
  match s.connecting with
  | .idle => none
  | .disconnect hadConn =>
    some { s with connected := s.connected && !hadConn, connecting := .failPending }
  | .failPending => some { s.failPending .connectionLost with connecting := .bump }
  | .bump => some { s with connGen := s.connGen + 1, connecting := .dial (s.connGen + 1) }
  | .dial gen =>
    if ok then
      some { s with
        conn := some gen, links := s.links.insert gen ⟨[], [], .off⟩
        connecting := .register gen }
    else some { s with connecting := .idle }
  | .register gen =>
    if ok then
      some { s with
        connected := true
        links := GoMap.modify s.links gen fun link => { link with reader := .reading }
        connecting := if s.reconnecting then .snapshot else .idle }
    else
      some { s with
        conn := if s.conn = some gen then none else s.conn, connecting := .idle }
  | .snapshot =>
    some { s with
      connecting := .restoring
        (s.routes.entries.map fun entry => (entry.1, entry.2.credentials)) none }
  | .restoring [] none => some { s with connecting := .idle }
  | .restoring _ _ => none

def restoreNextStep (s : State) (routeID : RouteID) (token : Token) : Option State :=
  match s.connecting with
  | .restoring rest none =>
    if (routeID, token) ∈ rest then
      some { s.begin (.restore token) routeID with
        connecting := .restoring (rest.erase (routeID, token)) (some s.nextExchange) }
    else none
  | _ => none

def restoreDoneStep (s : State) : Option State :=
  match s.connecting with
  | .restoring rest (some x) =>
    if (s.exchanges.lookup x).any fun e => e.pc = .returned then
      some { s with connecting := .restoring rest none }
    else none
  | _ => none

/-! ## Replies -/

/-- The route under which `dispatch` looks for the pending operation.  No operation is ever
entered under the key of the registration. -/
def Reply.route : Reply → Option RouteID
  | .registered => none
  | .relayError _ _ routeID => if routeID = 0 then none else some routeID
  | .routeOpened routeID _ _ => some routeID
  | .routeClosed routeID => some routeID
  | .bodyAttached _ => none

/-- The pending operation of the generation that a reply is for. -/
def State.target (s : State) (gen : Generation) (reply : Reply) : Option PendingOp :=
  match Reply.route reply with
  | none => none
  | some routeID =>
    match s.pending.lookup routeID with
    | none => none
    | some op => if op.connGen = gen then some op else none

/-- `readLoop` reads a reply and `dispatch` looks up its operation. -/
def readStep (s : State) (gen : Generation) (link : Link) : Option (State × List Event) :=
  match link.reader, link.replies with
  | .reading, (request, reply) :: rest =>
    match s.target gen reply with
    | some op =>
      some (s.setLink gen
        { link with replies := rest, reader := .sending request reply op }, [])
    | none => some (s.setLink gen { link with replies := rest }, [.dropped request])
  | _, _ => none

def sendStep (s : State) (gen : Generation) (link : Link) : Option (State × List Event) :=
  match link.reader with
  | .sending request reply op =>
    let read := s.setLink gen { link with reader := .reading }
    if (s.exchanges.lookup op.exchange).any fun e => e.channel.isNone then
      some (read.offer op.exchange (.reply request reply), [.delivered request op.exchange])
    else some (read, [.dropped request])
  | _ => none

def CoreMessage.route : CoreMessage → Option RouteID
  | .routeOpen routeID _ => some routeID
  | .routeClose routeID => some routeID
  | _ => none

/-- The Relay handles the requests of a connection in order and answers a command with a reply
for its route. -/
def answerStep (s : State) (gen : Generation) (link : Link) (reply : Reply) : Option State :=
  match link.requests with
  | [] => none
  | (request, message) :: rest =>
    if Reply.route reply = CoreMessage.route message then
      some (s.setLink gen
        { link with requests := rest, replies := link.replies ++ [(request, reply)] })
    else none

def shutdownStep (s : State) : Option State :=
  match s.shutdown with
  | .running => some { s with shutdown := .cancelled }
  | .cancelled => some { s with conn := none, shutdown := .disconnected }
  | .disconnected => some { s.failPending .clientClosed with shutdown := .ended }
  | .ended => none

/-! ## The machine -/

def quiet (next : Option State) : Option (State × List Event) := next.map fun s => (s, [])

def step? (s : State) : Action → Option (State × List Event)
  | .call operation routeID =>
    quiet (some (if callable s operation routeID then s.begin operation routeID else s))
  | .exchange x =>
    match s.exchanges.lookup x with
    | none => none
    | some e => quiet (exchangeStep s x e)
  | .write x ok =>
    match s.exchanges.lookup x with
    | none => none
    | some e => if e.pc = .write then quiet (some (writeStep s x e ok)) else none
  | .take x =>
    match s.exchanges.lookup x with
    | none => none
    | some e =>
      match e.pc, e.channel with
      | .wait, some result =>
        quiet (some (s.setExchange x { e with pc := .remove result, channel := none }))
      | _, _ => none
  | .giveUp x =>
    match s.exchanges.lookup x with
    | none => none
    | some e => if e.pc = .wait then quiet (giveUpStep s x e) else none
  | .connect reconnect =>
    if s.connecting = .idle then
      quiet (some { s with
        conn := none, connecting := .disconnect s.conn.isSome, reconnecting := reconnect })
    else none
  | .connectNext ok => quiet (connectStep s ok)
  | .restoreNext routeID token => quiet (restoreNextStep s routeID token)
  | .restoreDone => quiet (restoreDoneStep s)
  | .read gen =>
    match s.links.lookup gen with
    | none => none
    | some link => readStep s gen link
  | .send gen =>
    match s.links.lookup gen with
    | none => none
    | some link => sendStep s gen link
  | .readerExit gen =>
    match s.links.lookup gen with
    | none => none
    | some link =>
      if link.reader = .reading then
        quiet (some { s.setLink gen { link with reader := .off } with
          connected := s.connected && s.conn ≠ some gen })
      else none
  | .answer gen reply =>
    match s.links.lookup gen with
    | none => none
    | some link => quiet (answerStep s gen link reply)
  | .shutdown => quiet (shutdownStep s)

/-- A client against a Relay that may give any answer to a command. -/
def system : Transition.System State Action Event where
  init := State.init
  step? := step?

end NeonDoll.Relay.Client
