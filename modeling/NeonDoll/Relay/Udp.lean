import NeonDoll.Relay.Registry

/-!
# Public UDP endpoints of the Relay

The endpoint table of `udp.go` as far as the control server uses it: binding and closing a
route's endpoint, the packet sinks and the last seen source.
-/

namespace NeonDoll.Relay

open Lib

abbrev Payload := List UInt8

/-- Observed source of a datagram; the zero value means that none was seen yet. -/
structure SourceEndpoint where
  ip : String := ""
  port : Nat := 0
  deriving DecidableEq

structure RouteHandle where
  endpoint : UDPEndpoint
  lastSeen : SourceEndpoint
  deriving DecidableEq

inductive UDPError where
  | routeNotFound
  | closed
  | alreadyBound (routeID : RouteID)
  | bindFailed (routeID : RouteID)
  deriving DecidableEq

def UDPError.message : UDPError → String
  | .routeNotFound => "relay: udp route not found"
  | .closed => "relay: udp listener is shut down"
  | .alreadyBound routeID => s!"relay: route {routeID} already has a udp endpoint"
  | .bindFailed routeID => s!"relay: bind udp endpoint for route {routeID}"

/-- The sink of a registration is the connection of that registration, so only its presence
is recorded. -/
structure UDPListener where
  routes : GoMap RouteID RouteHandle
  sinks : GoMap RegistrationID Unit
  closed : Bool

namespace UDPListener

def new : UDPListener := ⟨∅, ∅, false⟩

def setSink (u : UDPListener) (regID : RegistrationID) (present : Bool) : UDPListener :=
  { u with sinks := if present then u.sinks.insert regID () else u.sinks.erase regID }

/-- No live endpoint uses the port. -/
def portFree (u : UDPListener) (port : UDPEndpoint) : Bool :=
  u.routes.entries.all fun entry => entry.2.endpoint ≠ port

/-- `socket` is the port the operating system offers, `none` when it has none to give; a port
in use is refused. -/
def bind (u : UDPListener) (routeID : RouteID) (socket : Option UDPEndpoint) :
    Except UDPError (UDPListener × UDPEndpoint) :=
  if u.closed then .error .closed
  else
    match u.routes.lookup routeID with
    | some _ => .error (.alreadyBound routeID)
    | none =>
      match socket with
      | none => .error (.bindFailed routeID)
      | some port =>
        if u.portFree port then
          .ok ({ u with routes := u.routes.insert routeID ⟨port, {}⟩ }, port)
        else .error (.bindFailed routeID)

def close (u : UDPListener) (routeID : RouteID) : Except UDPError UDPListener :=
  match u.routes.lookup routeID with
  | none => .error .routeNotFound
  | some _ => .ok { u with routes := u.routes.erase routeID }

/-- A datagram arrives on the route's endpoint: its source becomes the return address. -/
def observe (u : UDPListener) (routeID : RouteID) (source : SourceEndpoint) : UDPListener :=
  { u with routes := GoMap.modify u.routes routeID fun h => { h with lastSeen := source } }

end UDPListener

end NeonDoll.Relay
