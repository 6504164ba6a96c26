import NeonDoll.Relay.RegistryRuns
import NeonDoll.Relay.Udp

/-!
# Opening and closing the endpoint of a route

`OpenRouteEndpoint`, `CloseRouteEndpoint` and the sweep of `service.go`.  Each of them works on the
registry and on the UDP listener in turn, which have locks of their own.
-/

namespace NeonDoll.Relay

open Lib

structure Service where
  registry : Registry
  udp : UDPListener

inductive ServiceError where
  | registry (err : RegistryError)
  | udp (err : UDPError)

/-- The listener after a `Close` whose error is ignored. -/
def UDPListener.afterClose (u : UDPListener) (routeID : RouteID) : UDPListener :=
  match u.close routeID with
  | .ok udp => udp
  | .error _ => u

namespace Service

def openRoute (s : Service) (now : Time) (regID : RegistrationID) (routeID : RouteID) :
    Except RegistryError Registry :=
  (s.registry.getOwnedRoute regID routeID).bind fun _ =>
    s.registry.openRouteLocked now regID routeID

def openRouteEndpoint (s : Service) (now : Time) (socket : Option UDPEndpoint)
    (regID : RegistrationID) (routeID : RouteID) : Service × Except ServiceError UDPEndpoint :=
  match s.openRoute now regID routeID with
  | .error err => (s, .error (.registry err))
  | .ok opened =>
    match s.udp.bind routeID socket with
    | .error err => (⟨opened.after (opened.closeRoute regID routeID), s.udp⟩, .error (.udp err))
    | .ok (udp, port) =>
      match (opened.getOwnedRoute regID routeID).bind fun _ =>
        opened.setRouteEndpointLocked now regID routeID port with
      | .error err =>
        (⟨opened.after (opened.closeRoute regID routeID), udp.afterClose routeID⟩,
          .error (.registry err))
      | .ok registry => (⟨registry, udp⟩, .ok port)

def closeRouteEndpoint (s : Service) (regID : RegistrationID) (routeID : RouteID) :
    Service × Except ServiceError Unit :=
  -- `ErrUDPRouteNotFound` is the only error of `Close`, and it is passed over
  let udp := s.udp.afterClose routeID
  match s.registry.closeRoute regID routeID with
  | .error err => (⟨s.registry, udp⟩, .error (.registry err))
  | .ok registry => (⟨registry, udp⟩, .ok ())

/-- The calls of a registration that does not own the route fail without an effect. -/
def ForeignCallsHarmless (s : Service) (now : Time) (socket : Option UDPEndpoint)
    (regID : RegistrationID) (routeID : RouteID) : Prop :=
  s.registry.routeRegistration routeID ≠ some regID →
    (∃ err, s.openRouteEndpoint now socket regID routeID = (s, .error err)) ∧
    ∃ t err, s.closeRouteEndpoint regID routeID = (t, .error err) ∧ t.registry = s.registry ∧
      ∀ R, t.udp.routes.lookup R = s.udp.routes.lookup R

variable {s : Service} {now : Time} {socket : Option UDPEndpoint} {regID : RegistrationID}
  {routeID : RouteID}

section

variable (foreign : s.registry.routeRegistration routeID ≠ some regID)

include foreign

theorem openRouteEndpoint_foreign :
    ∃ err, s.openRouteEndpoint now socket regID routeID = (s, .error err) := by
  have refused : ∃ err, s.openRoute now regID routeID = .error err := by
    rw [openRoute, Registry.getOwnedRoute]
    cases found : s.registry.routes.lookup routeID with
    | none => exact ⟨_, rfl⟩
    | some entry =>
      have other : entry.registrationID ≠ regID :=
        fun mine => foreign (Registry.routeRegistration_eq_some.mpr ⟨entry, found, mine⟩)
      exact ⟨_, by simp only [if_neg other]; rfl⟩
  obtain ⟨err, refused⟩ := refused
  exact ⟨_, by rw [openRouteEndpoint, refused]⟩

theorem closeRouteEndpoint_foreign : ∃ err, s.closeRouteEndpoint regID routeID =
    (⟨s.registry, s.udp.afterClose routeID⟩, .error err) := by
  cases closed : s.registry.closeRoute regID routeID with
  | error err => exact ⟨_, by rw [closeRouteEndpoint, closed]⟩
  | ok registry =>
    obtain ⟨entry, found, mine, _⟩ := Registry.closeRoute_ok closed
    exact absurd (Registry.routeRegistration_eq_some.mpr ⟨entry, found, mine⟩) foreign

end

theorem lookup_afterClose (u : UDPListener) :
    (u.afterClose routeID).routes.lookup R = if R = routeID then none else u.routes.lookup R := by
  grind [UDPListener.afterClose, UDPListener.close]

theorem foreign_calls_harmless_iff (s : Service) (now : Time) (socket : Option UDPEndpoint)
    (regID : RegistrationID) (routeID : RouteID) : s.ForeignCallsHarmless now socket regID routeID ↔
      s.registry.routeRegistration routeID = some regID ∨ s.udp.routes.lookup routeID = none := by
  constructor
  · intro harmless
    refine or_iff_not_imp_left.mpr fun foreign => ?_
    obtain ⟨_, t, err, returned, _, kept⟩ := harmless foreign
    obtain ⟨err', effect⟩ := closeRouteEndpoint_foreign foreign
    cases returned.symm.trans effect
    rw [← kept routeID, lookup_afterClose, if_pos rfl]
  · intro condition foreign
    have unbound := condition.resolve_left foreign
    obtain ⟨err, effect⟩ := closeRouteEndpoint_foreign foreign
    refine ⟨openRouteEndpoint_foreign foreign, _, err, effect, rfl, fun R => ?_⟩
    rw [lookup_afterClose]
    split
    · rename_i same
      rw [same, unbound]
    · rfl

/-- The Core `1` has opened the route `7`. -/
def sample : Service :=
  let registry := (Registry.new 2 2).perform (.addRegistration 0 1)
  let allocated : Service := ⟨registry.perform (.allocateRoute 0 1 7 (some 9)), .new⟩
  (allocated.openRouteEndpoint 0 (some 4000) 1 7).1

/-- The Core `2` closes the endpoint of the route of the Core `1`, and gets an error. -/
theorem foreign_close_unbinds : ¬sample.ForeignCallsHarmless 0 none 2 7 := by
  intro harmless
  obtain ⟨_, t, err, returned, _, kept⟩ := harmless (by decide)
  have unbound : (sample.closeRouteEndpoint 2 7).1.udp.routes.lookup 7 = none := by decide
  rw [returned] at unbound
  exact absurd ((kept 7).symm.trans unbound) (by decide)

end Service

end NeonDoll.Relay
