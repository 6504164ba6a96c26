import NeonDoll.Relay.Codec
import NeonDoll.Relay.Isolation

/-!
# Routes that the server accepts and frames that carry them

`ValidateControl` refuses the route `0` only, while `MarshalFrame` refuses every route above
`MaxRouteID` as well.
-/

namespace NeonDoll.Relay

open Lib

/-- Every payload of an admissible length reaches the peer under the route. -/
def Carries (R : RouteID) : Prop :=
  ∀ payload : Payload, payload.length ≤ maxFramePayloadSize →
    ∃ data, marshalFrame ⟨protocolVersion, R, payload⟩ = .ok data ∧
      unmarshalFrame data = .ok ⟨protocolVersion, R, payload⟩

/-- A `RouteOpen` or a `BodyAttach` with the route passes `ValidateControl`. -/
def Validated (R : RouteID) : Prop :=
  (∃ token, validateRouteOpen R token = none) ∨
    ∃ s message, message.routeID = R ∧ (attachStep s message).2 ≠ attachRefused

theorem Validated.positive (valid : Validated R) : R ≠ 0 := by
  rintro rfl
  rcases valid with ⟨_, accepted⟩ | ⟨s, _, route, accepted⟩
  · cases accepted
  · rw [attachStep, if_pos (.inr (.inl route))] at accepted
    exact accepted rfl

theorem carries_iff (positive : R ≠ 0) : Carries R ↔ R ≤ maxRouteID := by
  constructor
  · intro carries
    obtain ⟨_, encoded, _⟩ := carries [] (Nat.zero_le _)
    exact (marshalFrame_ok encoded).1.bounded
  · intro bounded payload small
    have valid : Frame.Valid ⟨protocolVersion, R, payload⟩ := ⟨rfl, positive, bounded, small⟩
    exact ⟨_, marshalFrame_valid valid, unmarshalFrame_message valid⟩

/-- A route that `ValidateControl` accepts carries frames exactly if it is at most `MaxRouteID`,
however the server goes on. -/
theorem validated_route_carries_iff (R : RouteID) (valid : Validated R) :
    Carries R ↔ R ≤ maxRouteID :=
  carries_iff valid.positive

theorem validated_route_carries_iff_seven : Validated 7 ∧ (Carries 7 ↔ 7 ≤ maxRouteID) :=
  have valid := .inl ⟨1, rfl⟩
  ⟨valid, validated_route_carries_iff 7 valid⟩

/-- The route `2 ^ 63` is opened by a Core and a Body attaches to it, and no frame can be sent on
it. -/
theorem attached_route_without_frames : (∃ trace s t events,
      (system sampleConfig).Run Transition.free (State.init sampleConfig) trace s ∧
      (system sampleConfig).step? s (.body 3) = some (t, events) ∧
      events = [.bodyReply 3 (.bodyAttached (2 ^ 63))]) ∧ ¬Carries (2 ^ 63) := by
  refine ⟨?_, by rw [carries_iff (by decide)]; decide⟩
  obtain ⟨trace, s, t, events, run, _, stepped, replied⟩ :=
    Transition.System.reaches?_run
      (show (system sampleConfig).reaches? Transition.free
        (registerActions 1 ++ openActions 1 (2 ^ 63) 4000 ++ (attachActions 3 (2 ^ 63) 2).dropLast)
        (.body 3) (fun _ _ events => events = [.bodyReply 3 (.bodyAttached (2 ^ 63))]) = true
        by decide)
  exact ⟨trace, s, t, events, run, stepped, of_decide_eq_true replied⟩

end NeonDoll.Relay
