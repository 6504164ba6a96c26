import NeonDoll.Relay.Codec
import NeonDoll.Relay.Isolation

/-!
# Forwarded frames and the read limit of the Core

The Relay forwards a payload of a Body of up to 65535 bytes in a frame with a header of eleven
bytes.  The Core limits what it reads to 65536 bytes, header included, and a message beyond the
limit fails its connection.  The connection survives exactly as long as no payload has more than
65525 bytes, and then receives every frame as it was forwarded.
-/

namespace NeonDoll.Relay

open Lib List

/-! ## The Relay -/

/-- A packet of a Body at the Relay: a binary message on its connection, or a datagram on the
public endpoint of a route. -/
inductive BodyPacket where
  | message (conn : BodyConn) (raw : Bytes)
  | datagram (routeID : RouteID) (data : Bytes)

/-- A packet with the registry and the table of Core connections or packet sinks that its
handler finds. -/
structure Arrival where
  packet : BodyPacket
  registry : Registry
  cores : GoMap RegistrationID Unit

/-- The size check of `UDPListener.readLoop`. -/
def acceptDatagram (maxPacketSize : Nat) (data : Bytes) : Option Payload :=
  if data.length = 0 then none
  else if maxPacketSize < data.length then none
  else some data

/-- Route and payload of a packet that passes the checks of `handleBodyFrame` or `readLoop`. -/
def BodyPacket.accept (maxPacketSize : Nat) : BodyPacket → Option (RouteID × Payload)
  | .message conn raw =>
    match unmarshalFrame raw with
    | .error _ => none
    | .ok frame => (conn.acceptFrame (some frame)).map fun payload => (frame.routeID, payload)
  | .datagram routeID data =>
    (acceptDatagram maxPacketSize data).map fun payload => (routeID, payload)

/-- The Core, the frame and the bytes that `handleBodyFrame` or `packetSink.Deliver` writes. -/
def Arrival.forward (maxPacketSize : Nat) (a : Arrival) :
    Option (RegistrationID × Frame × Bytes) :=
  match a.packet.accept maxPacketSize with
  | none => none
  | some (routeID, payload) =>
    match a.registry.routeRegistration routeID with
    | none => none
    | some regID =>
      match a.cores.lookup regID with
      | none => none
      | some () =>
        match marshalFrame ⟨protocolVersion, routeID, payload⟩ with
        | .error _ => none
        | .ok out => some (regID, ⟨protocolVersion, routeID, payload⟩, out)

def forwardedTo (maxPacketSize : Nat) (core : RegistrationID) (arrivals : List Arrival) :
    List (Frame × Bytes) :=
  arrivals.filterMap fun a =>
    match a.forward maxPacketSize with
    | none => none
    | some (regID, written) => if regID = core then some written else none

/-! ## The Core -/

/-- The connection of a Core with the frames it has passed to its handler. -/
structure CoreLink where
  alive : Bool
  frames : List Frame
  deriving DecidableEq

def CoreLink.new : CoreLink := ⟨true, []⟩

/-- One turn of `ControlClient.readLoop` for a binary message. -/
def CoreLink.read (link : CoreLink) (message : Bytes) : CoreLink :=
  if !link.alive then link
  else if maxControlMessageSize < message.length then { link with alive := false }
  else match unmarshalFrame message with
    | .error _ => link
    | .ok frame => { link with frames := link.frames ++ [frame] }

def CoreLink.readAll (link : CoreLink) (messages : List Bytes) : CoreLink :=
  messages.foldl CoreLink.read link

/-! ## Sizes -/

/-- The largest payload whose frame fits the read limit. -/
def maxForwardable : Nat := maxControlMessageSize - frameHeaderSize

theorem Frame.fits_iff (f : Frame) :
    f.message.length ≤ maxControlMessageSize ↔ f.payload.length ≤ maxForwardable := by
  rw [f.length_message, maxForwardable, maxControlMessageSize, frameHeaderSize]
  omega

variable {out : Bytes} {frame : Frame}

theorem forwardedTo_message (member : (frame, out) ∈ forwardedTo maxPacketSize core arrivals) :
    frame.Valid ∧ out = frame.message := by
  obtain ⟨a, -, forwarded⟩ := mem_filterMap.mp member
  split at forwarded
  · cases forwarded
  split at forwarded
  · cases forwarded
    grind [marshalFrame_ok, Arrival.forward]
  · cases forwarded

/-! ## The connection -/

theorem CoreLink.readAll_dead (frames : List Frame) :
    CoreLink.readAll ⟨false, frames⟩ messages = ⟨false, frames⟩ := by
  induction messages with
  | nil => rfl
  | cons message rest ih => exact ih

theorem CoreLink.read_message (valid : f.Valid) (frames : List Frame) :
    CoreLink.read ⟨true, frames⟩ f.message =
      if f.payload.length ≤ maxForwardable then ⟨true, frames ++ [f]⟩ else ⟨false, frames⟩ := by
  grind [Frame.fits_iff, unmarshalFrame_message, CoreLink.read]

theorem CoreLink.readAll_messages (valid : ∀ f ∈ forwarded, f.Valid)
    (frames : List Frame) :
    ((CoreLink.readAll ⟨true, frames⟩ (forwarded.map Frame.message)).alive = true ↔
      ∀ f ∈ forwarded, f.payload.length ≤ maxForwardable) ∧
    ((CoreLink.readAll ⟨true, frames⟩ (forwarded.map Frame.message)).alive = true →
      (CoreLink.readAll ⟨true, frames⟩ (forwarded.map Frame.message)).frames =
        frames ++ forwarded) := by
  induction forwarded generalizing frames with
  | nil => simp [CoreLink.readAll]
  | cons f rest ih =>
    rw [forall_mem_cons] at valid
    have first : CoreLink.readAll ⟨true, frames⟩ ((f :: rest).map Frame.message) =
        CoreLink.readAll (CoreLink.read ⟨true, frames⟩ f.message) (rest.map Frame.message) := rfl
    rw [first, CoreLink.read_message valid.1, forall_mem_cons]
    split
    · grind
    · grind [CoreLink.readAll_dead]

/-- An attached Body gets every frame on its own route through that has a payload. -/
theorem forward_of_attached
    (decoded : unmarshalFrame raw = .ok f) (route : f.routeID = conn.routeID)
    (nonempty : f.payload ≠ []) (registered : registry.routeRegistration f.routeID = some core)
    (connected : cores.lookup core = some ()) :
    Arrival.forward maxPacketSize ⟨.message conn raw, registry, cores⟩ =
      some (core, f, f.message) := by
  have valid := (unmarshalFrame_ok decoded).1
  have accepted : conn.acceptFrame (some f) = some f.payload := by
    rw [BodyConn.acceptFrame, if_neg (not_not_intro valid.version), if_neg valid.route,
      if_neg (not_not_intro route), if_neg nonempty]
  have packet : BodyPacket.accept maxPacketSize (.message conn raw) =
      some (f.routeID, f.payload) := by grind [BodyPacket.accept]
  have same : f = ⟨protocolVersion, f.routeID, f.payload⟩ := by rw [← valid.version]
  unfold Arrival.forward
  rw [packet]
  dsimp only
  rw [registered]
  dsimp only
  rw [connected]
  rw [← same, marshalFrame_valid valid]

/-- Whatever the Bodies send, the connection of a Core survives the frames that the Relay
forwards to it exactly when no payload among them exceeds the limit less the header; it has then
received all of them. -/
theorem core_survives_forwarding_iff (maxPacketSize : Nat) (core : RegistrationID)
    (arrivals : List Arrival) :
    ((CoreLink.new.readAll ((forwardedTo maxPacketSize core arrivals).map Prod.snd)).alive = true ↔
      ∀ written ∈ forwardedTo maxPacketSize core arrivals,
        written.1.payload.length ≤ maxForwardable) ∧
    ((CoreLink.new.readAll ((forwardedTo maxPacketSize core arrivals).map Prod.snd)).alive = true →
      (CoreLink.new.readAll ((forwardedTo maxPacketSize core arrivals).map Prod.snd)).frames =
        (forwardedTo maxPacketSize core arrivals).map Prod.fst) := by
  have messages : (forwardedTo maxPacketSize core arrivals).map Prod.snd =
      ((forwardedTo maxPacketSize core arrivals).map Prod.fst).map Frame.message := by
    rw [map_map]
    apply map_congr_left
    rintro ⟨_, _⟩ member
    exact (forwardedTo_message member).2
  have valid : ∀ f ∈ (forwardedTo maxPacketSize core arrivals).map Prod.fst, f.Valid := by
    grind [forwardedTo_message]
  have result := CoreLink.readAll_messages valid []
  rw [forall_mem_map] at result
  rw [messages]
  exact result

/-! ## A packet beyond the limit -/

/-- A frame on route `7` whose payload has 65526 bytes. -/
def oversizedFrame : Frame := ⟨protocolVersion, 7, List.replicate 65526 0⟩

theorem oversizedFrame_valid : oversizedFrame.Valid where
  version := rfl
  positive := by decide
  bounded := by decide
  small := by
    rw [oversizedFrame, length_replicate]
    decide

/-- An attached Body sends the frame, the Relay accepts and forwards it, and the connection of
the Core fails. -/
theorem oversized_frame_breaks_core :
    ∃ trace s conn, (system sampleConfig).Run Transition.free (State.init sampleConfig) trace s ∧
      s.bodies.lookup 3 = some conn ∧ conn.pc = .reading ∧ conn.closed = false ∧
      Arrival.forward maxFramePayloadSize
          ⟨.message conn oversizedFrame.message, s.registry, s.conns⟩ =
        some (1, oversizedFrame, oversizedFrame.message) ∧
      (CoreLink.new.read oversizedFrame.message).alive = false := by
  obtain ⟨trace, s, run, facts⟩ := Transition.System.replays?_run
    (show (system sampleConfig).replays? Transition.free
      (registerActions 1 ++ openActions 1 7 4000 ++ attachActions 3 7 2)
      (fun _ s => s.registry.routeRegistration 7 = some 1 ∧ s.conns.lookup 1 = some () ∧
        (s.bodies.lookup 3).any fun conn =>
          conn.routeID = 7 ∧ conn.pc = .reading ∧ conn.closed = false) = true by decide)
  obtain ⟨_, _, attached⟩ := of_decide_eq_true facts
  obtain ⟨conn, found, reading⟩ := (Option.any_eq_true _ _).mp attached
  obtain ⟨_, pc, live⟩ := of_decide_eq_true reading
  refine ⟨trace, s, conn, run, found, pc, live, ?_, ?_⟩
  · grind [forward_of_attached, unmarshalFrame_message, oversizedFrame_valid, oversizedFrame]
  · have large : ¬oversizedFrame.payload.length ≤ maxForwardable := by
      rw [oversizedFrame, length_replicate]
      decide
    rw [CoreLink.new, CoreLink.read_message oversizedFrame_valid, if_neg large]

end NeonDoll.Relay
