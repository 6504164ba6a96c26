import NeonDoll.Relay.Client
import NeonDoll.Relay.Isolation

/-!
# A control client against a control server

The machine of the client and the machine of the Relay side by side.  A connection of the client
has a registration at the Relay from the moment the Relay has accepted its `Register`; from then
on the goroutine of that registration reads the requests of the connection in order, and what it
replies goes onto the same connection.  Other Cores, the Bodies, the liveness loop and the clock
run on the side of the Relay as before.
-/

namespace NeonDoll.Relay

def Action.peer : Action → Option RegistrationID
  | .receive c _ => some c
  | .disconnect c => some c
  | .core c _ _ => some c
  | _ => none

namespace Joint

open Lib Transition Option

structure State where
  client : Client.State
  relay : Relay.State
  /-- The registration that serves a connection of the client. -/
  peers : GoMap Client.Generation RegistrationID

def State.init (cfg : Config) : State where
  client := Client.State.init
  relay := Relay.State.init cfg
  peers := ∅

inductive Action where
  /-- Any section of the client. -/
  | client (a : Client.Action)
  /-- The Relay reads the `Register` of a connection. -/
  | accept (gen : Client.Generation) (token : Token) (idGenerated : Bool)
  /-- The Relay reads the next request of a connection. -/
  | handOver (gen : Client.Generation)
  /-- The next section of the goroutine that serves a connection. -/
  | serve (gen : Client.Generation) (socket : Option UDPEndpoint) (rand : Bool)
  /-- The Relay notices that a connection is lost. -/
  | hangUp (gen : Client.Generation)
  /-- Anything else at the Relay. -/
  | relay (a : Relay.Action)
  deriving DecidableEq

def State.registered (s : State) (gen : Client.Generation) : Bool :=
  match s.peers.lookup gen with
  | none => false
  | some c =>
    match s.relay.cores.lookup c with
    | none => true
    | some core => core.pc ≠ .addConn && core.pc ≠ .setSink

/-- Replies come from the Relay alone, and `connect` succeeds only after a `Registered`. -/
def State.permits (s : State) : Client.Action → Bool
  | .answer _ _ => false
  | .connectNext true =>
    match s.client.connecting with
    | .register gen => s.registered gen
    | _ => true
  | _ => true

/-- The action is about no connection of the client. -/
def State.foreign (s : State) (a : Relay.Action) : Bool :=
  s.peers.entries.all fun entry => a.peer ≠ some entry.2

/-- The answer to a command among the events of a step. -/
def commandReply (es : List Relay.Event) : Option Reply :=
  es.findSome? fun
    | .reply _ .registered => none
    | .reply _ reply => some reply
    | _ => none

/-- The events of a Core's goroutine reach the client as an answer to its first request. -/
def hear (client : Client.State) (gen : Client.Generation) (es : List Relay.Event) :
    Option Client.State :=
  match commandReply es with
  | none => some client
  | some reply => (Client.step? client (.answer gen reply)).map Prod.fst

def step? (cfg : Config) (s : State) : Action → Option (State × List Relay.Event)
  | .client a =>
    if s.permits a then
      (Client.step? s.client a).map fun next => ({ s with client := next.1 }, [])
    else none
  | .accept gen token idGenerated =>
    match s.client.links.lookup gen, s.peers.lookup gen with
    | some _, none =>
      let (relay, es) := Relay.connectStep cfg s.relay token idGenerated
      some ({ s with
        relay := relay
        peers :=
          if s.relay.nextID ∈ relay.cores then s.peers.insert gen s.relay.nextID
          else s.peers }, es)
    | _, _ => none
  | .handOver gen =>
    match s.peers.lookup gen, s.client.links.lookup gen with
    | some c, some ⟨(_, message) :: _, _, _⟩ =>
      (Relay.step? cfg s.relay (.receive c message)).map fun next =>
        ({ s with relay := next.1 }, next.2)
    | _, _ => none
  | .serve gen socket rand =>
    match s.peers.lookup gen with
    | none => none
    | some c =>
      match Relay.step? cfg s.relay (.core c socket rand) with
      | none => none
      | some (relay, es) =>
        (hear s.client gen es).map fun client =>
          ({ s with client := client, relay := relay }, es)
  | .hangUp gen =>
    match s.peers.lookup gen with
    | none => none
    | some c =>
      (Relay.step? cfg s.relay (.disconnect c)).map fun next =>
        ({ s with relay := next.1 }, next.2)
  | .relay a =>
    if s.foreign a then
      (Relay.step? cfg s.relay a).map fun next => ({ s with relay := next.1 }, next.2)
    else none

/-- One control client and one control server with its other Cores and its Bodies. -/
def system (cfg : Config) : Transition.System State Action Relay.Event where
  init := State.init cfg
  step? := step? cfg

/-! ## What a step consists of -/

/-- The part of the Relay and the part of the client in a step of the whole. -/
inductive Moves (cfg : Config) (s : State) : Action → State → Prop where
  /-- A section of the client that is no answer of the Relay. -/
  | client {a : Client.Action} {next : Client.State} {es : List Client.Event} :
      s.permits a = true → Client.step? s.client a = some (next, es) →
      Moves cfg s (.client a) { s with client := next }
  /-- A step of the Relay that the client does not hear of. -/
  | relay {a : Action} (b : Relay.Action) {next : Relay.State} {es : List Relay.Event}
      {peers : GoMap Client.Generation RegistrationID} :
      Relay.step? cfg s.relay b = some (next, es) →
      (∀ R, s.relay.takesOut cfg R b = true → a = .relay b) →
      Moves cfg s a { s with relay := next, peers := peers }
  | serve {gen : Client.Generation} {c : RegistrationID} {socket : Option UDPEndpoint}
      {rand : Bool} {next : Relay.State} {es : List Relay.Event} {client : Client.State} :
      s.peers.lookup gen = some c → Relay.step? cfg s.relay (.core c socket rand) =
        some (next, es) → hear s.client gen es = some client →
      Moves cfg s (.serve gen socket rand) { s with client := client, relay := next }

theorem step_moves (stepped : step? cfg s a = some (t, es)) : Moves cfg s a t := by
  cases a <;> dsimp only [step?] at stepped
  case client a =>
    split at stepped
    · rename_i permitted
      obtain ⟨next, done, after⟩ := map_eq_some_iff.mp stepped
      cases after
      exact .client permitted done
    · cases stepped
  case accept gen token idGenerated =>
    split at stepped
    · cases stepped
      exact .relay (.connect token idGenerated) rfl nofun
    · cases stepped
  case handOver gen =>
    split at stepped
    · obtain ⟨next, done, after⟩ := map_eq_some_iff.mp stepped
      cases after
      exact .relay (.receive _ _) done nofun
    · cases stepped
  case serve gen socket rand =>
    split at stepped
    · cases stepped
    rename_i c serving
    split at stepped
    · cases stepped
    rename_i relay _ done
    obtain ⟨_, heard, after⟩ := map_eq_some_iff.mp stepped
    cases after
    exact .serve serving done heard
  case hangUp gen =>
    split at stepped
    · cases stepped
    · obtain ⟨next, done, after⟩ := map_eq_some_iff.mp stepped
      cases after
      exact .relay (.disconnect _) done nofun
  case relay a =>
    split at stepped
    · obtain ⟨_, done, after⟩ := map_eq_some_iff.mp stepped
      cases after
      exact .relay a done fun _ _ => rfl
    · cases stepped

theorem commandReply_mem
    (found : commandReply es = some reply) : ∃ c, .reply c reply ∈ es := by
  obtain ⟨_, member, is⟩ := List.exists_of_findSome?_eq_some found
  split at is
  · cases is
  · cases is
    exact ⟨_, member⟩
  · cases is

end Joint

end NeonDoll.Relay
