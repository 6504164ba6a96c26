import NeonDoll.Enrollment.Admission

/-!
# Authentication, execution sessions and revocation

The Core around the admission system: the three authentication operations of
`Core/Enrollment/authentication.go`, the read loop and the execution table of
`DollLink/WebSocket/types.go`, `Revoke` of `Core/Enrollment/service.go`, and restarts.

A step is one critical section or one store operation of one goroutine.  The write half of
`lifecycleMu` is held by the revocation in progress and its read half by every connection
that is handling a proof.
-/

namespace NeonDoll.Enrollment

open Lib Persistence

abbrev ConnID := Nat

inductive Algorithm where
  | ed25519
  | other
  deriving DecidableEq

/-- The `version` field of the authentication messages. -/
def authenticationVersion : Nat := 1

/-- `authenticationChallengeLifetime`: thirty seconds. -/
def challengeLifetime : Time := 30 * 1000000000

structure Hello where
  version : Nat
  bodyID : BodyID
  bodyNonce : Option Nat
  algorithms : List Algorithm
  deriving DecidableEq

structure Challenge where
  coreID : CoreID
  bodyID : BodyID
  sessionID : Nat
  bodyNonce : Nat
  coreNonce : Nat
  expiresAt : Time
  algorithm : Algorithm
  deriving DecidableEq

structure Proof where
  version : Nat
  coreID : CoreID
  bodyID : BodyID
  sessionID : Nat
  bodyNonce : Nat
  coreNonce : Nat
  algorithm : Algorithm
  signature : Nat
  deriving DecidableEq

/-- An issued challenge with the credential it was issued for and the time of its timer. -/
structure AuthenticationChallenge where
  body : BodyRecord
  value : Challenge
  firesAt : Time
  deriving DecidableEq

/-- The identity and cryptography of the Core, with the check of a proof's signature. -/
structure CoreConfig extends Config where
  verifyProof : BodyKey → Proof → Bool

/-- Where the read loop of a connection stands. -/
inductive ConnPc where
  | idle
  /-- `BeginAuthentication` after `GetBody`, and after the membership check. -/
  | helloFetched (hello : Hello) (nonce : Nat) (body : BodyRecord)
  | helloEligible (hello : Hello) (nonce : Nat) (body : BodyRecord)
  /-- `ActivateAuthentication` (or `CompleteAuthentication`) under the read lock: before the
  challenge is taken, before `GetBody`, and before the final check. -/
  | proving (proof : Proof) (activates : Bool)
  | proofTaken (proof : Proof) (pending : AuthenticationChallenge) (activates : Bool)
  | proofFetched (proof : Proof) (pending : AuthenticationChallenge) (body : BodyRecord)
      (activates : Bool)
  /-- `activateAuthenticated`, still under the read lock. -/
  | accepted (bodyID : BodyID)
  | connecting (bodyID : BodyID)
  | accepting (bodyID : BodyID)
  | unblocking (bodyID : BodyID)
  | installing (bodyID : BodyID)
  /-- The deferred cleanup of `readLoop`. -/
  | closing
  | cancelled
  deriving DecidableEq

/-- The connection holds the read half of `lifecycleMu`. -/
def ConnPc.reading : ConnPc → Bool
  | .proving .. | .proofTaken .. | .proofFetched .. => true
  | .accepted _ | .connecting _ | .accepting _ | .unblocking _ | .installing _ => true
  | _ => false

structure Conn where
  pc : ConnPc
  bodyID : BodyID
  /-- `cc.execution` is not nil. -/
  execution : Bool
  deriving DecidableEq

/-- Where the revocation in progress stands. -/
inductive RevokePc where
  | authorizing (bodyID : BodyID)
  | locking (bodyID : BodyID)
  | fetching (bodyID : BodyID)
  | matching (bodyID : BodyID) (body : BodyRecord)
  | storing (bodyID : BodyID) (body : BodyRecord) (membership : Membership)
  | withdrawing (bodyID : BodyID) (membership : Membership)
  | disconnecting (bodyID : BodyID)
  | refreshing (bodyID : BodyID)
  deriving DecidableEq

structure Core where
  admission : State
  challenges : GoMap ConnID AuthenticationChallenge
  conns : GoMap ConnID Conn
  /-- The execution session of each Body. -/
  execution : GoMap BodyID ConnID
  /-- The connection that holds `activationMu`. -/
  activating : Option ConnID
  /-- The revocation that holds `lifecycleMu`. -/
  revoking : Option RevokePc

inductive CoreEvent where
  | admission (event : Event)
  | challenged (conn : ConnID) (challenge : Challenge)
  | accepted (conn : ConnID) (bodyID : BodyID) (sessionID : Nat)
  | activated (conn : ConnID) (bodyID : BodyID)
  | revoked (bodyID : BodyID)
  | revokeFailed (bodyID : BodyID)
  deriving DecidableEq

inductive CoreAction where
  | admission (action : Action)
  | connect
  | hello (conn : ConnID) (message : Hello) (ok : Bool)
  | prove (conn : ConnID) (message : Proof) (activates : Bool)
  | connStep (conn : ConnID) (ok : Bool)
  /-- The connection is lost, or a message that ends the read loop arrives. -/
  | drop (conn : ConnID)
  | timer (conn : ConnID)
  | revoke (bodyID : BodyID) (ownerID : OwnerID)
  | revokeStep (ok : Bool)
  | restart
  deriving DecidableEq

namespace Core

def init (cfg : CoreConfig) : Core :=
  { admission := State.init cfg.toConfig
    challenges := ∅
    conns := ∅
    execution := ∅
    activating := none
    revoking := none }

def at_ (s : Core) (c : ConnID) (conn : Conn) (pc : ConnPc) : Core :=
  { s with conns := s.conns.insert c { conn with pc := pc } }

def readLocked (s : Core) : Bool := s.conns.entries.any fun entry => entry.2.pc.reading

def activeMembership (s : Core) (body : BodyRecord) : Bool :=
  match s.admission.network.getMembership body.membershipRef with
  | none => false
  | some m => m.bodyID = body.bodyID ∧ m.status = .active

end Core

/-! ## Authentication -/

/-- The head of `BeginAuthentication`, with `GetBody`; a connection that is already
authenticated must not send a hello. -/
def helloStart (s : Core) (c : ConnID) (conn : Conn) (hello : Hello) (ok : Bool) : Core :=
  if conn.execution then s.at_ c conn .closing
  else if hello.version ≠ authenticationVersion ∨ hello.bodyID = 0 ∨
      .ed25519 ∉ hello.algorithms then s.at_ c conn .closing
  else
    match hello.bodyNonce, if ok then s.admission.store.bodies.lookup hello.bodyID else none with
    | some nonce, some body =>
      if body.revokedAt.isSome then s.at_ c conn .closing
      else s.at_ c conn (.helloFetched hello nonce body)
    | _, _ => s.at_ c conn .closing

/-- The challenge that `BeginAuthentication` issues, with a fresh session and nonce. -/
def issueChallenge (cfg : CoreConfig) (s : Core) (nonce : Nat) (body : BodyRecord) :
    AuthenticationChallenge :=
  { body := body
    value :=
      { coreID := cfg.coreID
        bodyID := body.bodyID
        sessionID := s.admission.nextID
        bodyNonce := nonce
        coreNonce := s.admission.nextID + 1
        expiresAt := (s.admission.now + challengeLifetime) / 1000000000 * 1000000000
        algorithm := .ed25519 }
    firesAt := s.admission.now + challengeLifetime }

/-- The comparison of a proof with the challenge it answers. -/
def Proof.answers (proof : Proof) (challenge : Challenge) (now : Time) : Bool :=
  proof.version = authenticationVersion ∧ now < challenge.expiresAt ∧
    proof.coreID = challenge.coreID ∧ proof.bodyID = challenge.bodyID ∧
    proof.sessionID = challenge.sessionID ∧ proof.bodyNonce = challenge.bodyNonce ∧
    proof.coreNonce = challenge.coreNonce ∧ proof.algorithm = challenge.algorithm

/-- The end of an authentication that failed: a production connection is closed, a caller of
`CompleteAuthentication` only gets the error. -/
def refuse (s : Core) (c : ConnID) (conn : Conn) (activates : Bool) : Core :=
  s.at_ c conn (if activates then .closing else .idle)

/-- The final check of `completeAuthentication`; `ok` is the outcome of `SignAccept`. -/
def finalCheck (cfg : CoreConfig) (s : Core) (proof : Proof) (pending : AuthenticationChallenge)
    (body : BodyRecord) (ok : Bool) : Bool :=
  body.revokedAt.isNone ∧ s.activeMembership body ∧ body.keyVersion = pending.body.keyVersion ∧
    body.membershipRef = pending.body.membershipRef ∧ body.publicKey = pending.body.publicKey ∧
    cfg.verifyProof body.publicKey proof ∧ ok

/-- The challenge is taken by every attempt to prove. -/
def takeChallenge (s : Core) (c : ConnID) (conn : Conn) (proof : Proof) (activates : Bool) :
    Core :=
  let taken : Core := { s with challenges := s.challenges.erase c }
  match s.challenges.lookup c with
  | none => refuse taken c conn activates
  | some pending =>
    if proof.answers pending.value s.admission.now then
      taken.at_ c conn (.proofTaken proof pending activates)
    else refuse taken c conn activates

/-- The end of `activateAuthenticated`: the connection becomes the execution session. -/
def install (s : Core) (c : ConnID) (conn : Conn) (bodyID : BodyID) : Core :=
  ({ s with execution := s.execution.insert bodyID c, activating := none }).at_ c conn .idle

/-- The deferred cleanup after `CancelAuthentication`; it needs `activationMu` when the
connection was authenticated. -/
def cleanup (s : Core) (c : ConnID) (conn : Conn) : Option Core :=
  if conn.execution ∧ s.activating.isSome then none
  else
    some
      { s with
        conns := s.conns.erase c
        execution :=
          if s.execution.lookup conn.bodyID = some c then s.execution.erase conn.bodyID
          else s.execution }

def connStep (cfg : CoreConfig) (s : Core) (c : ConnID) (conn : Conn) (ok : Bool) :
    Option (Core × List CoreEvent) :=
  match conn.pc with
  | .idle => none
  | .helloFetched hello nonce body =>
    if s.activeMembership body then some (s.at_ c conn (.helloEligible hello nonce body), [])
    else some (s.at_ c conn .closing, [])
  | .helloEligible _ nonce body =>
    -- Signing may fail; a challenge that cannot be sent shows as a lost connection.
    if ok then
      let issued := issueChallenge cfg s nonce body
      let drawn : Core :=
        { s with
          admission := { s.admission with nextID := s.admission.nextID + 2 }
          challenges := s.challenges.insert c issued }
      some (drawn.at_ c conn .idle, [.challenged c issued.value])
    else some (s.at_ c conn .closing, [])
  | .proving proof activates => some (takeChallenge s c conn proof activates, [])
  | .proofTaken proof pending activates =>
    match if ok then s.admission.store.bodies.lookup pending.body.bodyID else none with
    | none => some (refuse s c conn activates, [])
    | some body => some (s.at_ c conn (.proofFetched proof pending body activates), [])
  | .proofFetched proof pending body activates =>
    if finalCheck cfg s proof pending body ok then
      some (s.at_ c conn (if activates then .accepted pending.body.bodyID else .idle),
        [.accepted c pending.body.bodyID pending.value.sessionID])
    else some (refuse s c conn activates, [])
  | .accepted b =>
    if s.activating.isSome then none
    else some (({ s with activating := some c }).at_ c conn (.connecting b), [])
  | .connecting b =>
    if ok then some (s.at_ c conn (.accepting b), [])
    else some (({ s with activating := none }).at_ c conn .closing, [])
  | .accepting b =>
    if ok then some (s.at_ c { conn with bodyID := b, execution := true } (.unblocking b), [])
    else some (({ s with activating := none }).at_ c conn .closing, [])
  | .unblocking b =>
    if ok then some (s.at_ c conn (.installing b), [])
    else some (({ s with activating := none }).at_ c conn .closing, [])
  | .installing b => some (install s c conn b, [.activated c b])
  | .closing => some (({ s with challenges := s.challenges.erase c }).at_ c conn .cancelled, [])
  | .cancelled => (cleanup s c conn).map fun t => (t, [])

/-- A proof starts under the read lock, which waits for a revocation in progress. -/
def proveStart (s : Core) (c : ConnID) (conn : Conn) (proof : Proof) (activates : Bool) :
    Option Core :=
  if conn.execution then some (s.at_ c conn .closing)
  else if s.revoking.isSome then none
  else some (s.at_ c conn (.proving proof activates))

/-! ## Revocation -/

def revokeError (s : Core) (b : BodyID) : Core × List CoreEvent :=
  ({ s with admission := { s.admission with serviceHeld := false }, revoking := none },
    [.revokeFailed b])

def revokeAt (s : Core) (pc : RevokePc) : Core × List CoreEvent :=
  ({ s with revoking := some pc }, [])

/-- `RevokeMembership` in memory, skipped for a membership that is revoked already. -/
def withdraw (n : Network) (m : Membership) : Except NetworkError Network :=
  if m.status = .revoked then .ok n else n.revokeMembership m.peerID

def revokeStep (s : Core) (pc : RevokePc) (ok : Bool) : Option (Core × List CoreEvent) :=
  match pc with
  | .authorizing b =>
    if ok then some (revokeAt s (.locking b))
    else some ({ s with revoking := none }, [.revokeFailed b])
  | .locking b =>
    if s.admission.serviceFree then
      some (revokeAt { s with admission := { s.admission with serviceHeld := true } }
        (.fetching b))
    else none
  | .fetching b =>
    match if ok then s.admission.store.bodies.lookup b else none with
    | none => some (revokeError s b)
    | some body => some (revokeAt s (.matching b body))
  | .matching b body =>
    match s.admission.network.getMembership body.membershipRef with
    | none => some (revokeError s b)
    | some m =>
      if m.bodyID ≠ b then some (revokeError s b)
      else if body.revokedAt.isSome then some (revokeAt s (.withdrawing b m))
      else some (revokeAt s (.storing b body m))
  | .storing b _ m =>
    match if ok then s.admission.store.revokeBody b { m with status := .revoked } s.admission.now
        else .error .constraint with
    | .error _ => some (revokeError s b)
    | .ok store =>
      some (revokeAt { s with admission := { s.admission with store := store } }
        (.withdrawing b m))
  | .withdrawing b m =>
    match withdraw s.admission.network m with
    | .error _ => some (revokeError s b)
    | .ok n =>
      some (revokeAt { s with admission := { s.admission with network := n } }
        (.disconnecting b))
  | .disconnecting b =>
    if s.activating.isSome then none
    else some (revokeAt { s with execution := s.execution.erase b } (.refreshing b))
  | .refreshing b =>
    if ok then
      some ({ s with admission := { s.admission with serviceHeld := false }, revoking := none },
        [.revoked b])
    else some (revokeError s b)

/-- A call of `Revoke`; it waits for every reader and for another revocation. -/
def revokeStart (s : Core) (b : BodyID) (ownerID : OwnerID) : Option (Core × List CoreEvent) :=
  if b = 0 ∨ ownerID = 0 then some (s, [.revokeFailed b])
  else if s.readLocked ∨ s.revoking.isSome then none
  else some (revokeAt s (.authorizing b))

/-! ## The system -/

/-- A restart keeps the store and loads the network from it. -/
def restart (s : Core) : Core :=
  { admission :=
      { s.admission with
        network := { s.admission.network with memberships := s.admission.store.memberships }
        pairing := none
        enrolling := none
        serviceHeld := false }
    challenges := ∅
    conns := ∅
    execution := ∅
    activating := none
    revoking := none }

/-- The expiry timer of a challenge. -/
def timerStep (s : Core) (c : ConnID) : Option Core :=
  match s.challenges.lookup c with
  | none => none
  | some pending =>
    if s.admission.now < pending.firesAt then none
    else some { s with challenges := s.challenges.erase c }

def Core.step? (cfg : CoreConfig) (s : Core) : CoreAction → Option (Core × List CoreEvent)
  | .admission action =>
    match Enrollment.step? cfg.toConfig s.admission action with
    | none => none
    | some (t, events) => some ({ s with admission := t }, events.map .admission)
  | .connect =>
    some ({ s with
      admission := { s.admission with nextID := s.admission.nextID + 1 }
      conns := s.conns.insert s.admission.nextID ⟨.idle, 0, false⟩ }, [])
  | .hello c message ok =>
    match s.conns.lookup c with
    | none => none
    | some conn => if conn.pc = .idle then some (helloStart s c conn message ok, []) else none
  | .prove c message activates =>
    match s.conns.lookup c with
    | none => none
    | some conn =>
      if conn.pc = .idle then
        (proveStart s c conn message activates).map fun t => (t, [])
      else none
  | .connStep c ok =>
    match s.conns.lookup c with
    | none => none
    | some conn => connStep cfg s c conn ok
  | .drop c =>
    match s.conns.lookup c with
    | none => none
    | some conn => if conn.pc = .idle then some (s.at_ c conn .closing, []) else none
  | .timer c => (timerStep s c).map fun t => (t, [])
  | .revoke b ownerID => revokeStart s b ownerID
  | .revokeStep ok =>
    match s.revoking with
    | none => none
    | some pc => revokeStep s pc ok
  | .restart => some (restart s, [])

def Core.system (cfg : CoreConfig) : Transition.System Core CoreAction CoreEvent :=
  ⟨Core.init cfg, Core.step? cfg⟩

end NeonDoll.Enrollment
