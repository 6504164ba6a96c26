import NeonDoll.Lib.Transition
import NeonDoll.Persistence.Enrollment

/-!
# Admission of Bodies

`HandlePairing` of `Core/Pairing/service.go` and `Begin`, `Redeem`, `Approve` and `Deny` of
`Core/Enrollment/service.go` over one store and one in-memory network.  Each service runs its
calls one at a time under its own mutex, so at most one pairing and one enrollment are in
progress; between them the calls interleave at every store operation.  The Boolean of a step
is the outcome of the operation it waits for: `false` is an error of the store (without
effect) or a refusal by the authorizer.

Random identifiers, secrets and codes are drawn from one counter and so never repeat.
-/

namespace NeonDoll.Enrollment

open Lib Persistence

abbrev CoreID := Nat

/-- The fields of an enrollment request that both of its forms have; `none` stands for a text
that does not decode. -/
structure BodyRequest where
  version : Nat
  coreID : CoreID
  requestID : RequestID
  requestIDLength : Nat
  bodyPublicKey : Option BodyKey
  wgPublicKey : Option WireGuardPublicKey
  bodyNonce : Option Nat
  metadataBytes : Nat
  signature : Nat
  deriving DecidableEq

structure RedeemRequest extends BodyRequest where
  invitationID : InvitationID
  invitationSecret : Nat
  deriving DecidableEq

structure PairRequest where
  invitationID : InvitationID
  secret : Nat
  bodyID : BodyID
  wireGuardPublicKey : Option WireGuardPublicKey
  deriving DecidableEq

/-- The Core's identity and settings, and the cryptography it uses. -/
structure Config where
  coreID : CoreID
  hashSecret : Nat → Nat
  codeVerifier : Nat → Nat
  verifyEnrollmentBegin : BodyRequest → Bool
  verifyEnrollmentRedeem : RedeemRequest → Bool
  validatePairRequest : PairRequest → Bool
  bodyAddress : PeerID → Address
  pendingLifetime : Time
  maxAttempts : Nat

def enrollmentVersion : Nat := 1

/-- The owner recorded for an enrollment by invitation, the text "invitation". -/
def invitationOwner : OwnerID := 1

/-- `DefaultLifetime` of an invitation: thirty minutes. -/
def defaultLifetime : Time := 30 * 60 * 1000000000

inductive EnrollmentError where
  | unsupportedVersion
  | coreIdentity
  | invalidProof
  | replayed
  | unauthorized
  | rateLimited
  | denied
  | expired
  | invalidRequestID
  | metadataTooLarge
  | membership
  | store
  deriving DecidableEq

inductive PairReason where
  | invalidRequest
  | invalidInvitation
  | invitationAlreadyConsumed
  | authorizationDenied
  | invalidWgPublicKey
  | bodyAlreadyKnown
  | keyAssignmentFailed
  | activationFailed
  | internalError
  | persistenceFailed
  | consumptionFailed
  deriving DecidableEq

/-- The `consumed` flag that goes with each reason. -/
def PairReason.consumed : PairReason → Bool
  | .invitationAlreadyConsumed | .authorizationDenied | .bodyAlreadyKnown => true
  | _ => false

/-! ## Invitations -/

inductive InvitationError where
  | invalid
  | alreadyConsumed
  | expired
  | wrongSecret
  deriving DecidableEq

/-- `Validate`, after `Get` has returned; a failed `Get` counts as no invitation. -/
def validate (cfg : Config) (now : Time) (found : Option Invitation) (secret : Nat) :
    Except InvitationError Invitation :=
  match found with
  | none => .error .invalid
  | some inv =>
    if inv.consumed then .error .alreadyConsumed
    else if inv.expiresAt < now then .error .expired
    else if cfg.hashSecret secret ≠ inv.secretHash then .error .wrongSecret
    else .ok inv

/-- `ValidateAuthorization` does not look at consumption or expiry. -/
def validateAuthorization (cfg : Config) (found : Option Invitation) (secret : Nat) :
    Option Invitation :=
  match found with
  | none => none
  | some inv => if cfg.hashSecret secret ≠ inv.secretHash then none else some inv

/-! ## The in-memory admission that both services perform -/

inductive AdmitError where
  | creation (error : NetworkError)
  | key (error : NetworkError)
  | activation (error : NetworkError)
  | lost
  deriving DecidableEq

/-- `_ = RemoveMembership`. -/
def rollback (n : Network) (peerID : PeerID) : Network :=
  match n.removeMembership peerID with
  | .error _ => n
  | .ok removed => removed

/-- `NewMembership`, `SetBodyWireGuardPublicKey` and `ActivateMembership`, with the rollback
that follows a failure. -/
def addMember (n : Network) (bodyID : BodyID) (peerID : PeerID) (key : WireGuardPublicKey) :
    Network × Except AdmitError Membership :=
  match n.newMembership bodyID peerID with
  | .error e => (n, .error (.creation e))
  | .ok (created, m) =>
    match created.setBodyWireGuardPublicKey m.peerID key with
    | .error e => (rollback created m.peerID, .error (.key e))
    | .ok keyed =>
      match keyed.activateMembership m.peerID with
      | .error e => (rollback keyed m.peerID, .error (.activation e))
      | .ok activated =>
        match activated.getMembership m.peerID with
        | none => (rollback activated m.peerID, .error .lost)
        | some active => (activated, .ok active)

/-! ## States -/

/-- Where a `HandlePairing` call stands. -/
inductive PairPc where
  | validating (req : PairRequest)
  | authorizing (req : PairRequest)
  /-- `_ = Consume` before an error response: first its `SELECT`, then its `UPDATE`. -/
  | discarding (id : InvitationID) (reason : PairReason)
  | discardingUpdate (id : InvitationID) (reason : PairReason)
  | saving (id : InvitationID) (active : Membership)
  | consuming (id : InvitationID) (active : Membership)
  | consumingUpdate (id : InvitationID) (active : Membership)
  | deleting (id : InvitationID) (peerID : PeerID)
  deriving DecidableEq

/-- Where the enrollment call that holds the service mutex stands. -/
inductive EnrollPc where
  | counting (req : BodyRequest)
  | opening (pending : PendingEnrollment) (code : Nat)
  | lookup (req : RedeemRequest)
  | authorize (req : RedeemRequest) (existing : PendingEnrollment)
  | revalidate (req : RedeemRequest) (existing : PendingEnrollment)
  | validating (req : RedeemRequest)
  | creating (pending : PendingEnrollment) (permissions : List Permission)
  | finding (code : Nat) (ownerID : OwnerID) (permissions : List Permission)
  | approving (pending : PendingEnrollment) (ownerID : OwnerID) (permissions : List Permission)
  | findingDenied (code : Nat) (ownerID : OwnerID)
  | denying (pending : PendingEnrollment) (ownerID : OwnerID)
  | denyingStore (pending : PendingEnrollment) (ownerID : OwnerID)
  | completing (pending : PendingEnrollment) (ownerID : OwnerID) (permissions : List Permission)
  | committing (completion : Completion)
  /-- The final `GetReceipt`: its own result is returned, or it only replaces an error. -/
  | receipt (requestID : RequestID) (error : Option EnrollmentError)
  deriving DecidableEq

structure State where
  now : Time
  nextID : Nat
  store : Store
  network : Network
  pairing : Option PairPc
  enrolling : Option EnrollPc
  /-- The mutex of the enrollment service is held by an operation that admits nobody. -/
  serviceHeld : Bool

inductive Event where
  | created (id : InvitationID) (peerID : PeerID)
  | consumed (id : InvitationID) (peerID : PeerID)
  | paired (peerID : PeerID)
  | pairFailed (reason : PairReason)
  | opened (requestID : RequestID) (code : Nat)
  | enrolled (receipt : EnrollmentReceipt)
  | noReceipt (requestID : RequestID)
  | denied (requestID : RequestID)
  | enrollFailed (error : EnrollmentError)
  deriving DecidableEq

inductive Action where
  | tick (elapsed : Time)
  | invite (lifetime : Time) (permissions : List Permission)
  | pair (req : PairRequest)
  | pairStep (ok : Bool)
  | begin (req : BodyRequest)
  | redeem (req : RedeemRequest)
  | approve (code : Nat) (ownerID : OwnerID) (permissions : List Permission)
  | deny (code : Nat) (ownerID : OwnerID)
  | enrollStep (ok : Bool)
  deriving DecidableEq

namespace State

def init (cfg : Config) : State :=
  { now := 0
    nextID := 1
    store := .empty
    network := ⟨∅, cfg.bodyAddress⟩
    pairing := none
    enrolling := none
    serviceHeld := false }

def pairAt (s : State) (pc : PairPc) : State := { s with pairing := some pc }

def pairError (s : State) (reason : PairReason) : State × List Event :=
  ({ s with pairing := none }, [.pairFailed reason])

def enrollAt (s : State) (pc : EnrollPc) : State := { s with enrolling := some pc }

def enrollError (s : State) (error : EnrollmentError) : State × List Event :=
  ({ s with enrolling := none }, [.enrollFailed error])

end State

/-! ## Pairing -/

/-- The peer identifier drawn for a Body that names itself: it differs from every identifier
drawn so far and, as do all later ones, from that name. -/
def peerFor (s : State) (bodyID : BodyID) : PeerID := max s.nextID (bodyID + 1)

/-- Steps 4 to 8 of `HandlePairing`, which touch only the memory. -/
def pairAdmit (s : State) (req : PairRequest) : State × List Event :=
  match req.wireGuardPublicKey with
  | none => s.pairError .invalidWgPublicKey
  | some key =>
    let peerID := peerFor s req.bodyID
    match addMember s.network req.bodyID peerID key with
    | (n, .error (.creation _)) =>
      (({ s with network := n, nextID := peerID + 1 }).pairAt
        (.discarding req.invitationID .bodyAlreadyKnown), [])
    | (n, .error (.key _)) =>
      ({ s with network := n, nextID := peerID + 1 }).pairError .keyAssignmentFailed
    | (n, .error (.activation _)) =>
      ({ s with network := n, nextID := peerID + 1 }).pairError .activationFailed
    | (n, .error .lost) =>
      ({ s with network := n, nextID := peerID + 1 }).pairError .internalError
    | (n, .ok active) =>
      (({ s with network := n, nextID := peerID + 1 }).pairAt
        (.saving req.invitationID active), [.created req.invitationID active.peerID])

/-- The memory half of the rollback after a failed `Consume`. -/
def pairUndo (s : State) (id : InvitationID) (peerID : PeerID) : State × List Event :=
  (({ s with network := rollback s.network peerID }).pairAt (.deleting id peerID), [])

def pairStep (cfg : Config) (s : State) (pc : PairPc) (ok : Bool) : State × List Event :=
  match pc with
  | .validating req =>
    match validate cfg s.now (if ok then s.store.invitations.lookup req.invitationID else none)
        req.secret with
    | .error .alreadyConsumed => s.pairError .invitationAlreadyConsumed
    | .error _ => s.pairError .invalidInvitation
    | .ok _ => (s.pairAt (.authorizing req), [])
  | .authorizing req =>
    if ok then pairAdmit s req
    else (s.pairAt (.discarding req.invitationID .authorizationDenied), [])
  | .discarding id reason =>
    if ok ∧ id ∈ s.store.invitations then (s.pairAt (.discardingUpdate id reason), [])
    else s.pairError reason
  | .discardingUpdate id reason =>
    match if ok then s.store.consumeInvitation id else none with
    | none => s.pairError reason
    | some store => ({ s with store := store }).pairError reason
  | .saving id active =>
    if ok then
      (({ s with store := s.store.saveMembership active }).pairAt (.consuming id active), [])
    else ({ s with network := rollback s.network active.peerID }).pairError .persistenceFailed
  | .consuming id active =>
    if ok ∧ id ∈ s.store.invitations then (s.pairAt (.consumingUpdate id active), [])
    else pairUndo s id active.peerID
  | .consumingUpdate id active =>
    match if ok then s.store.consumeInvitation id else none with
    | none => pairUndo s id active.peerID
    | some store =>
      ({ s with store := store, pairing := none },
        [.consumed id active.peerID, .paired active.peerID])
  | .deleting _ peerID =>
    if ok then ({ s with store := s.store.deleteMembership peerID }).pairError .consumptionFailed
    else s.pairError .consumptionFailed

/-- A call of `HandlePairing` that has taken the mutex. -/
def pairStart (cfg : Config) (s : State) (req : PairRequest) : State × List Event :=
  if cfg.validatePairRequest req then (s.pairAt (.validating req), [])
  else s.pairError .invalidRequest

/-! ## Enrollment -/

def newPending (cfg : Config) (now : Time) (req : BodyRequest) (mode : Mode)
    (invitationID : InvitationID) (verifier : Option Nat) :
    Except EnrollmentError PendingEnrollment :=
  if req.requestID = 0 ∨ 128 < req.requestIDLength then .error .invalidRequestID
  else if 1024 < req.metadataBytes then .error .metadataTooLarge
  else
    match req.bodyPublicKey, req.wgPublicKey, req.bodyNonce with
    | some publicKey, some networkKey, some nonce =>
      .ok
        { requestID := req.requestID
          mode := mode
          bodyPublicKey := publicKey
          wgPublicKey := networkKey
          bodyNonce := nonce
          codeVerifier := verifier
          invitationID := invitationID
          status := .pending
          attemptCount := 0
          approvedOwnerID := 0
          permissions := []
          expiresAt := now / 1000000000 * 1000000000 + cfg.pendingLifetime }
    | _, _, _ => .error .invalidProof

/-- A stored request with the identifier of a redeem request is the same enrollment. -/
def RedeemRequest.matches (req : RedeemRequest) (existing : PendingEnrollment) : Bool :=
  req.bodyPublicKey = some existing.bodyPublicKey ∧ existing.mode = .invitation ∧
    existing.invitationID = req.invitationID

/-- What `completeLocked` commits for the identifiers it has drawn. -/
def completionOf (s : State) (pending : PendingEnrollment) (ownerID : OwnerID)
    (permissions : List Permission) (bodyID : BodyID) (active : Membership) : Completion :=
  { pending :=
      { pending with
        status := .enrolled, approvedOwnerID := ownerID, permissions := permissions }
    body :=
      { bodyID := bodyID
        publicKey := pending.bodyPublicKey
        keyVersion := 1
        ownerID := ownerID
        permissions := permissions
        membershipRef := active.peerID
        revokedAt := none }
    membership := active
    receipt :=
      { requestID := pending.requestID
        bodyID := bodyID
        bodyPublicKey := pending.bodyPublicKey
        permissions := permissions
        membershipReference := active.peerID
        issuedAt := s.now / 1000000000 * 1000000000 } }

/-- `completeLocked` up to the transaction. -/
def completeLocked (s : State) (pending : PendingEnrollment) (ownerID : OwnerID)
    (permissions : List Permission) : State × List Event :=
  match pending.status with
  | .enrolled => (s.enrollAt (.receipt pending.requestID none), [])
  | .denied => s.enrollError .denied
  | .pending =>
    if pending.expiresAt ≤ s.now then s.enrollError .expired
    else
      match addMember s.network s.nextID (s.nextID + 1) pending.wgPublicKey with
      | (n, .error _) => ({ s with network := n, nextID := s.nextID + 2 }).enrollError .membership
      | (n, .ok active) =>
        (({ s with network := n, nextID := s.nextID + 2 }).enrollAt
          (.committing (completionOf s pending ownerID permissions s.nextID active)),
          [.created pending.invitationID active.peerID])

/-- `GetReceipt` at the end of a call. -/
def receiptStep (s : State) (requestID : RequestID) (error : Option EnrollmentError) (ok : Bool) :
    State × List Event :=
  match if ok then s.store.receipts.lookup requestID else none, error with
  | some receipt, _ => ({ s with enrolling := none }, [.enrolled receipt])
  | none, some e => s.enrollError e
  | none, none =>
    if ok then ({ s with enrolling := none }, [.noReceipt requestID]) else s.enrollError .store

/-- The error of `Complete` as the service returns it. -/
def completeError : StoreError → EnrollmentError
  | .replayed => .replayed
  | _ => .store

def enrollStep (cfg : Config) (s : State) (pc : EnrollPc) (ok : Bool) : State × List Event :=
  match pc with
  | .counting req =>
    -- The outcome stands for both a failed count and a reached limit.
    if ok then
      match newPending cfg s.now req .bodyRequest 0 (some (cfg.codeVerifier s.nextID)) with
      | .error e => ({ s with nextID := s.nextID + 1 }).enrollError e
      | .ok pending =>
        (({ s with nextID := s.nextID + 1 }).enrollAt (.opening pending s.nextID), [])
    else s.enrollError .rateLimited
  | .opening pending code =>
    match if ok then s.store.createPending pending else .error .constraint with
    | .error _ => s.enrollError .replayed
    | .ok store =>
      ({ s with store := store, enrolling := none },
        [.opened pending.requestID code])
  | .lookup req =>
    match if ok then s.store.pendings.lookup req.requestID else none with
    | none => (s.enrollAt (.validating req), [])
    | some existing =>
      if req.matches existing then (s.enrollAt (.authorize req existing), [])
      else s.enrollError .replayed
  | .authorize req existing =>
    match validateAuthorization cfg
        (if ok then s.store.invitations.lookup req.invitationID else none)
        req.invitationSecret with
    | none => s.enrollError .unauthorized
    | some _ =>
      if existing.status = .enrolled then
        (s.enrollAt (.receipt req.requestID none), [])
      else (s.enrollAt (.revalidate req existing), [])
  | .revalidate req existing =>
    match validate cfg s.now (if ok then s.store.invitations.lookup req.invitationID else none)
        req.invitationSecret with
    | .error _ => s.enrollError .unauthorized
    | .ok inv => (s.enrollAt (.completing existing invitationOwner inv.permissions), [])
  | .validating req =>
    match validate cfg s.now (if ok then s.store.invitations.lookup req.invitationID else none)
        req.invitationSecret with
    | .error _ => s.enrollError .unauthorized
    | .ok inv =>
      match newPending cfg s.now req.toBodyRequest .invitation req.invitationID none with
      | .error e => s.enrollError e
      | .ok pending => (s.enrollAt (.creating pending inv.permissions), [])
  | .creating pending permissions =>
    match if ok then s.store.createPending pending else .error .constraint with
    | .error _ => (s.enrollAt (.receipt pending.requestID (some .replayed)), [])
    | .ok store =>
      (({ s with store := store }).enrollAt
        (.completing pending invitationOwner permissions), [])
  | .finding code ownerID permissions =>
    match if ok then s.store.getPendingByCodeVerifier (cfg.codeVerifier code) else none with
    | none => s.enrollError .unauthorized
    | some pending =>
      if cfg.maxAttempts ≤ pending.attemptCount then s.enrollError .rateLimited
      else (s.enrollAt (.approving pending ownerID permissions), [])
  | .approving pending ownerID permissions =>
    if ok then (s.enrollAt (.completing pending ownerID permissions), [])
    else s.enrollError .unauthorized
  | .findingDenied code ownerID =>
    match if ok then s.store.getPendingByCodeVerifier (cfg.codeVerifier code) else none with
    | none => s.enrollError .unauthorized
    | some pending => (s.enrollAt (.denying pending ownerID), [])
  | .denying pending ownerID =>
    if ok then
      if pending.expiresAt < s.now then s.enrollError .expired
      else (s.enrollAt (.denyingStore pending ownerID), [])
    else s.enrollError .unauthorized
  | .denyingStore pending ownerID =>
    match if ok then s.store.deny pending.requestID ownerID else .error .replayed with
    | .error _ => s.enrollError .replayed
    | .ok store => ({ s with store := store, enrolling := none }, [.denied pending.requestID])
  | .completing pending ownerID permissions => completeLocked s pending ownerID permissions
  | .committing completion =>
    match if ok then s.store.complete completion else .error .constraint with
    | .error e =>
      (({ s with network := rollback s.network completion.membership.peerID }).enrollAt
        (.receipt completion.pending.requestID (some (completeError e))), [])
    | .ok store =>
      ({ s with store := store, enrolling := none },
        [.consumed completion.pending.invitationID completion.membership.peerID,
          .enrolled completion.receipt])
  | .receipt requestID error => receiptStep s requestID error ok

/-- The checks of a request before the mutex is taken. -/
def requestError (cfg : Config) (req : BodyRequest) (verified : Bool) : Option EnrollmentError :=
  if req.version ≠ enrollmentVersion then some .unsupportedVersion
  else if req.coreID ≠ cfg.coreID then some .coreIdentity
  else if verified then none else some .invalidProof

/-- The mutex of the enrollment service is free. -/
def State.serviceFree (s : State) : Bool := s.enrolling.isNone && !s.serviceHeld

/-- A request that passes its checks enters the service at `pc`. -/
def enrollStart (s : State) (error : Option EnrollmentError) (pc : EnrollPc) :
    Option (State × List Event) :=
  match error with
  | some e => some (s, [.enrollFailed e])
  | none => if s.serviceFree then some (s.enrollAt pc, []) else none

/-! ## The system -/

/-- `Create` of the invitation service; a lifetime that is not positive means the default. -/
def invite (cfg : Config) (s : State) (lifetime : Time) (permissions : List Permission) : State :=
  let inv : Invitation :=
    { secretHash := cfg.hashSecret (s.nextID + 1)
      expiresAt := s.now + if lifetime = 0 then defaultLifetime else lifetime
      consumed := false
      permissions := permissions }
  match s.store.create s.nextID inv with
  | .error _ => { s with nextID := s.nextID + 2 }
  | .ok store => { s with store := store, nextID := s.nextID + 2 }

def step? (cfg : Config) (s : State) : Action → Option (State × List Event)
  | .tick elapsed => some ({ s with now := s.now + elapsed }, [])
  | .invite lifetime permissions => some (invite cfg s lifetime permissions, [])
  | .pair req =>
    match s.pairing with
    | some _ => none
    | none => some (pairStart cfg s req)
  | .pairStep ok =>
    match s.pairing with
    | none => none
    | some pc => some (pairStep cfg s pc ok)
  | .begin req =>
    enrollStart s (requestError cfg req (cfg.verifyEnrollmentBegin req)) (.counting req)
  | .redeem req =>
    enrollStart s (requestError cfg req.toBodyRequest (cfg.verifyEnrollmentRedeem req))
      (.lookup req)
  | .approve code ownerID permissions =>
    enrollStart s (if ownerID = 0 then some .unauthorized else none)
      (.finding code ownerID permissions)
  | .deny code ownerID =>
    enrollStart s (if ownerID = 0 then some .unauthorized else none)
      (.findingDenied code ownerID)
  | .enrollStep ok =>
    match s.enrolling with
    | none => none
    | some pc => some (enrollStep cfg s pc ok)

def system (cfg : Config) : Transition.System State Action Event := ⟨State.init cfg, step? cfg⟩

/-! ## A small configuration for concrete runs -/

def sampleConfig : Config :=
  { coreID := 1
    hashSecret := id
    codeVerifier := id
    verifyEnrollmentBegin := fun _ => true
    verifyEnrollmentRedeem := fun _ => true
    validatePairRequest := fun _ => true
    bodyAddress := id
    pendingLifetime := 1000
    maxAttempts := 3 }

/-- The request of a Body with key `key` that presents invitation `1` with secret `2`. -/
def sampleRedeem (request key : Nat) : RedeemRequest :=
  { version := 1
    coreID := 1
    requestID := request
    requestIDLength := 1
    bodyPublicKey := some key
    wgPublicKey := some key
    bodyNonce := some key
    metadataBytes := 0
    signature := 0
    invitationID := 1
    invitationSecret := 2 }

end NeonDoll.Enrollment
