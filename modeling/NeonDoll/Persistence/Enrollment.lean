import NeonDoll.Network.Membership

/-!
# The enrollment tables

The rows of `Core/Persistence/enrollment.go`, `invitations.go` and `network_state.go` that
pairing, enrollment and revocation read and write.  An operation of one transaction is one
function; a constraint of the schema that it violates makes it fail without effect.
-/

namespace NeonDoll.Persistence

open Lib

/-- Nanoseconds since the epoch. -/
abbrev Time := Nat

/-- Invitation identifier; `0` is the empty string. -/
abbrev InvitationID := Nat

/-- Enrollment request identifier; `0` is the empty string. -/
abbrev RequestID := Nat

abbrev OwnerID := Nat

abbrev Permission := Nat

/-- Ed25519 public key of a Body. -/
abbrev BodyKey := Nat

structure Invitation where
  secretHash : Nat
  expiresAt : Time
  consumed : Bool
  permissions : List Permission
  deriving DecidableEq

inductive Mode where
  | bodyRequest
  | invitation
  deriving DecidableEq

inductive EnrollmentStatus where
  | pending
  | denied
  | enrolled
  deriving DecidableEq

structure PendingEnrollment where
  requestID : RequestID
  mode : Mode
  bodyPublicKey : BodyKey
  wgPublicKey : WireGuardPublicKey
  bodyNonce : Nat
  codeVerifier : Option Nat
  invitationID : InvitationID
  status : EnrollmentStatus
  attemptCount : Nat
  approvedOwnerID : OwnerID
  permissions : List Permission
  expiresAt : Time
  deriving DecidableEq

structure BodyRecord where
  bodyID : BodyID
  publicKey : BodyKey
  keyVersion : Nat
  ownerID : OwnerID
  permissions : List Permission
  membershipRef : PeerID
  revokedAt : Option Time
  deriving DecidableEq

structure EnrollmentReceipt where
  requestID : RequestID
  bodyID : BodyID
  bodyPublicKey : BodyKey
  permissions : List Permission
  membershipReference : PeerID
  issuedAt : Time
  deriving DecidableEq

structure Completion where
  pending : PendingEnrollment
  body : BodyRecord
  membership : Membership
  receipt : EnrollmentReceipt
  deriving DecidableEq

inductive StoreError where
  | constraint
  | replayed
  | unknownBody
  | invalidMembership
  deriving DecidableEq

structure Store where
  invitations : GoMap InvitationID Invitation
  memberships : GoMap PeerID Membership
  pendings : GoMap RequestID PendingEnrollment
  bodies : GoMap BodyID BodyRecord
  receipts : GoMap RequestID EnrollmentReceipt

namespace Store

def empty : Store := ⟨∅, ∅, ∅, ∅, ∅⟩

/-- `Create` of an invitation. -/
def create (s : Store) (id : InvitationID) (inv : Invitation) : Except StoreError Store :=
  if id ∈ s.invitations then .error .constraint
  else .ok { s with invitations := s.invitations.insert id inv }

/-- The conditional `UPDATE invitations SET consumed = 1`; `none` when no row changed. -/
def consumeInvitation (s : Store) (id : InvitationID) : Option Store :=
  match s.invitations.lookup id with
  | none => none
  | some inv =>
    if inv.consumed then none
    else some { s with invitations := s.invitations.insert id { inv with consumed := true } }

/-- `SaveMembership`, an upsert of one row. -/
def saveMembership (s : Store) (m : Membership) : Store :=
  { s with memberships := s.memberships.insert m.peerID m }

def deleteMembership (s : Store) (peerID : PeerID) : Store :=
  { s with memberships := s.memberships.erase peerID }

/-- A pending row that a new one collides with: the primary key, the unique code verifier or
the unique pair of key and nonce. -/
def pendingClash (s : Store) (p : PendingEnrollment) : Bool :=
  s.pendings.entries.any fun row =>
    row.1 = p.requestID ∨ (row.2.codeVerifier.isSome ∧ row.2.codeVerifier = p.codeVerifier) ∨
      (row.2.bodyPublicKey = p.bodyPublicKey ∧ row.2.bodyNonce = p.bodyNonce)

def createPending (s : Store) (p : PendingEnrollment) : Except StoreError Store :=
  if s.pendingClash p then .error .constraint
  else .ok { s with pendings := s.pendings.insert p.requestID p }

def getPendingByCodeVerifier (s : Store) (verifier : Nat) : Option PendingEnrollment :=
  (s.pendings.entries.find? fun row => row.2.codeVerifier = some verifier).map Sigma.snd

/-- `Deny` changes a pending row only. -/
def deny (s : Store) (requestID : RequestID) (ownerID : OwnerID) : Except StoreError Store :=
  match s.pendings.lookup requestID with
  | none => .error .replayed
  | some p =>
    if p.status = .pending then
      .ok { s with
        pendings :=
          s.pendings.insert requestID { p with status := .denied, approvedOwnerID := ownerID } }
    else .error .replayed

/-- A credential row that a new one collides with. -/
def bodyClash (s : Store) (b : BodyRecord) : Bool :=
  s.bodies.entries.any fun row =>
    row.1 = b.bodyID ∨ row.2.publicKey = b.publicKey ∨ row.2.membershipRef = b.membershipRef

/-- The consumption at the head of `Complete`: only an enrollment by invitation has one. -/
def consumeFor (s : Store) (p : PendingEnrollment) : Option Store :=
  if p.invitationID = 0 then some s else s.consumeInvitation p.invitationID

/-- `Complete`, one transaction. -/
def complete (s : Store) (c : Completion) : Except StoreError Store :=
  match s.consumeFor c.pending with
  | none => .error .replayed
  | some base =>
    if s.bodyClash c.body then .error .constraint
    else if c.membership.peerID ∈ s.memberships then .error .constraint
    else if c.pending.requestID ∈ s.receipts then .error .constraint
    else
      match s.pendings.lookup c.pending.requestID with
      | none => .error .replayed
      | some p =>
        if p.status = .pending then
          .ok
            { base with
              bodies := s.bodies.insert c.body.bodyID c.body
              memberships := s.memberships.insert c.membership.peerID c.membership
              receipts := s.receipts.insert c.pending.requestID c.receipt
              pendings :=
                s.pendings.insert c.pending.requestID
                  { p with
                    status := .enrolled
                    approvedOwnerID := c.pending.approvedOwnerID
                    permissions := c.pending.permissions } }
        else .error .replayed

/-- `RevokeBody`, one transaction: the credential and its membership change together. -/
def revokeBody (s : Store) (bodyID : BodyID) (m : Membership) (revokedAt : Time) :
    Except StoreError Store :=
  if m.bodyID ≠ bodyID ∨ m.status ≠ .revoked then .error .invalidMembership
  else
    match s.bodies.lookup bodyID with
    | none => .error .unknownBody
    | some r =>
      if r.revokedAt.isSome then .error .unknownBody
      else
        .ok
          { s with
            bodies := s.bodies.insert bodyID { r with revokedAt := some revokedAt }
            memberships := s.memberships.insert m.peerID m }

/-! ## What each operation does -/

variable {s t : Store}

theorem consumeInvitation_ok {id : InvitationID} (done : s.consumeInvitation id = some t) :
    ∃ inv, s.invitations.lookup id = some inv ∧ inv.consumed = false ∧
      t = { s with invitations := s.invitations.insert id { inv with consumed := true } } := by
  unfold consumeInvitation at done
  split at done
  · cases done
  rename_i inv found
  split at done
  · cases done
  rename_i unused
  cases done
  exact ⟨inv, found, Bool.eq_false_of_not_eq_true unused, rfl⟩

theorem bodyClash_eq_false (free : s.bodyClash b = false) : s.bodies.lookup b.bodyID = none := by
  cases found : s.bodies.lookup b.bodyID with
  | none => rfl
  | some r =>
    have member : (⟨b.bodyID, r⟩ : Sigma fun _ : BodyID => BodyRecord) ∈ s.bodies.entries :=
      AList.mem_lookup_iff.mp found
    have clash := List.any_eq_false.mp free _ member
    simp at clash

theorem complete_ok (done : s.complete c = .ok t) :
    ∃ base, s.consumeFor c.pending = some base ∧ t.invitations = base.invitations ∧
      s.bodies.lookup c.body.bodyID = none ∧ s.memberships.lookup c.membership.peerID = none ∧
      t.bodies = s.bodies.insert c.body.bodyID c.body ∧
      t.memberships = s.memberships.insert c.membership.peerID c.membership := by
  rw [complete] at done
  split at done
  · cases done
  rename_i base consumed
  split at done
  · cases done
  rename_i unused
  split at done
  · cases done
  rename_i absent
  split at done
  · cases done
  split at done
  · cases done
  split at done
  · cases done
    exact ⟨base, consumed, rfl, bodyClash_eq_false (by simpa using unused),
      AList.lookup_eq_none.mpr absent, rfl, rfl⟩
  · cases done

theorem revokeBody_ok (done : s.revokeBody bodyID m revokedAt = .ok t) :
    m.bodyID = bodyID ∧ m.status = .revoked ∧ ∃ r, s.bodies.lookup bodyID = some r ∧
      t = { s with
        bodies := s.bodies.insert bodyID { r with revokedAt := some revokedAt }
        memberships := s.memberships.insert m.peerID m } := by grind [revokeBody]

theorem createPending_ok (done : s.createPending p = .ok t) :
    t = { s with pendings := s.pendings.insert p.requestID p } := by
  unfold createPending at done
  split at done
  · cases done
  · exact (Except.ok.inj done).symm

theorem deny_ok (done : s.deny requestID ownerID = .ok t) :
    t = { s with pendings := t.pendings } := by
  unfold deny at done
  split at done
  · cases done
  split at done
  · cases done
    rfl
  · cases done

theorem create_ok {id : InvitationID} (done : s.create id inv = .ok t) :
    t = { s with invitations := s.invitations.insert id inv } := by
  unfold create at done
  split at done
  · cases done
  · exact (Except.ok.inj done).symm

end Store

end NeonDoll.Persistence
