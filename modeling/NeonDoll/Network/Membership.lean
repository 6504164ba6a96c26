import NeonDoll.Lib.GoMap

/-!
# Memberships of a Doll Network

The in-memory membership table of `Core/Network/identity.go`.  Peer identifiers are random
and are passed in by the caller; the overlay address of a peer is an arbitrary function of
its identifier, so two peers may collide.
-/

namespace NeonDoll

open Lib

/-- Canonical Body identity; `0` is the empty string. -/
abbrev BodyID := Nat

/-- Network peer identity; `0` is the empty string. -/
abbrev PeerID := Nat

abbrev WireGuardPublicKey := Nat

abbrev Address := Nat

inductive MembershipStatus where
  | pending
  | active
  | revoked
  deriving DecidableEq

structure Membership where
  bodyID : BodyID
  peerID : PeerID
  wireGuardPublicKey : Option WireGuardPublicKey
  overlayAddress : Address
  status : MembershipStatus
  deriving DecidableEq

inductive NetworkError where
  | emptyBodyID
  | emptyPeerID
  | membershipRevoked
  | membershipAlreadyExists
  | membershipNotFound
  | addressCollision
  deriving DecidableEq

/-- `bodyAddress` is the allocator of the network, derived from its identifier. -/
structure Network where
  memberships : GoMap PeerID Membership
  bodyAddress : PeerID → Address

namespace Network

/-- The membership recorded for a Body, if any. -/
def ofBody (n : Network) (bodyID : BodyID) : Option Membership :=
  (n.memberships.entries.find? fun entry => entry.2.bodyID = bodyID).map Sigma.snd

def addressTaken (n : Network) (address : Address) : Bool :=
  n.memberships.entries.any fun entry => entry.2.overlayAddress = address

/-- `NewMembership` with the peer identifier that `GeneratePeerID` has drawn. -/
def newMembership (n : Network) (bodyID : BodyID) (peerID : PeerID) :
    Except NetworkError (Network × Membership) :=
  if bodyID = 0 then .error .emptyBodyID
  else
    match n.ofBody bodyID with
    | some m =>
      if m.status = .revoked then .error .membershipRevoked else .error .membershipAlreadyExists
    | none =>
      if peerID = 0 then .error .emptyPeerID
      else if n.addressTaken (n.bodyAddress peerID) then .error .addressCollision
      else
        let m : Membership := ⟨bodyID, peerID, none, n.bodyAddress peerID, .pending⟩
        .ok ({ n with memberships := n.memberships.insert peerID m }, m)

def activateMembership (n : Network) (peerID : PeerID) : Except NetworkError Network :=
  match n.memberships.lookup peerID with
  | none => .error .membershipNotFound
  | some m =>
    if m.status = .revoked then .error .membershipRevoked
    else .ok { n with memberships := n.memberships.insert peerID { m with status := .active } }

def revokeMembership (n : Network) (peerID : PeerID) : Except NetworkError Network :=
  match n.memberships.lookup peerID with
  | none => .error .membershipNotFound
  | some m =>
    .ok { n with memberships := n.memberships.insert peerID { m with status := .revoked } }

def setBodyWireGuardPublicKey (n : Network) (peerID : PeerID) (key : WireGuardPublicKey) :
    Except NetworkError Network :=
  match n.memberships.lookup peerID with
  | none => .error .membershipNotFound
  | some m =>
    if m.status = .revoked then .error .membershipRevoked
    else
      .ok { n with
        memberships := n.memberships.insert peerID { m with wireGuardPublicKey := some key } }

def removeMembership (n : Network) (peerID : PeerID) : Except NetworkError Network :=
  match n.memberships.lookup peerID with
  | none => .error .membershipNotFound
  | some _ => .ok { n with memberships := n.memberships.erase peerID }

def getMembership (n : Network) (peerID : PeerID) : Option Membership :=
  n.memberships.lookup peerID

/-! ## What each operation does to the table -/

variable {n n' : Network} {bodyID : BodyID} {peerID : PeerID}

theorem ofBody_eq_none : n.ofBody bodyID = none ↔
    ∀ p m, n.memberships.lookup p = some m → m.bodyID ≠ bodyID := by
  rw [ofBody, Option.map_eq_none_iff, List.find?_eq_none]
  constructor
  · intro unnamed p m found same
    have member : (⟨p, m⟩ : Sigma fun _ : PeerID => Membership) ∈ n.memberships.entries :=
      AList.mem_lookup_iff.mp found
    exact unnamed _ member (decide_eq_true same)
  · rintro unnamed ⟨p, m⟩ member same
    exact unnamed p m (AList.mem_lookup_iff.mpr member) (of_decide_eq_true same)

theorem newMembership_ok (done : n.newMembership bodyID peerID = .ok (n', m)) :
    bodyID ≠ 0 ∧ n.ofBody bodyID = none ∧ peerID ≠ 0 ∧
      m = ⟨bodyID, peerID, none, n.bodyAddress peerID, .pending⟩ ∧
      n' = { n with memberships := n.memberships.insert peerID m } := by
  rw [newMembership] at done
  split at done
  · cases done
  rename_i named
  split at done
  · grind
  rename_i unknown
  split at done
  · cases done
  rename_i drawn
  split at done
  · cases done
  · cases done
    exact ⟨named, unknown, drawn, rfl, rfl⟩

theorem activateMembership_ok (done : n.activateMembership peerID = .ok n') :
    ∃ m, n.memberships.lookup peerID = some m ∧ m.status ≠ .revoked ∧
      n' = { n with memberships := n.memberships.insert peerID { m with status := .active } } := by
  rw [activateMembership] at done
  split at done
  · cases done
  rename_i m found
  split at done
  · cases done
  · rename_i alive
    exact ⟨m, found, alive, (Except.ok.inj done).symm⟩

theorem revokeMembership_ok (done : n.revokeMembership peerID = .ok n') :
    ∃ m, n.memberships.lookup peerID = some m ∧
      n' = { n with memberships := n.memberships.insert peerID { m with status := .revoked } } := by
  rw [revokeMembership] at done
  split at done
  · cases done
  · rename_i m found
    exact ⟨m, found, (Except.ok.inj done).symm⟩

theorem setBodyWireGuardPublicKey_ok
    (done : n.setBodyWireGuardPublicKey peerID key = .ok n') :
    ∃ m, n.memberships.lookup peerID = some m ∧
      n' = { n with
        memberships := n.memberships.insert peerID { m with wireGuardPublicKey := some key } } := by
  rw [setBodyWireGuardPublicKey] at done
  split at done
  · cases done
  rename_i m found
  split at done
  · cases done
  · exact ⟨m, found, (Except.ok.inj done).symm⟩

theorem removeMembership_ok (done : n.removeMembership peerID = .ok n') :
    n' = { n with memberships := n.memberships.erase peerID } := by
  rw [removeMembership] at done
  split at done
  · cases done
  · exact (Except.ok.inj done).symm

end Network

end NeonDoll
