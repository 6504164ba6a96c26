import NeonDoll.Lib.Bytes
import NeonDoll.Lib.Transition
import NeonDoll.Network.Membership

/-!
# Overlay addresses

`Core/Network/ipv6.go`, `NewNetwork` and `ReconstructNetwork` of `portable.go`, and the
operations of a network as a system.  Hashes are arbitrary.  An address that the network uses
is a zone-free IPv6 address and stands as the number of its sixteen bytes.
-/

namespace NeonDoll

open Lib

abbrev NetworkID := Nat

/-- `sha256.Sum256` of a text. -/
abbrev Hash := Nat → Vector UInt8 32

/-! ## The allocator -/

def ulaPrefix : UInt8 := 0xfd

def ulaSubnetID : Nat := 1

def ulaPrefixLength : Nat := 64

/-- The eight bytes that all addresses of a network start with. -/
structure IPv6Allocator where
  base : Bytes
  length_eq : base.length = 8

def newIPv6Allocator (sha256 : Hash) (netID : NetworkID) : IPv6Allocator :=
  { base := ulaPrefix :: ((sha256 netID).toList.take 5 ++ Bytes.putBig 2 ulaSubnetID)
    length_eq := by simp }

namespace IPv6Allocator

/-- `Prefix().Addr()`. -/
def baseAddress (a : IPv6Allocator) : Address := Bytes.big (a.base ++ Bytes.putBig 8 0)

def coreAddress (a : IPv6Allocator) : Address := Bytes.big (a.base ++ Bytes.putBig 8 1)

/-- `BodyAddress` of a peer that is not empty. -/
def bodyAddress (sha256 : Hash) (a : IPv6Allocator) (peerID : PeerID) : Address :=
  Bytes.big (a.base ++ ((sha256 peerID).toList.drop 8).take 8)

/-- `Prefix().Contains` for a zone-free IPv6 address. -/
def contains (a : IPv6Allocator) (address : Address) : Bool :=
  address / 2 ^ 64 = Bytes.big a.base

theorem contains_layout (a : IPv6Allocator) (eight : interface.length = 8) :
    a.contains (Bytes.big (a.base ++ interface)) = true := by
  grind [Bytes.big_lt, Bytes.big_append, contains]

end IPv6Allocator

/-! ## Networks -/

structure CoreIdentity where
  peerID : PeerID
  privateKey : Nat
  publicKey : WireGuardPublicKey
  overlayAddress : Address
  deriving DecidableEq

/-- A `Network` with its identity and the Core's; its allocator is derived from the identity. -/
structure OverlayNetwork where
  networkID : NetworkID
  core : CoreIdentity
  table : Network

/-- What the package takes from outside: the hash and `WireGuardPublicKeyFromPrivate`. -/
structure OverlayConfig where
  sha256 : Hash
  publicKeyFromPrivate : Nat → Option WireGuardPublicKey

namespace OverlayNetwork

variable (cfg : OverlayConfig)

def allocator (n : OverlayNetwork) : IPv6Allocator := newIPv6Allocator cfg.sha256 n.networkID

/-- `NewNetwork` with the peer identifier and the keys that are drawn for the Core. -/
def new (netID : NetworkID) (peerID : PeerID) (privateKey : Nat) (publicKey : WireGuardPublicKey) :
    OverlayNetwork :=
  let alloc := newIPv6Allocator cfg.sha256 netID
  { networkID := netID
    core :=
      { peerID := peerID
        privateKey := privateKey
        publicKey := publicKey
        overlayAddress := alloc.coreAddress }
    table := ⟨∅, alloc.bodyAddress cfg.sha256⟩ }

end OverlayNetwork

/-! ## Portable state -/

/-- A `netip.Addr` of portable data. -/
inductive NetipAddr where
  | zero
  | v4 (value : Nat)
  | v6 (value : Address) (zone : List Char)
  deriving DecidableEq

/-- A `netip.Prefix` of portable data. -/
structure NetipPrefix where
  addr : NetipAddr
  bits : Int
  deriving DecidableEq

inductive PortableStatus where
  | known (status : MembershipStatus)
  | other (text : List Char)
  deriving DecidableEq

structure PortableCoreIdentity where
  peerID : PeerID
  privateKey : Nat
  publicKey : WireGuardPublicKey
  overlayAddress : NetipAddr
  overlayPrefix : NetipPrefix
  deriving DecidableEq

structure PortableMembership where
  bodyID : BodyID
  peerID : PeerID
  wireGuardPublicKey : Option WireGuardPublicKey
  overlayAddress : NetipAddr
  status : PortableStatus
  deriving DecidableEq

structure PortableNetwork where
  version : Int
  networkID : NetworkID
  core : PortableCoreIdentity
  memberships : List PortableMembership
  deriving DecidableEq

inductive PortableError where
  | version
  | networkID
  | corePeerID
  | coreAddress
  | corePrefix
  | privateKey
  | publicKey
  | derivation
  | keypair
  | emptyPeerID
  | emptyBodyID
  | outsidePrefix
  | collidesWithCorePeer
  | collidesWithCoreAddress
  | duplicatePeer
  | status
  deriving DecidableEq

def portableVersion : Int := 1

/-- The checks of one membership against those restored so far. -/
def checkMembership (p : PortableNetwork) (alloc : IPv6Allocator)
    (restored : GoMap PeerID Membership) (pm : PortableMembership) :
    Except PortableError Membership :=
  if pm.peerID = 0 then .error .emptyPeerID
  else if pm.bodyID = 0 then .error .emptyBodyID
  else
    match pm.overlayAddress with
    | .v6 address [] =>
      if alloc.contains address = false then .error .outsidePrefix
      else if pm.peerID = p.core.peerID then .error .collidesWithCorePeer
      else if pm.overlayAddress = p.core.overlayAddress then .error .collidesWithCoreAddress
      else if pm.peerID ∈ restored then .error .duplicatePeer
      else
        match pm.status with
        | .known status =>
          .ok ⟨pm.bodyID, pm.peerID, pm.wireGuardPublicKey, address, status⟩
        | .other _ => .error .status
    -- A prefix contains neither an IPv4 address nor one with a zone.
    | _ => .error .outsidePrefix

def restoreMemberships (p : PortableNetwork) (alloc : IPv6Allocator) :
    GoMap PeerID Membership → List PortableMembership →
      Except PortableError (GoMap PeerID Membership)
  | restored, [] => .ok restored
  | restored, pm :: rest =>
    match checkMembership p alloc restored pm with
    | .error e => .error e
    | .ok m => restoreMemberships p alloc (restored.insert pm.peerID m) rest

/-- The checks of the header and of the Core's identity. -/
def checkCore (cfg : OverlayConfig) (p : PortableNetwork) (alloc : IPv6Allocator) :
    Except PortableError Unit :=
  if p.version ≠ portableVersion then .error .version
  else if p.networkID = 0 then .error .networkID
  else if p.core.peerID = 0 then .error .corePeerID
  else if p.core.overlayAddress ≠ .v6 alloc.coreAddress [] then .error .coreAddress
  else if p.core.overlayPrefix ≠ ⟨.v6 alloc.baseAddress [], ulaPrefixLength⟩ then
    .error .corePrefix
  else if p.core.privateKey = 0 then .error .privateKey
  else if p.core.publicKey = 0 then .error .publicKey
  else
    match cfg.publicKeyFromPrivate p.core.privateKey with
    | none => .error .derivation
    | some expected => if p.core.publicKey ≠ expected then .error .keypair else .ok ()

def reconstructNetwork (cfg : OverlayConfig) (p : PortableNetwork) :
    Except PortableError OverlayNetwork :=
  let alloc := newIPv6Allocator cfg.sha256 p.networkID
  match checkCore cfg p alloc with
  | .error e => .error e
  | .ok () =>
    match restoreMemberships p alloc ∅ p.memberships with
    | .error e => .error e
    | .ok memberships =>
      .ok
        { networkID := p.networkID
          core :=
            { peerID := p.core.peerID
              privateKey := p.core.privateKey
              publicKey := p.core.publicKey
              overlayAddress := alloc.coreAddress }
          table := ⟨memberships, alloc.bodyAddress cfg.sha256⟩ }

/-! ## The operations as a system -/

inductive NetworkAction where
  /-- `NewMembership` that draws the given peer identifier. -/
  | newMembership (bodyID : BodyID) (peerID : PeerID)
  | activate (peerID : PeerID)
  | revoke (peerID : PeerID)
  | setKey (peerID : PeerID) (key : WireGuardPublicKey)
  | remove (peerID : PeerID)
  deriving DecidableEq

namespace OverlayNetwork

/-- The table after an operation and the error that it returns; a failed operation changes
nothing. -/
def settle (n : OverlayNetwork) (done : Except NetworkError Network) :
    OverlayNetwork × List NetworkError :=
  match done with
  | .error e => (n, [e])
  | .ok table => ({ n with table := table }, [])

def apply (n : OverlayNetwork) : NetworkAction → Except NetworkError Network
  | .newMembership bodyID peerID => (n.table.newMembership bodyID peerID).map Prod.fst
  | .activate peerID => n.table.activateMembership peerID
  | .revoke peerID => n.table.revokeMembership peerID
  | .setKey peerID key => n.table.setBodyWireGuardPublicKey peerID key
  | .remove peerID => n.table.removeMembership peerID

def step? (n : OverlayNetwork) (a : NetworkAction) : Option (OverlayNetwork × List NetworkError) :=
  some (n.settle (n.apply a))

/-- The operations on a network, from any first one. -/
def system (n : OverlayNetwork) : Transition.System OverlayNetwork NetworkAction NetworkError :=
  ⟨n, step?⟩

end OverlayNetwork

end NeonDoll
