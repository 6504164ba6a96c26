import NeonDoll.Lib.Duration
import NeonDoll.Network.Membership
import NeonDoll.WireGuard.Uapi

/-!
# The WireGuard tunnel

The configuration texts of `Core/WireGuard/tunnel.go`, and how the tunnel and its manager
(`Core/WireGuard/manager.go`) hand them to the device.
-/

namespace NeonDoll.WireGuard

open Lib Text Netip Duration

/-- A `netip.Prefix`; `none` is an invalid one. -/
abbrev IPPrefix := Option Cidr

/-- `Prefix.String`. -/
def prefixText : IPPrefix → Text
  | none => "invalid Prefix".toList
  | some p => p.text

/-- The persistent keepalive is a `time.Duration` in nanoseconds. -/
structure PeerConfig where
  publicKey : Key
  allowedIPs : List IPPrefix
  endpoint : Text
  persistentKeepalive : Int
  deriving DecidableEq

/-- The fields of the configuration that the device reads. -/
structure Config where
  privateKey : Key
  listenPort : Int
  deriving DecidableEq

def keepaliveLine (p : PeerConfig) : Text :=
  if 0 < p.persistentKeepalive then
    line "persistent_keepalive_interval".toList
      (Nat.toDigits 10 (wholeSeconds p.persistentKeepalive.toNat))
  else []

def endpointLine (p : PeerConfig) : Text :=
  if p.endpoint = [] then [] else line "endpoint".toList p.endpoint

def allowedIPLines (ips : List IPPrefix) : Text :=
  ips.flatMap fun ip => line "allowed_ip".toList (prefixText ip)

/-- The block of one peer; an empty line follows it. -/
def peerBlock (p : PeerConfig) : Text :=
  line "public_key".toList p.publicKey.hex ++
    (allowedIPLines p.allowedIPs ++ (endpointLine p ++ (keepaliveLine p ++ ['\n'])))

def buildPeerConfigs (peers : List PeerConfig) : Text := peers.flatMap peerBlock

def listenPortLine (cfg : Config) : Text :=
  if 0 < cfg.listenPort then
    line "listen_port".toList (Nat.toDigits 10 cfg.listenPort.toNat)
  else []

/-- A nil list of peers is `none`. -/
def buildUAPIConfig (cfg : Config) (peers : Option (List PeerConfig)) : Text :=
  line "private_key".toList cfg.privateKey.hex ++
    (listenPortLine cfg ++ (peers.map buildPeerConfigs).getD [])

/-- The tunnel is started if it has a device. -/
structure RealTunnel where
  device : Option Device
  deriving DecidableEq

inductive TunnelError where
  | alreadyStarted
  | notStarted
  | ipcSet
  deriving DecidableEq

def newDevice : Device := ⟨none, none, []⟩

/-- `Start`, as far as the configuration of the device goes. -/
def RealTunnel.start (read : Readers) (t : RealTunnel) (cfg : Config) :
    RealTunnel × Option TunnelError :=
  match t.device with
  | some _ => (t, some .alreadyStarted)
  | none =>
    match newDevice.ipcSet read (buildUAPIConfig cfg none) with
    | (device, true) => (⟨some device⟩, none)
    | (_, false) => (t, some .ipcSet)

def RealTunnel.reconfigurePeers (read : Readers) (t : RealTunnel) (peers : List PeerConfig) :
    RealTunnel × Option TunnelError :=
  match t.device with
  | none => (t, some .notStarted)
  | some device =>
    let cleared := { device with peers := [] }
    let uapi := buildPeerConfigs peers
    if uapi = [] then (⟨some cleared⟩, none)
    else
      match cleared.ipcSet read uapi with
      | (device, true) => (⟨some device⟩, none)
      | (device, false) => (⟨some device⟩, some .ipcSet)

/-! ## The manager -/

/-- The fields of a membership that the manager reads; an invalid address is `none`. -/
structure Member where
  peerID : Text
  wireGuardPublicKey : Option Key
  status : MembershipStatus
  overlayAddress : Option Addr
  endpoint : Text
  deriving DecidableEq

def defaultPersistentKeepaliveInterval : Int := 25 * second

/-- `PrefixFrom`, which is invalid if the address is shorter than the prefix. -/
def prefixFrom (addr : Addr) (bits : Nat) : IPPrefix :=
  if h : bits ≤ addr.bitLen then some ⟨addr, bits, h⟩ else none

/-- The configuration of a member, unless it is skipped. -/
def peerConfig (m : Member) : Option PeerConfig :=
  match m.wireGuardPublicKey with
  | none => none
  | some key =>
    if m.peerID = [] ∨ m.status ≠ .active then none
    else
      some
        { publicKey := key
          allowedIPs := (m.overlayAddress.map fun addr => prefixFrom addr 128).toList
          endpoint := m.endpoint
          persistentKeepalive := defaultPersistentKeepaliveInterval }

/-- `Manager.buildPeerConfigs`. -/
def managerPeerConfigs (memberships : List Member) : List PeerConfig :=
  memberships.filterMap peerConfig

/-- `refreshPeers` once the memberships are listed. -/
def refreshPeers (read : Readers) (t : RealTunnel) (memberships : List Member) :
    RealTunnel × Option TunnelError :=
  t.reconfigurePeers read (managerPeerConfigs memberships)

end NeonDoll.WireGuard
