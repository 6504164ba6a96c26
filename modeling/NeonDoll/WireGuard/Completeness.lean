import NeonDoll.WireGuard.Tunnel

/-!
# Which peers the device gets

The text for a list of peers has an empty line after each block, and the device stops reading
at the first one.  So exactly the lists of at most one peer are configured, if that peer's
values can be expressed in the text at all.
-/

namespace NeonDoll.WireGuard

open Lib Text Netip Duration List Option

variable (read : Readers)

/-- The peer on the device is the one that was asked for. -/
def Configured (d : DevicePeer) (p : PeerConfig) : Prop :=
  d.publicKey = p.publicKey ∧ d.allowedIPs.map some = p.allowedIPs ∧
    (if p.endpoint = [] then d.endpoint = none
      else d.endpoint ≠ none ∧ d.endpoint = read.endpoint p.endpoint) ∧
    d.keepalive * second = p.persistentKeepalive.toNat

/-- Exactly the peers of the list are on the device, in their order. -/
def PeersConfigured (device : Device) (peers : List PeerConfig) : Prop :=
  List.Forall₂ (Configured read) device.peers peers

/-- The seconds in the keepalive line. -/
def keepaliveText (p : PeerConfig) : Text :=
  Nat.toDigits 10 (wholeSeconds p.persistentKeepalive.toNat)

/-- The device reads the endpoint, if there is one. -/
def Readable (p : PeerConfig) : Prop := p.endpoint = [] ∨ read.endpoint p.endpoint ≠ none

/-- The text has a way to say the values of the peer: its prefixes are valid, its endpoint can be
read, and its keepalive is a number of seconds that can be read. -/
def Expressible (p : PeerConfig) : Prop :=
  (∀ ip ∈ p.allowedIPs, ip ≠ none) ∧ Readable read p ∧
    (p.persistentKeepalive ≤ 0 ∨
      (second : Int) ∣ p.persistentKeepalive ∧ read.keepalive (keepaliveText p) ≠ none)

/-- The keepalive in seconds that the device takes from the text. -/
def askedKeepalive (p : PeerConfig) : Nat :=
  if 0 < p.persistentKeepalive then (read.keepalive (keepaliveText p)).getD 0 else 0

theorem askedKeepalive_exact_iff (p : PeerConfig) :
    askedKeepalive read p * second = p.persistentKeepalive.toNat ↔
      p.persistentKeepalive ≤ 0 ∨
        (second : Int) ∣ p.persistentKeepalive ∧ read.keepalive (keepaliveText p) ≠ none := by
  rw [askedKeepalive]
  split
  · rename_i positive
    have asked : ¬p.persistentKeepalive ≤ 0 := not_le.mpr positive
    rw [or_iff_right asked]
    cases found : read.keepalive (keepaliveText p) with
    | none =>
      refine iff_of_false ?_ fun both => both.2 rfl
      rw [getD_none, Nat.zero_mul]
      omega
    | some k =>
      rw [getD_some, read.numeral _ k found, wholeSeconds_mul_eq_iff, and_iff_left (some_ne_none _),
        ← Int.natCast_dvd_natCast, Int.toNat_of_nonneg positive.le]
  · rename_i none_
    refine iff_of_true ?_ (.inl (not_lt.mp none_))
    omega

/-! ## One block -/

variable {read : Readers} {s : Setting} {p : PeerConfig} {peer : DevicePeer}

theorem applyText_publicKey : applyText read s (line "public_key".toList key.hex ++ rest) =
      applyText read ⟨s.finish, some ⟨key, [], none, 0⟩⟩ rest := by
  rw [applyText_line (by decide) (by decide) (key.not_mem_hex (by decide)), applyKey_publicKey,
    readKey_hex]
  rfl

section

variable (current : s.current = some peer)

include current

theorem at_of_current : s.at_ peer = s := by
  rw [Setting.at_, ← current]

theorem applyText_allowedIPs :
    applyText read s (allowedIPLines (ips.map some) ++ rest) =
      applyText read (s.at_ { peer with allowedIPs := peer.allowedIPs ++ ips }) rest := by
  induction ips generalizing s peer with
  | nil =>
    rw [append_nil, at_of_current current]
    rfl
  | cons ip later ih =>
    have first : allowedIPLines ((ip :: later).map some) =
        line "allowed_ip".toList ip.text ++ allowedIPLines (later.map some) := by
      unfold allowedIPLines
      exact flatMap_cons
    rw [first, append_assoc, applyText_line (by decide) (by decide) ip.newline_not_mem_text,
      applyKey_allowedIP current, readCidr_text]
    have next := ih (s := s.at_ { peer with allowedIPs := peer.allowedIPs ++ [ip] }) rfl
    rw [append_assoc, singleton_append] at next
    exact next

theorem applyText_endpointLine (unset : peer.endpoint = none) (readable : Readable read p) :
    applyText read s (endpointLine p ++ rest) = applyText read
      (s.at_ { peer with endpoint := if p.endpoint = [] then none else read.endpoint p.endpoint })
      rest := by
  rw [endpointLine]
  by_cases blank : p.endpoint = []
  · rw [if_pos blank, if_pos blank, ← unset, at_of_current current]
    rfl
  · obtain ⟨e, found⟩ := ne_none_iff_exists'.mp (readable.resolve_left blank)
    have oneLine : '\n' ∉ p.endpoint := by
      intro broken
      rw [read.oneLine p.endpoint broken] at found
      cases found
    rw [if_neg blank, if_neg blank, applyText_line (by decide) (by decide) oneLine,
      applyKey_endpoint current, found]
    rfl

/-- A keepalive that cannot be read ends the operation, and the peer has none. -/
theorem applyText_keepaliveLine (unset : peer.keepalive = 0) :
    (applyText read s (keepaliveLine p ++ '\n' :: rest)).1 =
      s.at_ { peer with keepalive := askedKeepalive read p } := by
  rw [keepaliveLine, askedKeepalive]
  by_cases positive : 0 < p.persistentKeepalive
  · rw [if_pos positive, if_pos positive, applyText_line (by decide) (by decide)
      (not_mem_toDigits (by decide) (by decide) (by decide)), applyKey_keepalive current,
      ← keepaliveText]
    cases read.keepalive (keepaliveText p) with
    | none =>
      rw [getD_none, ← unset, at_of_current current]
      rfl
    | some n => rfl
  · rw [if_neg positive, if_neg positive, ← unset, at_of_current current]
    rfl

end

variable (read) in
def askedPeer (p : PeerConfig) (ips : List Cidr) : DevicePeer :=
  { publicKey := p.publicKey
    allowedIPs := ips
    endpoint := if p.endpoint = [] then none else read.endpoint p.endpoint
    keepalive := askedKeepalive read p }

/-- A block is read as one peer, and the empty line after it ends the operation. -/
theorem applyText_peerBlock (valid : ips.map some = p.allowedIPs) (readable : Readable read p) :
    (applyText read s (peerBlock p ++ rest)).1 = ⟨s.finish, some (askedPeer read p ips)⟩ := by
  rw [peerBlock, ← valid]
  simp only [append_assoc]
  rw [applyText_publicKey, applyText_allowedIPs rfl, applyText_endpointLine rfl rfl readable,
    singleton_append, applyText_keepaliveLine rfl rfl]
  rfl

/-! ## Lists of peers -/

theorem exists_valid (valid : ∀ ip ∈ ips, ip ≠ none) :
    ∃ cidrs : List Cidr, cidrs.map some = ips := by
  induction ips with
  | nil => exact ⟨[], rfl⟩
  | cons ip rest ih =>
    obtain ⟨cidrs, same⟩ := ih fun i member => valid i (mem_cons_of_mem ip member)
    cases ip with
    | none => exact absurd rfl (valid none mem_cons_self)
    | some cidr => exact ⟨cidr :: cidrs, by rw [map_cons, same]⟩

theorem configured_askedPeer (valid : ips.map some = p.allowedIPs)
    (expressible : Expressible read p) : Configured read (askedPeer read p ips) p := by
  refine ⟨rfl, valid, ?_, (askedKeepalive_exact_iff read p).mpr expressible.2.2⟩
  dsimp only [askedPeer]
  by_cases blank : p.endpoint = []
  · rw [if_pos blank, if_pos blank]
  · rw [if_neg blank, if_neg blank]
    exact ⟨expressible.2.1.resolve_left blank, rfl⟩

/-- Only readable endpoints arrive on the device. -/
theorem Configured.readable (configured : Configured read d p) : Readable read p := by
  obtain ⟨_, _, endpoint, _⟩ := configured
  by_cases blank : p.endpoint = []
  · exact .inl blank
  · rw [if_neg blank] at endpoint
    rw [Readable, ← endpoint.2]
    exact .inr endpoint.1

variable (read) in
/-- The lists that are configured exactly as asked. -/
def Complete (peers : List PeerConfig) : Prop :=
  peers.length ≤ 1 ∧ ∀ p ∈ peers, Expressible read p

theorem applyText_buildPeerConfigs (noPeers : s.device.peers = []) (fresh : s.current = none) :
    PeersConfigured read (applyText read s (buildPeerConfigs peers)).1.finish peers ↔
      Complete read peers := by
  have cleared : s.finish.peers = [] := by
    rw [Setting.finish, fresh]
    exact (append_nil _).trans noPeers
  cases peers with
  | nil =>
    have empty : (applyText read s (buildPeerConfigs [])).1.finish.peers = [] := cleared
    rw [PeersConfigured, empty]
    exact iff_of_true .nil ⟨Nat.zero_le 1, fun p member => nomatch member⟩
  | cons q others =>
    -- The first block is read to its end, and nothing after it.
    have first : ∀ {ips : List Cidr}, ips.map some = q.allowedIPs → Readable read q →
        (applyText read s (buildPeerConfigs (q :: others))).1.finish.peers =
          [askedPeer read q ips] := by
      intro ips valid readable
      have joined : buildPeerConfigs (q :: others) = peerBlock q ++ buildPeerConfigs others :=
        flatMap_cons
      rw [joined, applyText_peerBlock valid readable]
      change s.finish.peers ++ [askedPeer read q ips] = _
      rw [cleared, nil_append]
    rw [PeersConfigured]
    constructor
    · intro configured
      obtain ⟨d, _, here, _, _⟩ := forall₂_cons_right_iff.mp configured
      have readable := here.readable
      rw [first here.2.1 readable] at configured
      cases configured with
      | cons here none_ =>
        cases none_
        refine ⟨le_rfl, fun p member => ?_⟩
        rw [mem_singleton.mp member]
        refine ⟨?_, readable, (askedKeepalive_exact_iff read q).mp here.2.2.2⟩
        intro ip member
        rw [← here.2.1] at member
        obtain ⟨cidr, _, rfl⟩ := mem_map.mp member
        exact some_ne_none cidr
    · rintro ⟨few, expressible⟩
      obtain rfl : others = [] :=
        length_eq_zero_iff.mp (Nat.le_zero.mp (Nat.le_of_succ_le_succ few))
      have here := expressible q mem_cons_self
      obtain ⟨_, valid⟩ := exists_valid here.1
      rw [first valid here.2.1]
      exact .cons (configured_askedPeer valid here) .nil

/-- The interface part leaves the peers to be read. -/
theorem applyText_buildUAPIConfig :
    applyText read ⟨newDevice, none⟩ (buildUAPIConfig cfg (some peers)) =
      applyText read ⟨⟨some cfg.privateKey,
          if 0 < cfg.listenPort then some cfg.listenPort.toNat else none, []⟩, none⟩
        (buildPeerConfigs peers) := by
  rw [buildUAPIConfig, applyText_line (by decide) (by decide)
    (cfg.privateKey.not_mem_hex (by decide)), applyKey_privateKey rfl, readKey_hex]
  simp only [map_some, getD_some, newDevice]
  rw [listenPortLine]
  by_cases positive : 0 < cfg.listenPort
  · have digits : toNat? 10 (Nat.toDigits 10 cfg.listenPort.toNat) = some cfg.listenPort.toNat :=
      toNat?_toDigits (by decide) (by decide) _
    rw [if_pos positive, if_pos positive, applyText_line (by decide) (by decide)
      (not_mem_toDigits (by decide) (by decide) (by decide)), applyKey_listenPort rfl, digits]
    rfl
  · rw [if_neg positive, if_neg positive, nil_append]

theorem ipcSet_fst :
    (device.ipcSet read text).1 = (applyText read ⟨device, none⟩ text).1.finish := rfl

theorem reconfigurePeers_iff :
    ∃ device', (RealTunnel.reconfigurePeers read ⟨some device⟩ peers).1 = ⟨some device'⟩ ∧
      (PeersConfigured read device' peers ↔ Complete read peers) := by
  have done : PeersConfigured read
      (applyText read ⟨{ device with peers := [] }, none⟩ (buildPeerConfigs peers)).1.finish peers ↔
        Complete read peers := applyText_buildPeerConfigs rfl rfl
  rw [RealTunnel.reconfigurePeers]
  dsimp only
  by_cases blank : buildPeerConfigs peers = []
  · rw [if_pos blank]
    rw [blank] at done
    exact ⟨_, rfl, done⟩
  · rw [if_neg blank]
    rw [← ipcSet_fst] at done
    split
    · rename_i _ set
      rw [set] at done
      exact ⟨_, rfl, done⟩
    · rename_i _ set
      rw [set] at done
      exact ⟨_, rfl, done⟩

/-! ## The peers of the manager -/

variable (read) in
/-- A member whose address fits the prefix length and whose endpoint can be read. -/
def Member.Fits (m : Member) : Prop :=
  (∀ addr, m.overlayAddress = some addr → 128 ≤ addr.bitLen) ∧
    (m.endpoint = [] ∨ read.endpoint m.endpoint ≠ none)

theorem expressible_peerConfig (built : peerConfig m = some p) :
    Expressible read p ↔ m.Fits read := by
  obtain ⟨_, key?, _, overlay?, _⟩ := m
  rw [peerConfig] at built
  cases key? with
  | none => cases built
  | some key =>
    dsimp only at built
    split at built
    · cases built
    cases built
    have seconds : (second : Int) ∣ defaultPersistentKeepaliveInterval := ⟨25, by decide⟩
    have few : wholeSeconds defaultPersistentKeepaliveInterval.toNat < 65536 := by decide
    constructor
    · grind [Expressible, Member.Fits, Readable, prefixFrom]
    · rintro ⟨_, readable⟩
      refine ⟨?_, readable, .inr ⟨seconds, read.short _ few⟩⟩
      intro ip member
      cases overlay? with
      | none => cases member
      | some addr => grind [prefixFrom]

theorem complete_managerPeerConfigs : Complete read (managerPeerConfigs memberships) ↔
      (managerPeerConfigs memberships).length ≤ 1 ∧
        ∀ m ∈ memberships, (peerConfig m).isSome → m.Fits read := by
  rw [Complete]
  refine and_congr_right fun _ => ?_
  constructor
  · intro expressible m member eligible
    obtain ⟨p, built⟩ := isSome_iff_exists.mp eligible
    exact (expressible_peerConfig built).mp
      (expressible p (mem_filterMap.mpr ⟨m, member, built⟩))
  · intro fits p member
    obtain ⟨m, listed, built⟩ := mem_filterMap.mp member
    exact (expressible_peerConfig built).mpr
      (fits m listed (isSome_iff_exists.mpr ⟨p, built⟩))

/-! ## The configurations -/

/-- However the device reads endpoints and keepalive intervals, a list of peers is configured as
asked if and only if it has at most one peer and the text can say that peer's values.  This holds
for the text alone, after the interface part, for the peers that `reconfigurePeers` sets on a
running device, and for those of the manager. -/
theorem peers_configured_iff (read : Readers) (peers : List PeerConfig) :
    (PeersConfigured read (newDevice.ipcSet read (buildPeerConfigs peers)).1 peers ↔
      Complete read peers) ∧
    (∀ cfg,
      PeersConfigured read (newDevice.ipcSet read (buildUAPIConfig cfg (some peers))).1 peers ↔
        Complete read peers) ∧ (∀ device, ∃ device',
      (RealTunnel.reconfigurePeers read ⟨some device⟩ peers).1 = ⟨some device'⟩ ∧
        (PeersConfigured read device' peers ↔ Complete read peers)) ∧
    ∀ device memberships, ∃ device',
      (refreshPeers read ⟨some device⟩ memberships).1 = ⟨some device'⟩ ∧
        (PeersConfigured read device' (managerPeerConfigs memberships) ↔
          (managerPeerConfigs memberships).length ≤ 1 ∧
            ∀ m ∈ memberships, (peerConfig m).isSome → m.Fits read) := by
  refine ⟨?_, ?_, ?_, ?_⟩
  · exact applyText_buildPeerConfigs rfl rfl
  · intro cfg
    rw [ipcSet_fst, applyText_buildUAPIConfig]
    exact applyText_buildPeerConfigs rfl rfl
  · intro device
    exact reconfigurePeers_iff
  intro device memberships
  obtain ⟨device', set, configured⟩ :=
    reconfigurePeers_iff
  exact ⟨device', set, configured.trans (complete_managerPeerConfigs)⟩

/-- The device of the samples takes every line for an endpoint and every numeral. -/
def sampleReaders : Readers where
  endpoint t := if '\n' ∈ t then none else some t
  keepalive := toNat? 10
  oneLine t broken := if_pos broken
  numeral n k found := by
    rw [toNat?_toDigits (by decide) (by decide)] at found
    exact (Option.some.inj found).symm
  short n _ := by
    rw [toNat?_toDigits (by decide) (by decide)]
    exact some_ne_none n

def sampleKey (byte : Nat) (bounded : byte < 256) : Key where
  bytes := List.replicate 32 byte
  length_eq := List.length_replicate
  bounded := fun _ member => (List.eq_of_mem_replicate member).symm ▸ bounded

def samplePeer (byte : Nat) (bounded : byte < 256) : PeerConfig :=
  { publicKey := sampleKey byte bounded
    allowedIPs := []
    endpoint := "192.0.2.7:51820".toList
    persistentKeepalive := defaultPersistentKeepaliveInterval }

/-- Of two peers with different keys only the first is on the device, and no error is
reported. -/
theorem second_peer_lost : let peers := [samplePeer 1 (by decide), samplePeer 2 (by decide)]
    (peers.map PeerConfig.publicKey).Nodup ∧
      RealTunnel.reconfigurePeers sampleReaders ⟨some newDevice⟩ peers =
        (⟨some { newDevice with peers := [askedPeer sampleReaders (samplePeer 1 (by decide)) []] }⟩,
          none) := by
  constructor
  · decide
  · decide

/-- One peer is configured. -/
theorem one_peer_configured :
    PeersConfigured sampleReaders
      (newDevice.ipcSet sampleReaders (buildPeerConfigs [samplePeer 1 (by decide)])).1
      [samplePeer 1 (by decide)] := by
  refine (peers_configured_iff sampleReaders [samplePeer 1 (by decide)]).1.mpr ⟨by decide, ?_⟩
  intro p member
  rw [mem_singleton.mp member]
  exact ⟨nofun, .inr (by decide), .inr ⟨⟨25, by decide⟩, by decide⟩⟩

end NeonDoll.WireGuard
