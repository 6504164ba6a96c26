import NeonDoll.Network.Overlay

/-!
# Bodies and addresses of a network are distinct

`NewMembership` rejects a Body and an address that a membership has.  It does not compare the
address with the Core's, and `ReconstructNetwork` compares neither Bodies nor addresses of the
memberships it restores.  So the addressing invariant holds as long as no hash hits the
reserved interface and the portable memberships are distinct.
-/

namespace NeonDoll

open Lib Transition GoMap AList Network

/-- What the network keeps from its identity. -/
structure OverlayNetwork.Derived (cfg : OverlayConfig) (n : OverlayNetwork) : Prop where
  core : n.core.overlayAddress = (n.allocator cfg).coreAddress
  body : n.table.bodyAddress = (n.allocator cfg).bodyAddress cfg.sha256

/-- Bodies and addresses are pairwise distinct, the addresses are inside of the network and
none is the Core's. -/
structure OverlayNetwork.Addressed (cfg : OverlayConfig) (n : OverlayNetwork) : Prop where
  bodies : ∀ p q m m', n.table.memberships.lookup p = some m →
    n.table.memberships.lookup q = some m' → m.bodyID = m'.bodyID → p = q
  addresses : ∀ p q m m', n.table.memberships.lookup p = some m →
    n.table.memberships.lookup q = some m' → m.overlayAddress = m'.overlayAddress → p = q
  inside : ∀ p m, n.table.memberships.lookup p = some m →
    (n.allocator cfg).contains m.overlayAddress = true
  reserved : ∀ p m, n.table.memberships.lookup p = some m →
    m.overlayAddress ≠ n.core.overlayAddress

/-- The hash of the drawn peer does not give the Core's address. -/
def OverlayNetwork.unreserved (n : OverlayNetwork) : NetworkAction → Prop
  | .newMembership _ peerID => n.table.bodyAddress peerID ≠ n.core.overlayAddress
  | _ => True

/-- The portable memberships are of distinct Bodies and at distinct addresses. -/
def PortableNetwork.Distinct (p : PortableNetwork) : Prop :=
  p.memberships.Pairwise fun a b =>
    a.bodyID ≠ b.bodyID ∧ a.overlayAddress ≠ b.overlayAddress

instance (p : PortableNetwork) : Decidable p.Distinct :=
  inferInstanceAs (Decidable (List.Pairwise _ _))

/-! ## Operations -/

/-- The operation enters a membership. -/
def NetworkAction.creates : NetworkAction → Bool
  | .newMembership _ _ => true
  | _ => false

/-- What a successful operation does to the table. -/
inductive TableMove (n : Network) (a : NetworkAction) (t : Network) : Prop where
  | created (bodyID : BodyID) (peerID : PeerID) (action : a = .newMembership bodyID peerID)
      (unknown : n.ofBody bodyID = none)
      (unused : ∀ q m, n.memberships.lookup q = some m →
        m.overlayAddress ≠ n.bodyAddress peerID)
      (after : t = { n with
        memberships := n.memberships.insert peerID
          ⟨bodyID, peerID, none, n.bodyAddress peerID, .pending⟩ })
  | updated (peerID : PeerID) (m m' : Membership) (other : a.creates = false)
      (found : n.memberships.lookup peerID = some m)
      (body : m'.bodyID = m.bodyID) (address : m'.overlayAddress = m.overlayAddress)
      (after : t = { n with memberships := n.memberships.insert peerID m' })
  | removed (peerID : PeerID) (other : a.creates = false)
      (after : t = { n with memberships := n.memberships.erase peerID })

theorem Network.addressTaken_eq_false {n : Network} {address : Address}
    (free : n.addressTaken address = false) :
    ∀ q m, n.memberships.lookup q = some m → m.overlayAddress ≠ address := by
  intro q m found same
  have member : (⟨q, m⟩ : Sigma fun _ : PeerID => Membership) ∈ n.memberships.entries :=
    mem_lookup_iff.mp found
  have taken := List.any_eq_false.mp free _ member
  simp [same] at taken

variable {bodyID : BodyID} {peerID : PeerID}

theorem apply_move {n : OverlayNetwork} {a : NetworkAction} {t : Network}
    (done : n.apply a = .ok t) : TableMove n.table a t := by
  cases a with
  | newMembership bodyID peerID =>
    change (n.table.newMembership bodyID peerID).map Prod.fst = .ok t at done
    cases made : n.table.newMembership bodyID peerID with
    | error e =>
      rw [made] at done
      cases done
    | ok pair =>
      obtain ⟨_, m⟩ := pair
      rw [made] at done
      cases done
      obtain ⟨_, unknown, _, rfl, after⟩ := newMembership_ok made
      exact .created bodyID peerID rfl unknown
        (addressTaken_eq_false (by grind [newMembership])) after
  | activate peerID =>
    obtain ⟨m, found, _, after⟩ := activateMembership_ok done
    exact .updated peerID m { m with status := .active } rfl found rfl rfl after
  | revoke peerID =>
    obtain ⟨m, found, after⟩ := revokeMembership_ok done
    exact .updated peerID m { m with status := .revoked } rfl found rfl rfl after
  | setKey peerID key =>
    obtain ⟨m, found, after⟩ := setBodyWireGuardPublicKey_ok done
    exact .updated peerID m { m with wireGuardPublicKey := some key } rfl found rfl rfl after
  | remove peerID => exact .removed peerID rfl (removeMembership_ok done)

variable {trace : List NetworkError} {start : OverlayNetwork}

namespace OverlayNetwork

variable {cfg : OverlayConfig} {n : OverlayNetwork} {a : NetworkAction} {t : Network}

def withTable (n : OverlayNetwork) (t : Network) : OverlayNetwork := { n with table := t }

theorem derived_move (h : n.Derived cfg) (move : TableMove n.table a t) :
    (n.withTable t).Derived cfg := by
  cases move with
  | created _ _ _ _ _ after | updated _ _ _ _ _ _ _ after | removed _ _ after =>
    subst after
    exact ⟨h.core, h.body⟩

theorem addressed_sub (h : n.Addressed cfg)
    (sub : ∀ p m', t.memberships.lookup p = some m' → ∃ m, n.table.memberships.lookup p = some m ∧
      m'.bodyID = m.bodyID ∧ m'.overlayAddress = m.overlayAddress) :
    (n.withTable t).Addressed cfg := by
  constructor
  case bodies =>
    intro p q m m' left right same
    obtain ⟨o, found, body, _⟩ := sub p m left
    obtain ⟨o', found', body', _⟩ := sub q m' right
    exact h.bodies p q o o' found found' (by rw [← body, ← body', same])
  case addresses =>
    intro p q m m' left right same
    obtain ⟨o, found, _, address⟩ := sub p m left
    obtain ⟨o', found', _, address'⟩ := sub q m' right
    exact h.addresses p q o o' found found' (by rw [← address, ← address', same])
  case inside =>
    intro p m found
    obtain ⟨o, old, _, address⟩ := sub p m found
    rw [address]
    exact h.inside p o old
  case reserved =>
    intro p m found
    obtain ⟨o, old, _, address⟩ := sub p m found
    rw [address]
    exact h.reserved p o old

theorem contains_bodyAddress (h : n.Derived cfg) (peerID : PeerID) :
    (n.allocator cfg).contains (n.table.bodyAddress peerID) = true := by
  rw [h.body]
  exact IPv6Allocator.contains_layout _ (by simp)

/-- A membership of an unknown Body at an unused address is entered. -/
theorem addressed_created (h : n.Addressed cfg) (derived : n.Derived cfg)
    (unknown : n.table.ofBody bodyID = none)
    (unused : ∀ q m, n.table.memberships.lookup q = some m →
      m.overlayAddress ≠ n.table.bodyAddress peerID)
    (free : n.table.bodyAddress peerID ≠ n.core.overlayAddress) (after : t = { n.table with
      memberships := n.table.memberships.insert peerID
        ⟨bodyID, peerID, none, n.table.bodyAddress peerID, .pending⟩ }) :
    (n.withTable t).Addressed cfg := by
  subst after
  have other := ofBody_eq_none.mp unknown
  constructor
  case bodies =>
    intro p q m m' left right same
    change (n.table.memberships.insert _ _).lookup _ = _ at left right
    rw [lookup_insert_ite] at left right
    split at left
    · grind
    · grind [Addressed]
  case addresses =>
    intro p q m m' left right same
    change (n.table.memberships.insert _ _).lookup _ = _ at left right
    rw [lookup_insert_ite] at left right
    split at left
    · grind
    · grind [Addressed]
  case inside =>
    intro p m found
    rcases lookup_insert_some found with ⟨-, rfl⟩ | ⟨-, found⟩
    · exact contains_bodyAddress derived peerID
    · exact h.inside p m found
  case reserved =>
    intro p m found
    rcases lookup_insert_some found with ⟨-, rfl⟩ | ⟨-, found⟩
    · exact free
    · exact h.reserved p m found

theorem unreserved_of_other (other : a.creates = false) : n.unreserved a := by
  cases a with
  | newMembership _ _ => cases other
  | _ => trivial

/-- One operation keeps the invariant exactly if it does not enter the Core's address. -/
theorem addressed_move (h : n.Addressed cfg) (derived : n.Derived cfg)
    (move : TableMove n.table a t) : (n.withTable t).Addressed cfg ↔ n.unreserved a := by
  cases move with
  | created bodyID peerID action unknown unused after =>
    subst action
    constructor
    · intro kept
      refine kept.reserved peerID ⟨bodyID, peerID, none, n.table.bodyAddress peerID, .pending⟩ ?_
      rw [after]
      exact lookup_insert _
    · intro free
      exact addressed_created h derived unknown unused free after
  | updated peerID m m' other found body address after =>
    subst after
    refine iff_of_true (addressed_sub h ?_) (unreserved_of_other other)
    intro p m'' looked
    rw [lookup_insert_ite] at looked
    split at looked
    · grind
    · exact ⟨m'', looked, rfl, rfl⟩
  | removed peerID other after =>
    subst after
    refine iff_of_true (addressed_sub h ?_) (unreserved_of_other other)
    intro p m looked
    exact ⟨m, (lookup_erase_some looked).2, rfl, rfl⟩

/-- Both invariants over any operations that do not enter the Core's address. -/
theorem run_addressed {m : OverlayNetwork} (derived : n.Derived cfg) (h : n.Addressed cfg)
    (run : start.system.Run unreserved n trace m) : m.Derived cfg ∧ m.Addressed cfg := by
  refine run.invariant (P := fun x => x.Derived cfg ∧ x.Addressed cfg) ⟨derived, h⟩ ?_
  intro x y a es before admitted stepped
  obtain ⟨derived, h⟩ := before
  have after : y = (x.settle (x.apply a)).1 := by rw [Option.some.inj stepped]
  rw [after]
  unfold settle
  cases done : x.apply a with
  | error e => exact ⟨derived, h⟩
  | ok t =>
    have move := apply_move done
    exact ⟨derived_move derived move, (addressed_move h derived move).mpr admitted⟩

end OverlayNetwork

/-! ## Reconstruction -/

section Restore

variable {p : PortableNetwork} {restored t : GoMap PeerID Membership}

/-- The membership is the portable one, and its address passed the checks. -/
@[grind] structure Restores (p : PortableNetwork) (alloc : IPv6Allocator) (pm : PortableMembership)
    (m : Membership) : Prop where
  body : m.bodyID = pm.bodyID
  address : pm.overlayAddress = .v6 m.overlayAddress []
  inside : alloc.contains m.overlayAddress = true
  reserved : pm.overlayAddress ≠ p.core.overlayAddress

theorem checkMembership_ok (done : checkMembership p alloc restored pm = .ok m) :
    restored.lookup pm.peerID = none ∧ Restores p alloc pm m := by
  grind [lookup_eq_none, checkMembership]

/-- The restored table has the portable memberships under their own keys. -/
@[grind] structure Restored (p : PortableNetwork) (alloc : IPv6Allocator)
    (restored : GoMap PeerID Membership) (pms : List PortableMembership)
    (t : GoMap PeerID Membership) : Prop where
  peers : pms.Pairwise fun a b => a.peerID ≠ b.peerID
  entered : ∀ pm ∈ pms, restored.lookup pm.peerID = none ∧
    ∃ m, t.lookup pm.peerID = some m ∧ Restores p alloc pm m
  from_list : ∀ q m, t.lookup q = some m → restored.lookup q = some m ∨
    ∃ pm ∈ pms, pm.peerID = q ∧ Restores p alloc pm m
  kept : ∀ q m, restored.lookup q = some m → t.lookup q = some m

theorem restoreMemberships_ok (done : restoreMemberships p alloc restored pms = .ok t) :
    Restored p alloc restored pms t := by
  induction pms generalizing restored with
  | nil =>
    cases done
    constructor
    case peers => exact .nil
    case entered => exact nofun
    case from_list => exact fun _ _ found => .inl found
    case kept => exact fun _ _ found => found
  | cons pm rest ih =>
    rw [restoreMemberships] at done
    split at done
    · cases done
    rename_i m checked
    obtain ⟨_, _⟩ := checkMembership_ok checked
    have later := ih done
    have apart : ∀ b ∈ rest, pm.peerID ≠ b.peerID := by grind
    constructor
    case peers => exact .cons apart later.peers
    case entered => grind
    case from_list => grind
    case kept => grind

end Restore

theorem checkCore_ok (done : checkCore cfg p alloc = .ok ()) :
    p.core.overlayAddress = .v6 alloc.coreAddress [] := by
  grind [checkCore]

theorem reconstructNetwork_ok (done : reconstructNetwork cfg p = .ok n) :
    n.Derived cfg ∧ p.core.overlayAddress = .v6 n.core.overlayAddress [] ∧
      Restored p (n.allocator cfg) ∅ p.memberships n.table.memberships := by
  rw [reconstructNetwork] at done
  split at done
  · cases done
  rename_i core
  split at done
  · cases done
  · rename_i _ restored
    cases done
    exact ⟨⟨rfl, rfl⟩, checkCore_ok core, restoreMemberships_ok restored⟩

theorem reconstruct_addressed
    (done : reconstructNetwork cfg p = .ok n) : n.Addressed cfg ↔ p.Distinct := by
  obtain ⟨-, _, restored⟩ := reconstructNetwork_ok done
  have origin : ∀ q m, n.table.memberships.lookup q = some m →
      ∃ pm ∈ p.memberships, pm.peerID = q ∧ Restores p (n.allocator cfg) pm m := by
    intro q m found
    obtain old | entered := restored.from_list q m found
    · cases old
    · exact entered
  constructor
  · intro h
    refine restored.peers.imp_of_mem ?_
    intro a b inA inB peers
    obtain ⟨-, m, _, _⟩ := restored.entered a inA
    obtain ⟨-, _, _, _⟩ := restored.entered b inB
    constructor
    all_goals grind [OverlayNetwork.Addressed]
  · intro distinct
    -- Two portable memberships that share a Body or an address are one.
    have symmetric : Std.Symm fun a b : PortableMembership =>
        a.bodyID ≠ b.bodyID ∧ a.overlayAddress ≠ b.overlayAddress :=
      ⟨fun _ _ differ => ⟨differ.1.symm, differ.2.symm⟩⟩
    have apart : ∀ a ∈ p.memberships, ∀ b ∈ p.memberships, a ≠ b →
        a.bodyID ≠ b.bodyID ∧ a.overlayAddress ≠ b.overlayAddress := by
      intro a inA b inB
      exact List.Pairwise.forall distinct inA inB
    constructor
    case bodies => grind
    case addresses => grind
    case inside => grind
    case reserved => grind

theorem new_addressed :
    (OverlayNetwork.new cfg netID peerID privateKey publicKey).Addressed cfg := by
  constructor
  case bodies => exact nofun
  case addresses => exact nofun
  case inside => exact nofun
  case reserved => exact nofun

/-- A network is made by `NewNetwork` or from portable state that is accepted. -/
inductive OverlayNetwork.Made (cfg : OverlayConfig) (n : OverlayNetwork) : Prop where
  | new (netID : NetworkID) (peerID : PeerID) (privateKey : Nat) (publicKey : WireGuardPublicKey)
      (made : n = .new cfg netID peerID privateKey publicKey)
  | reconstructed (p : PortableNetwork) (made : reconstructNetwork cfg p = .ok n)

/-- As `Made`, and the portable memberships are distinct. -/
inductive OverlayNetwork.MadeDistinct (cfg : OverlayConfig) (n : OverlayNetwork) : Prop where
  | new (netID : NetworkID) (peerID : PeerID) (privateKey : Nat) (publicKey : WireGuardPublicKey)
      (made : n = .new cfg netID peerID privateKey publicKey)
  | reconstructed (p : PortableNetwork) (made : reconstructNetwork cfg p = .ok n)
      (distinct : p.Distinct)

namespace OverlayNetwork

variable {cfg : OverlayConfig} {n m : OverlayNetwork}

theorem Made.derived (made : n.Made cfg) : n.Derived cfg := by
  cases made with
  | new netID peerID privateKey publicKey made =>
    subst made
    exact ⟨rfl, rfl⟩
  | reconstructed p made => exact (reconstructNetwork_ok made).1

theorem MadeDistinct.addressed (made : n.MadeDistinct cfg) : n.Derived cfg ∧ n.Addressed cfg := by
  cases made with
  | new netID peerID privateKey publicKey made =>
    subst made
    exact ⟨⟨rfl, rfl⟩, new_addressed⟩
  | reconstructed p made distinct =>
    exact ⟨(reconstructNetwork_ok made).1, (reconstruct_addressed made).mpr distinct⟩

theorem run_derived {guard : OverlayNetwork → NetworkAction → Prop} (derived : n.Derived cfg)
    (run : start.system.Run guard n trace m) : m.Derived cfg := by
  refine run.invariant derived ?_
  intro x y a es before _ stepped
  have after : y = (x.settle (x.apply a)).1 := by rw [Option.some.inj stepped]
  rw [after]
  unfold settle
  cases done : x.apply a with
  | error e => exact before
  | ok t => exact derived_move before (apply_move done)

/-- Bodies and addresses stay distinct, inside of the network and off the Core's address in
every run from distinct memberships that draws no peer whose hash is the Core's interface.
Both conditions are needed: accepted portable state has the invariant exactly if its
memberships are distinct, and an operation on a network that has it keeps it exactly if it does
not enter the Core's address. -/
theorem overlay_addressing (cfg : OverlayConfig) :
    (∀ p n, reconstructNetwork cfg p = .ok n → (n.Addressed cfg ↔ p.Distinct)) ∧
      (∀ (n m : OverlayNetwork) trace a t, n.Made cfg → n.system.Run free n trace m →
        m.Addressed cfg → m.apply a = .ok t → ((m.withTable t).Addressed cfg ↔ m.unreserved a)) ∧
      ∀ (n m : OverlayNetwork) trace, n.MadeDistinct cfg →
        n.system.Run unreserved n trace m → m.Addressed cfg := by
  refine ⟨?_, ?_, ?_⟩
  · intro p n done
    exact reconstruct_addressed done
  · intro n m trace a t made run h done
    exact addressed_move h (run_derived made.derived run) (apply_move done)
  · intro n m trace made run
    obtain ⟨derived, h⟩ := made.addressed
    exact (run_addressed derived h run).2

end OverlayNetwork

/-- A hash that sends every text to one interface, which is not the Core's. -/
def plainOverlay : OverlayConfig :=
  { sha256 := fun _ => .replicate 32 9
    publicKeyFromPrivate := some }

/-- A new network in which a Body is entered. -/
theorem overlay_addressing_entered : ∃ (n m : OverlayNetwork) (trace : List _) (x : Membership),
    n.system.Run OverlayNetwork.unreserved n trace m ∧ m.table.memberships.lookup 4 = some x ∧
      x.bodyID = 7 ∧ m.Addressed plainOverlay := by
  have free : (OverlayNetwork.new plainOverlay 1 2 3 3).table.bodyAddress 4 ≠
      (OverlayNetwork.new plainOverlay 1 2 3 3).core.overlayAddress := by decide
  have run : (OverlayNetwork.new plainOverlay 1 2 3 3).system.Run OverlayNetwork.unreserved
      (.new plainOverlay 1 2 3 3) ([] ++ []) _ := .tail (a := .newMembership 7 4) (.refl _) free rfl
  exact ⟨_, _, _, _, run, rfl, rfl,
    (OverlayNetwork.overlay_addressing plainOverlay).2.2 _ _ _ (.new 1 2 3 3 rfl) run⟩

/-! ## Networks that break the invariant -/

/-- A hash that sends every text to the interface of the Core. -/
def sampleOverlay : OverlayConfig :=
  { sha256 := fun _ => ⟨#[0, 0, 0, 0, 0, 0, 0, 0, 0, 0, 0, 0, 0, 0, 0, 1, 0, 0, 0, 0, 0, 0, 0, 0,
      0, 0, 0, 0, 0, 0, 0, 0], rfl⟩
    publicKeyFromPrivate := some }

/-- A membership of Body `7` at interface `9` of the sample network. -/
def samplePortable (peerID : PeerID) : PortableMembership :=
  { bodyID := 7
    peerID := peerID
    wireGuardPublicKey := none
    overlayAddress := .v6 ((newIPv6Allocator sampleOverlay.sha256 1).baseAddress + 9) []
    status := .known .active }

/-- Portable state with one Body twice, at one address. -/
def sampleDuplicate : PortableNetwork :=
  { version := 1
    networkID := 1
    core :=
      { peerID := 2
        privateKey := 3
        publicKey := 3
        overlayAddress := .v6 (newIPv6Allocator sampleOverlay.sha256 1).coreAddress []
        overlayPrefix := ⟨.v6 (newIPv6Allocator sampleOverlay.sha256 1).baseAddress [], 64⟩ }
    memberships := [samplePortable 4, samplePortable 5] }

/-- The portable state with one Body twice is accepted, and a new membership may get the
address of the Core. -/
theorem overlay_addressing_broken :
    (∃ n m m', reconstructNetwork sampleOverlay sampleDuplicate = .ok n ∧
      n.table.memberships.lookup 4 = some m ∧ n.table.memberships.lookup 5 = some m' ∧
      m.bodyID = m'.bodyID ∧ m.overlayAddress = m'.overlayAddress) ∧
    ∃ t m, (OverlayNetwork.new sampleOverlay 1 2 3 3).apply (.newMembership 7 4) = .ok t ∧
      t.memberships.lookup 4 = some m ∧
      m.overlayAddress = (OverlayNetwork.new sampleOverlay 1 2 3 3).core.overlayAddress := by
  refine ⟨⟨_, _, _, rfl, rfl, rfl, rfl, rfl⟩, _, _, rfl, rfl, rfl⟩

end NeonDoll
