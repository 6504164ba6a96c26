import NeonDoll.Enrollment.Effect

/-!
# Credentials and memberships agree

A credential of the store names a membership that belongs to its Body both in the store and
in memory, and the store marks it revoked as soon as the credential is.  Admission keeps
this: what a call has entered for itself is referred to by no credential until the
transaction of an enrollment makes both at once.
-/

namespace NeonDoll.Enrollment

open Lib Persistence State

namespace State

def body (s : State) (b : BodyID) : Option BodyRecord := s.store.bodies.lookup b

def stored (s : State) (p : PeerID) : Option Membership := s.store.memberships.lookup p

def member (s : State) (p : PeerID) : Option Membership := s.network.memberships.lookup p

end State

/-- A membership is entered under its own identifier, and a credential of its Body names it. -/
structure Owned (s : State) (p : PeerID) (m : Membership) : Prop where
  key : m.peerID = p
  peer : p < s.nextID
  name : m.bodyID < s.nextID
  owner : ∀ r, s.body m.bodyID = some r → r.membershipRef = p

def Unreferenced (s : State) (p : PeerID) : Prop :=
  ∀ b r, s.body b = some r → r.membershipRef ≠ p

/-- What holds of the completion that is about to be committed. -/
@[grind] structure Prepared (s : State) (c : Completion) : Prop where
  held : s.member c.membership.peerID = some c.membership
  unreferenced : Unreferenced s c.membership.peerID
  named : c.membership.bodyID = c.body.bodyID
  reference : c.body.membershipRef = c.membership.peerID
  unrevoked : c.body.revokedAt = none
  unstored : ∀ q m, s.stored q = some m → m.bodyID ≠ c.body.bodyID
  single : ∀ q m, s.member q = some m → m.bodyID = c.body.bodyID → q = c.membership.peerID

/-- The peer that a pairing call is responsible for. -/
def Phase.peer : Phase → Option PeerID
  | .idle => none
  | .unsaved _ m | .saved _ m => some m.peerID
  | .undone _ p => some p

/-- The membership that a pairing call has in memory. -/
def Phase.live : Phase → Option Membership
  | .unsaved _ m | .saved _ m => some m
  | _ => none

variable {m : Membership}

theorem Phase.peer_of_live {phase : Phase} (live : phase.live = some m) :
    phase.peer = some m.peerID := by
  cases phase with
  | idle | undone i p => cases live
  | unsaved i m' | saved i m' =>
    cases live
    rfl

@[grind] structure Coherent (s : State) : Prop where
  stores : ∀ b r, s.body b = some r →
    ∃ m, s.stored r.membershipRef = some m ∧ m.bodyID = b ∧
      (r.revokedAt.isSome → m.status = .revoked)
  holds : ∀ b r, s.body b = some r → ∃ m, s.member r.membershipRef = some m ∧ m.bodyID = b
  stored : ∀ p m, s.stored p = some m → Owned s p m
  member : ∀ p m, s.member p = some m → Owned s p m
  pairFree : ∀ p, s.pairPhase.peer = some p → Unreferenced s p ∧ p < s.nextID
  pairLive : ∀ m, s.pairPhase.live = some m →
    s.member m.peerID = some m ∧ s.body m.bodyID = none
  prepared : ∀ c, s.enrollPhase = some c → Prepared s c
  apart : ∀ p c, s.pairPhase.peer = some p → s.enrollPhase = some c → p ≠ c.membership.peerID

theorem coherent_init (cfg : Config) : Coherent (State.init cfg) := by
  constructor
  case stores => exact nofun
  case holds => exact nofun
  case stored => exact nofun
  case member => exact nofun
  case pairFree => exact nofun
  case pairLive => exact nofun
  case prepared => exact nofun
  case apart => exact nofun

variable {s t : State} {a : Action} {es : List Event}

/-! ## Consequences -/

variable {b : BodyID} {r : BodyRecord} {p : PeerID}

namespace Coherent

theorem drawn (h : Coherent s) (found : s.body b = some r) :
    b < s.nextID ∧ r.membershipRef < s.nextID := by
  obtain ⟨m, held, rfl⟩ := h.holds b r found
  exact ⟨(h.member _ m held).name, (h.member _ m held).peer⟩

theorem body_of_unknown (h : Coherent s) (unknown : s.network.ofBody b = none) :
    s.body b = none := by
  cases found : s.body b with
  | none => rfl
  | some r =>
    obtain ⟨m, held, same⟩ := h.holds b r found
    exact absurd same (Network.ofBody_eq_none.mp unknown _ m held)

theorem member_eq (h : Coherent s) (found : s.body b = some r)
    (held : s.member p = some m) (same : m.bodyID = b) : p = r.membershipRef := by
  subst same
  exact ((h.member p m held).owner r found).symm

end Coherent

theorem Owned.mono (owned : Owned s p m)
    (ids : s.nextID ≤ t.nextID) (bodies : t.body m.bodyID = s.body m.bodyID) : Owned t p m := by
  refine ⟨owned.key, owned.peer.trans_le ids, owned.name.trans_le ids, fun r found => ?_⟩
  rw [bodies] at found
  exact owned.owner r found

/-! ## One lemma for each effect -/

theorem coherent_frame (h : Coherent s) (body : t.body = s.body) (stored : t.stored = s.stored)
    (member : t.member = s.member) (enrolling : t.enrollPhase = s.enrollPhase)
    (ids : s.nextID ≤ t.nextID) (phase : t.pairPhase = s.pairPhase ∨ t.pairPhase = .idle) :
    Coherent t := by
  have peer : ∀ p, t.pairPhase.peer = some p → s.pairPhase.peer = some p := by
    intro p found
    rcases phase with same | idle
    · rwa [same] at found
    · rw [idle] at found
      cases found
  constructor
  case stores =>
    rw [body, stored]
    exact h.stores
  case holds =>
    rw [body, member]
    exact h.holds
  case stored =>
    intro p m found
    rw [stored] at found
    exact (h.stored p m found).mono ids (by rw [body])
  case member =>
    intro p m found
    rw [member] at found
    exact (h.member p m found).mono ids (by rw [body])
  case pairFree =>
    intro p found
    obtain ⟨free, bound⟩ := h.pairFree p (peer p found)
    refine ⟨?_, lt_of_lt_of_le bound ids⟩
    rw [Unreferenced, body]
    exact free
  case pairLive =>
    intro m found
    rcases phase with same | idle
    · rw [same] at found
      rw [member, body]
      exact h.pairLive m found
    · rw [idle] at found
      cases found
  case prepared =>
    intro c found
    rw [enrolling] at found
    have before := h.prepared c found
    refine ⟨?_, ?_, before.named, before.reference, before.unrevoked, ?_, ?_⟩
    · rw [member]
      exact before.held
    · rw [Unreferenced, body]
      exact before.unreferenced
    · rw [stored]
      exact before.unstored
    · rw [member]
      exact before.single
  case apart => grind

theorem SameMembers.body (members : SameMembers s t) : t.body = s.body := by
  unfold State.body
  rw [members.bodies]

theorem SameMembers.stored (members : SameMembers s t) : t.stored = s.stored := by
  unfold State.stored
  rw [members.memberships]

theorem SameMembers.member (members : SameMembers s t) : t.member = s.member := by
  unfold State.member
  rw [members.network]

theorem same_store (store : t.store = s.store) : t.body = s.body ∧ t.stored = s.stored := by
  unfold body stored
  rw [store]
  exact ⟨rfl, rfl⟩

theorem same_network (network : t.network = s.network) : t.member = s.member := by
  unfold State.member
  rw [network]

variable {i : InvitationID}

theorem coherent_pairAdmitted (h : Coherent s)
    (store : t.store = s.store) (enrolling : t.enrollPhase = s.enrollPhase)
    (phase : t.pairPhase = .unsaved i m) (unknown : s.network.ofBody m.bodyID = none)
    (network : ∀ q, t.member q = if q = m.peerID then some m else s.member q)
    (fresh : s.nextID ≤ m.peerID) (name : m.bodyID < t.nextID) (ids : m.peerID < t.nextID) :
    Coherent t := by
  obtain ⟨body, stored⟩ := same_store store
  have later : s.nextID ≤ t.nextID := le_trans fresh (le_of_lt ids)
  have other : ∀ q, q < s.nextID → t.member q = s.member q := by
    intro q old
    rw [network, if_neg (ne_of_lt (lt_of_lt_of_le old fresh))]
  have uncredited : s.body m.bodyID = none := h.body_of_unknown unknown
  have unnamed := Network.ofBody_eq_none.mp unknown
  constructor
  case stores =>
    rw [body, stored]
    exact h.stores
  case holds =>
    intro b r found
    rw [body] at found
    rw [other _ (h.drawn found).2]
    exact h.holds b r found
  case stored =>
    intro p m' found
    rw [stored] at found
    exact (h.stored p m' found).mono later (by rw [body])
  case member =>
    intro p m' found
    rw [network] at found
    split at found
    · rename_i same
      cases found
      refine ⟨same.symm, same ▸ ids, name, ?_⟩
      intro r credited
      rw [body, uncredited] at credited
      cases credited
    · exact (h.member p m' found).mono later (by rw [body])
  case pairFree =>
    intro p found
    rw [phase] at found
    cases found
    refine ⟨?_, ids⟩
    intro b r found
    rw [body] at found
    exact ne_of_lt (lt_of_lt_of_le (h.drawn found).2 fresh)
  case pairLive =>
    intro m' found
    rw [phase] at found
    cases found
    refine ⟨?_, ?_⟩
    · rw [network, if_pos rfl]
    · rw [body]
      exact uncredited
  case prepared =>
    intro c found
    rw [enrolling] at found
    have before := h.prepared c found
    have old := (h.member _ _ before.held).peer
    refine ⟨?_, ?_, before.named, before.reference, before.unrevoked, ?_, ?_⟩
    · rw [other _ old]
      exact before.held
    · rw [Unreferenced, body]
      exact before.unreferenced
    · rw [stored]
      exact before.unstored
    intro q m' held same
    rw [network] at held
    split at held
    · cases held
      -- The Body of the completion is known in memory, so nobody else can be admitted as it.
      exact absurd (before.named.trans same.symm) (unnamed _ _ before.held)
    · exact before.single q m' held same
  case apart =>
    intro p c found prepared
    rw [phase] at found
    cases found
    rw [enrolling] at prepared
    have old := (h.member _ _ (h.prepared c prepared).held).peer
    exact ne_of_gt (lt_of_lt_of_le old fresh)

theorem coherent_saved (h : Coherent s)
    (before : s.pairPhase = .unsaved i m) (phase : t.pairPhase = .saved i m)
    (store : t.store = s.store.saveMembership m) (network : t.network = s.network)
    (enrolling : t.enrollPhase = s.enrollPhase) (ids : t.nextID = s.nextID) : Coherent t := by
  have body : t.body = s.body := by
    unfold State.body
    rw [store]
    rfl
  have member := same_network network
  have stored : ∀ q, t.stored q = if q = m.peerID then some m else s.stored q := by
    intro q
    unfold State.stored
    rw [store]
    exact GoMap.lookup_insert_ite _ _ _ _
  have mine : s.pairPhase.peer = some m.peerID := by rw [before]; rfl
  have held := h.pairLive m (by rw [before]; rfl)
  constructor
  case stores =>
    intro b r found
    rw [body] at found
    rw [stored, if_neg ((h.pairFree _ mine).1 b r found)]
    exact h.stores b r found
  case holds =>
    rw [body, member]
    exact h.holds
  case stored =>
    intro p m' found
    rw [stored] at found
    split at found
    · rename_i same
      cases found
      rw [same]
      exact (h.member _ _ held.1).mono (le_of_eq ids.symm) (by rw [body])
    · exact (h.stored p m' found).mono (le_of_eq ids.symm) (by rw [body])
  case member =>
    intro p m' found
    rw [member] at found
    exact (h.member p m' found).mono (le_of_eq ids.symm) (by rw [body])
  case pairFree =>
    intro p found
    rw [phase] at found
    cases found
    rw [Unreferenced, body, ids]
    exact h.pairFree _ mine
  case pairLive =>
    intro m' found
    rw [phase] at found
    cases found
    rw [member, body]
    exact held
  case prepared =>
    intro c found
    rw [enrolling] at found
    have ready := h.prepared c found
    refine ⟨?_, ?_, ready.named, ready.reference, ready.unrevoked, ?_, ?_⟩
    · rw [member]
      exact ready.held
    · rw [Unreferenced, body]
      exact ready.unreferenced
    · grind
    · rw [member]
      exact ready.single
  case apart =>
    intro p c found prepared
    rw [phase] at found
    cases found
    rw [enrolling] at prepared
    exact h.apart _ c mine prepared

/-- A call takes a membership that no credential names out of memory or out of the store, and
has nothing to answer for afterwards but, perhaps, its deletion from the store. -/
theorem coherent_removed (h : Coherent s) (free : Unreferenced s p) (body : t.body = s.body)
    (stored : ∀ q m, t.stored q = some m → s.stored q = some m)
    (storedOther : ∀ q, q ≠ p → t.stored q = s.stored q)
    (member : ∀ q m, t.member q = some m → s.member q = some m)
    (memberOther : ∀ q, q ≠ p → t.member q = s.member q) (ids : t.nextID = s.nextID)
    (peer : ∀ q, t.pairPhase.peer = some q → s.pairPhase.peer = some q)
    (live : ∀ m, t.pairPhase.live = some m → s.pairPhase.live = some m ∧ m.peerID ≠ p)
    (enrolling : ∀ c, t.enrollPhase = some c →
      s.enrollPhase = some c ∧ c.membership.peerID ≠ p) : Coherent t := by
  constructor
  case stores =>
    intro b r found
    rw [body] at found
    rw [storedOther _ (free b r found)]
    exact h.stores b r found
  case holds =>
    intro b r found
    rw [body] at found
    rw [memberOther _ (free b r found)]
    exact h.holds b r found
  case stored =>
    intro q m found
    exact (h.stored q m (stored q m found)).mono (le_of_eq ids.symm) (by rw [body])
  case member =>
    intro q m found
    exact (h.member q m (member q m found)).mono (le_of_eq ids.symm) (by rw [body])
  case pairFree =>
    intro q found
    rw [Unreferenced, body, ids]
    exact h.pairFree q (peer q found)
  case pairLive =>
    intro m found
    obtain ⟨before, other⟩ := live m found
    rw [memberOther _ other, body]
    exact h.pairLive m before
  case prepared =>
    intro c found
    obtain ⟨before, other⟩ := enrolling c found
    have ready := h.prepared c before
    refine ⟨?_, ?_, ready.named, ready.reference, ready.unrevoked, ?_, ?_⟩
    · rw [memberOther _ other]
      exact ready.held
    · rw [Unreferenced, body]
      exact ready.unreferenced
    · exact fun q m saved => ready.unstored q m (stored q m saved)
    · exact fun q m held => ready.single q m (member q m held)
  case apart =>
    intro q c found prepared
    exact h.apart q c (peer q found) (enrolling c prepared).1

variable {q : PeerID}

theorem rollback_member_sub
    (network : t.network = rollback s.network p) (found : t.member q = some m) :
    s.member q = some m := by
  grind [rollback_lookup, member]

theorem rollback_member_other (network : t.network = rollback s.network p)
    (other : q ≠ p) : t.member q = s.member q := by
  rw [member, network, rollback_lookup, if_neg other]
  rfl

section

variable (h : Coherent s)

include h

theorem coherent_pairRollback (live : s.pairPhase.live = some m) (store : t.store = s.store)
    (network : t.network = rollback s.network m.peerID)
    (enrolling : t.enrollPhase = s.enrollPhase) (ids : t.nextID = s.nextID)
    (dead : t.pairPhase.live = none)
    (peer : ∀ q, t.pairPhase.peer = some q → q = m.peerID) : Coherent t := by
  have mine := Phase.peer_of_live live
  obtain ⟨body, stored⟩ := same_store store
  refine coherent_removed h (h.pairFree _ mine).1 body ?_ ?_ ?_ ?_ ids ?_ ?_ ?_
  · intro q m' found
    rwa [stored] at found
  · intro q _
    rw [stored]
  · exact fun q m' found => rollback_member_sub network found
  · exact fun q other => rollback_member_other network other
  · grind
  · grind
  · grind

variable {c : Completion}

theorem coherent_enrollRollback (before : s.enrollPhase = some c) (store : t.store = s.store)
    (network : t.network = rollback s.network c.membership.peerID)
    (phase : t.pairPhase = s.pairPhase) (after : t.enrollPhase = none)
    (ids : t.nextID = s.nextID) : Coherent t := by
  obtain ⟨body, stored⟩ := same_store store
  refine coherent_removed h (h.prepared c before).unreferenced body ?_ ?_ ?_ ?_ ids ?_ ?_ ?_
  · intro q m' found
    rwa [stored] at found
  · intro q _
    rw [stored]
  · exact fun q m' found => rollback_member_sub network found
  · exact fun q other => rollback_member_other network other
  · intro q found
    rwa [phase] at found
  · grind [Phase.peer_of_live]
  · grind

theorem coherent_deleted (before : s.pairPhase = .undone i p) (phase : t.pairPhase = .idle)
    (store : t.store = s.store.deleteMembership p) (network : t.network = s.network)
    (enrolling : t.enrollPhase = s.enrollPhase) (ids : t.nextID = s.nextID) : Coherent t := by
  have mine : s.pairPhase.peer = some p := by rw [before]; rfl
  have body : t.body = s.body := by
    unfold State.body
    rw [store]
    rfl
  have member := same_network network
  have stored : ∀ q, t.stored q = if q = p then none else s.stored q := by
    intro q
    unfold State.stored
    rw [store]
    exact GoMap.lookup_erase_ite _ _ _
  refine coherent_removed h (h.pairFree _ mine).1 body ?_ ?_ ?_ ?_ ids ?_ ?_ ?_
  · grind
  · intro q other
    rw [stored, if_neg other]
  · intro q m found
    rwa [member] at found
  · intro q _
    rw [member]
  · intro q found
    rw [phase] at found
    cases found
  · intro m found
    rw [phase] at found
    cases found
  · grind

theorem coherent_enrollAdmitted (store : t.store = s.store)
    (phase : t.pairPhase = s.pairPhase) (enrolling : t.enrollPhase = some c)
    (network : ∀ q, t.member q =
      if q = c.membership.peerID then some c.membership else s.member q)
    (drawn : c.body.bodyID = s.nextID) (named : c.membership.bodyID = s.nextID)
    (reference : c.body.membershipRef = c.membership.peerID)
    (unrevoked : c.body.revokedAt = none) (peer : c.membership.peerID = s.nextID + 1)
    (ids : t.nextID = s.nextID + 2) : Coherent t := by
  obtain ⟨body, stored⟩ := same_store store
  have later : s.nextID ≤ t.nextID := by omega
  have old : ∀ q : Nat, q < s.nextID → q ≠ c.membership.peerID := by grind
  have other : ∀ q, q < s.nextID → t.member q = s.member q := by
    intro q bound
    rw [network, if_neg (old q bound)]
  have uncredited : s.body s.nextID = none := by
    cases found : s.body s.nextID with
    | none => rfl
    | some r => exact absurd (h.drawn found).1 (lt_irrefl _)
  have unreferenced : Unreferenced t c.membership.peerID := by
    intro b r found
    rw [body] at found
    exact old _ (h.drawn found).2
  constructor
  case stores =>
    rw [body, stored]
    exact h.stores
  case holds =>
    intro b r found
    rw [body] at found
    rw [other _ (h.drawn found).2]
    exact h.holds b r found
  case stored =>
    intro p m found
    rw [stored] at found
    exact (h.stored p m found).mono later (by rw [body])
  case member =>
    intro p m found
    rw [network] at found
    split at found
    · rename_i same
      cases found
      refine ⟨same.symm, ?_, ?_, ?_⟩
      · rw [same, peer, ids]
        exact Nat.lt_succ_self _
      · rw [named, ids]
        exact Nat.lt_add_of_pos_right (by decide)
      · intro r credited
        rw [body, named, uncredited] at credited
        cases credited
    · exact (h.member p m found).mono later (by rw [body])
  case pairFree =>
    intro p found
    rw [phase] at found
    obtain ⟨free, bound⟩ := h.pairFree p found
    rw [Unreferenced, body]
    exact ⟨free, lt_of_lt_of_le bound later⟩
  case pairLive =>
    intro m found
    rw [phase] at found
    have bound := (h.pairFree _ (Phase.peer_of_live found)).2
    rw [other _ bound, body]
    exact h.pairLive m found
  case prepared =>
    intro c' found
    rw [enrolling] at found
    cases found
    refine ⟨?_, unreferenced, named.trans drawn.symm, reference, unrevoked, ?_, ?_⟩
    · rw [network, if_pos rfl]
    · intro q m saved same
      rw [stored] at saved
      have bound := (h.stored q m saved).name
      rw [same, drawn] at bound
      exact lt_irrefl _ bound
    · grind [Owned]
  case apart => grind

theorem coherent_committed (phase : t.pairPhase = s.pairPhase) (before : s.enrollPhase = some c)
    (after : t.enrollPhase = none) (store : s.store.complete c = .ok t.store)
    (network : t.network = s.network) (ids : t.nextID = s.nextID) : Coherent t := by
  have ready := h.prepared c before
  obtain ⟨_, _, _, _, _, _, _⟩ := Store.complete_ok store
  have body : ∀ b, t.body b = if b = c.body.bodyID then some c.body else s.body b := by
    grind [State.body]
  have stored : ∀ q, t.stored q =
      if q = c.membership.peerID then some c.membership else s.stored q := by
    grind [State.stored]
  have member := same_network network
  constructor
  case stores => grind
  case holds =>
    intro b r found
    rw [member]
    rw [body] at found
    split at found
    · grind
    · exact h.holds b r found
  case stored => grind [Owned]
  case member =>
    intro p m found
    rw [member] at found
    have owned := h.member p m found
    refine ⟨owned.key, by rw [ids]; exact owned.peer, by rw [ids]; exact owned.name, ?_⟩
    intro r credited
    rw [body] at credited
    split at credited
    · grind
    · exact owned.owner r credited
  case pairFree => grind [Unreferenced]
  case pairLive =>
    intro m found
    rw [phase] at found
    obtain ⟨held, uncredited⟩ := h.pairLive m found
    have other : m.bodyID ≠ c.body.bodyID := by
      intro same
      exact h.apart _ c (Phase.peer_of_live found) before (ready.single _ m held same)
    rw [member, body, if_neg other]
    exact ⟨held, uncredited⟩
  case prepared => grind
  case apart => grind

/-! ## The step lemma -/

theorem step_coherent (effect : Effect s a es t) : Coherent t := by
  cases effect with
  | quiet members phase _ ids _ =>
    exact coherent_frame h members.body members.stored members.member members.enrolling ids
      (.inl phase)
  | discarded i members _ phase _ ids _ | paired i m members _ phase _ ids _ =>
    exact coherent_frame h members.body members.stored members.member members.enrolling
      (le_of_eq ids.symm) (.inr phase)
  | pairAdmitted i m store enrolling _ phase unknown network fresh body ids _ =>
    exact coherent_pairAdmitted h store enrolling phase unknown network fresh body ids
  | saved i m before phase store network enrolling ids _ =>
    exact coherent_saved h before phase store network enrolling ids
  | unsaved i m before phase store network enrolling ids _ =>
    refine coherent_pairRollback h (m := m) ?_ store network enrolling ids ?_ ?_
    · rw [before]
      rfl
    · rw [phase]
      rfl
    · rw [phase]
      exact nofun
  | withdrawn i m before phase store network enrolling ids _ =>
    refine coherent_pairRollback h (m := m) ?_ store network enrolling ids ?_ ?_
    · rw [before]
      rfl
    · rw [phase]
      rfl
    · rw [phase]
      exact fun q found => (Option.some.inj found).symm
  | deleted i p before phase store network enrolling ids _ =>
    exact coherent_deleted h before phase store network enrolling ids
  | leaked i p _ _ phase store network enrolling ids _ =>
    grind [same_store, coherent_frame, member]
  | enrollAdmitted c store phase _ enrolling network body named reference unrevoked peer ids _ =>
    exact coherent_enrollAdmitted h store phase enrolling network body named reference
      unrevoked peer ids
  | committed c phase before enrolling store network ids _ =>
    exact coherent_committed h phase before enrolling store network ids
  | enrollWithdrawn c phase before enrolling store network ids _ =>
    exact coherent_enrollRollback h before store network phase enrolling ids

theorem step_keeps_body (effect : Effect s a es t) (found : s.body b = some r) :
    t.body b = some r ∧ t.member r.membershipRef = s.member r.membershipRef := by
  obtain ⟨_, peer⟩ := h.drawn found
  cases effect with
  | quiet members _ _ _ _ | discarded i members _ _ _ _ _ | paired i m members _ _ _ _ _ =>
    rw [members.body, members.member]; exact ⟨found, rfl⟩
  | pairAdmitted i m store _ _ _ _ network fresh _ _ _ =>
    rw [(same_store store).1]
    refine ⟨found, (network _).trans (if_neg ?_)⟩
    exact ne_of_lt (lt_of_lt_of_le peer fresh)
  | saved i m _ _ store network _ _ _ | deleted i p _ _ store network _ _ _ =>
    refine ⟨?_, by rw [same_network network]⟩
    rw [body, store]
    exact found
  | unsaved i m before _ store network _ _ _ | withdrawn i m before _ store network _ _ _ =>
    rw [(same_store store).1]
    refine ⟨found, rollback_member_other network ?_⟩
    exact (h.pairFree m.peerID (by rw [before]; rfl)).1 b r found
  | leaked i p _ _ _ store network _ _ _ =>
    rw [(same_store store).1]
    exact ⟨found, by rw [same_network network]⟩
  | enrollAdmitted c store _ _ _ network _ _ _ _ drawn _ _ =>
    rw [(same_store store).1]
    refine ⟨found, (network _).trans (if_neg ?_)⟩
    rw [drawn]
    exact ne_of_lt (Nat.lt_succ_of_lt peer)
  | committed c _ _ _ store network _ _ =>
    obtain ⟨_, _, _, _, _, bodies, _⟩ := Store.complete_ok store
    refine ⟨?_, by rw [same_network network]⟩
    have other : b ≠ c.body.bodyID := by grind
    rw [body, bodies, GoMap.lookup_insert_ite, if_neg other]
    exact found
  | enrollWithdrawn c _ before _ store network _ _ =>
    rw [(same_store store).1]
    exact ⟨found, rollback_member_other network ((h.prepared c before).unreferenced b r found)⟩

/-! ## Changes from outside of admission -/

/-- The credential of a Body and the memberships it names are marked, in the store or in
memory, and keep their identities. -/
theorem coherent_marked
    (found : s.body b = some r) (body : ∀ x, t.body x = if x = b then some r' else s.body x)
    (ref : r'.membershipRef = r.membershipRef)
    (stored : ∀ q, t.stored q = if q = r.membershipRef then some m else s.stored q)
    (member : ∀ q, t.member q = if q = r.membershipRef then some n else s.member q)
    (mine : m.bodyID = b ∧ m.peerID = r.membershipRef)
    (mine' : n.bodyID = b ∧ n.peerID = r.membershipRef)
    (revoked : r'.revokedAt.isSome → m.status = .revoked) (ids : t.nextID = s.nextID)
    (phase : t.pairPhase = s.pairPhase) (enrolling : t.enrollPhase = s.enrollPhase) :
    Coherent t := by
  obtain ⟨_, _⟩ := h.drawn found
  -- A credential that names the same membership belongs to the same Body.
  have unreferenced : ∀ p, Unreferenced s p → Unreferenced t p := by grind [Unreferenced]
  have owned : ∀ p m₀, Owned s p m₀ → Owned t p m₀ := by grind [Owned]
  have mark : ∀ m₀ : Membership, m₀.bodyID = b ∧ m₀.peerID = r.membershipRef →
      Owned t r.membershipRef m₀ := by grind [Owned]
  have prepared : ∀ c, s.enrollPhase = some c → c.body.bodyID ≠ b := by grind
  constructor
  case stores => grind
  case holds => grind
  case stored => grind
  case member => grind
  case pairFree => grind
  case pairLive => grind
  case prepared => grind
  case apart => grind

theorem coherent_reloaded (store : t.store = s.store)
    (member : t.member = s.stored) (ids : t.nextID = s.nextID) (phase : t.pairPhase = .idle)
    (enrolling : t.enrollPhase = none) : Coherent t := by
  obtain ⟨body, stored⟩ := same_store store
  constructor
  case stores =>
    rw [body, stored]
    exact h.stores
  case holds =>
    intro b r found
    rw [body] at found
    obtain ⟨m, saved, same, _⟩ := h.stores b r found
    rw [member]
    exact ⟨m, saved, same⟩
  case stored =>
    intro p m found
    rw [stored] at found
    exact (h.stored p m found).mono (le_of_eq ids.symm) (by rw [body])
  case member =>
    intro p m found
    rw [member] at found
    exact (h.stored p m found).mono (le_of_eq ids.symm) (by rw [body])
  case pairFree =>
    rw [phase]
    exact nofun
  case pairLive =>
    rw [phase]
    exact nofun
  case prepared =>
    rw [enrolling]
    exact nofun
  case apart =>
    rw [phase]
    exact nofun

end

end NeonDoll.Enrollment
