import NeonDoll.Enrollment.Coherence

/-!
# An invitation admits at most one Body

Pairing saves its membership before it consumes the invitation and deletes it again when the
consumption fails; enrollment consumes and saves in one transaction.  As long as the deletion
succeeds, a membership that outlives its call has been paid for with the invitation, and the
conditional update pays only once.
-/

namespace NeonDoll.Enrollment

open Lib Persistence Transition List AList Store State

def Present (s : State) (p : PeerID) : Prop := s.stored p ≠ none ∨ s.member p ≠ none

/-- The invitation and the peer that a pairing call works on. -/
def Phase.claim : Phase → Option (InvitationID × PeerID)
  | .idle => none
  | .unsaved i m | .saved i m => some (i, m.peerID)
  | .undone i p => some (i, p)

/-- A call in progress is still responsible for the membership. -/
def InProgress (s : State) (i : InvitationID) (p : PeerID) : Prop :=
  s.pairPhase.claim = some (i, p) ∨
    ∃ c, s.enrollPhase = some c ∧ c.pending.invitationID = i ∧ c.membership.peerID = p

/-- The membership is there although no call works on it any more. -/
def Survives (s : State) (i : InvitationID) (p : PeerID) : Prop :=
  Present s p ∧ ¬ InProgress s i p

/-- The deletion that undoes a pairing does not fail. -/
def rollbackSucceeds (s : State) (a : Action) : Prop :=
  match s.pairing, a with
  | some (.deleting _ _), .pairStep ok => ok = true
  | _, _ => True

instance (s : State) (a : Action) : Decidable (rollbackSucceeds s a) := by
  unfold rollbackSucceeds
  split <;> infer_instance

/-- The tables agree with what the calls have reported. -/
@[grind] structure Accounted (trace : List Event) (s : State) : Prop where
  drawn : ∀ i p, .created i p ∈ trace → p < s.nextID
  spent : ∀ i p, i ≠ 0 → .consumed i p ∈ trace →
    ∃ inv, s.store.invitations.lookup i = some inv ∧ inv.consumed = true
  once : ∀ i p q, i ≠ 0 → .consumed i p ∈ trace → .consumed i q ∈ trace → p = q
  paid : ∀ i p, i ≠ 0 → .created i p ∈ trace → Present s p →
    .consumed i p ∈ trace ∨ InProgress s i p
  unsaved : ∀ i m, s.pairPhase = .unsaved i m → s.stored m.peerID = none
  undone : ∀ i p, s.pairPhase = .undone i p → s.member p = none
  prepared : ∀ c, s.enrollPhase = some c → s.stored c.membership.peerID = none

theorem accounted_init : Accounted [] (State.init cfg) := by
  constructor
  case drawn => exact nofun
  case spent => exact nofun
  case once => exact nofun
  case paid => exact nofun
  case unsaved => exact nofun
  case undone => exact nofun
  case prepared => exact nofun

variable {s t : State} {past es : List Event}

/-! ## Reports -/

variable {i : InvitationID}

theorem created_of_plain (plain : ∀ e ∈ es, e.plain)
    (found : .created i p ∈ past ++ es) : .created i p ∈ past := by
  rcases mem_append.mp found with old | new
  · exact old
  · cases plain _ new

theorem consumed_of_plain (plain : ∀ e ∈ es, e.plain)
    (found : .consumed i p ∈ past ++ es) : .consumed i p ∈ past := by
  rcases mem_append.mp found with old | new
  · exact old
  · cases plain _ new

@[grind] def KeepsSpent (s t : State) : Prop :=
  ∀ i inv, s.store.invitations.lookup i = some inv → inv.consumed = true →
    t.store.invitations.lookup i = some inv

theorem keepsSpent_of_store (same : t.store.invitations = s.store.invitations) :
    KeepsSpent s t := by
  intro i inv found _
  rw [same]
  exact found

theorem keepsSpent_of_consume
    (done : s.store.consumeInvitation i = some t.store) : KeepsSpent s t := by
  obtain ⟨_, _, _, eq⟩ := consumeInvitation_ok done
  intro j inv' there spent
  rw [eq]
  have other : j ≠ i := by grind
  exact (lookup_insert_ne other).trans there

/-- What the phases of the calls say of the tables. -/
structure Phases (t : State) : Prop where
  unsaved : ∀ i m, t.pairPhase = .unsaved i m → t.stored m.peerID = none
  undone : ∀ i p, t.pairPhase = .undone i p → t.member p = none
  prepared : ∀ c, t.enrollPhase = some c → t.stored c.membership.peerID = none

theorem Accounted.plain (h : Accounted past s) (plain : ∀ e ∈ es, e.plain)
    (ids : s.nextID ≤ t.nextID) (spent : KeepsSpent s t)
    (paid : ∀ i p, Present t p → Present s p ∧ (InProgress s i p → InProgress t i p))
    (phases : Phases t) : Accounted (past ++ es) t := by
  constructor
  case drawn =>
    intro i p found
    exact lt_of_lt_of_le (h.drawn i p (created_of_plain plain found)) ids
  case spent => grind [consumed_of_plain]
  case once =>
    intro i p q named first second
    exact h.once i p q named (consumed_of_plain plain first) (consumed_of_plain plain second)
  case paid =>
    intro i p named found present
    obtain ⟨before, progress⟩ := paid i p present
    rcases h.paid i p named (created_of_plain plain found) before with done | going
    · exact .inl (mem_append_left _ done)
    · exact .inr (progress going)
  case unsaved => exact phases.unsaved
  case undone => exact phases.undone
  case prepared => exact phases.prepared

theorem Accounted.created (h : Accounted past s)
    (fresh : s.nextID ≤ p) (ids : p < t.nextID) (spent : KeepsSpent s t) (mine : InProgress t i p)
    (paid : ∀ j q, q ≠ p → Present t q → Present s q ∧ (InProgress s j q → InProgress t j q))
    (phases : Phases t) : Accounted (past ++ [.created i p]) t := by
  have old : ∀ j q, .consumed j q ∈ past ++ [Event.created i p] → .consumed j q ∈ past := by simp
  constructor
  case drawn => grind
  case spent => grind
  case once =>
    intro j q q' named first second
    exact h.once j q q' named (old j q first) (old j q' second)
  case paid =>
    intro j q named found present
    rcases List.mem_append.mp found with before | now
    · have other : q ≠ p := ne_of_lt (lt_of_lt_of_le (h.drawn j q before) fresh)
      obtain ⟨there, progress⟩ := paid j q other present
      rcases h.paid j q named before there with done | going
      · exact .inl (List.mem_append_left _ done)
      · exact .inr (progress going)
    · cases List.mem_singleton.mp now
      exact .inr mine
  case unsaved => exact phases.unsaved
  case undone => exact phases.undone
  case prepared => exact phases.prepared

def Spends (s t : State) (i : InvitationID) : Prop :=
  ∃ inv, s.store.invitations.lookup i = some inv ∧ inv.consumed = false ∧
    t.store.invitations.lookup i = some { inv with consumed := true }

theorem spends_of_consume (done : s.store.consumeInvitation i = some t.store) : Spends s t i := by
  obtain ⟨inv, found, unspent, eq⟩ := consumeInvitation_ok done
  refine ⟨inv, found, unspent, ?_⟩
  rw [eq]
  exact lookup_insert _

/-- A step that consumes the invitation `i` for the peer `p`, whose call ends with it. -/
theorem Accounted.consumed (h : Accounted past s)
    (plain : e.plain) (ids : t.nextID = s.nextID) (done : i ≠ 0 → Spends s t i)
    (spent : KeepsSpent s t) (paid : ∀ j q, Present t q →
      Present s q ∧ (InProgress s j q → InProgress t j q ∨ j = i ∧ q = p)) (phases : Phases t) :
    Accounted (past ++ [.consumed i p, e]) t := by
  have created : ∀ j q, .created j q ∈ past ++ [.consumed i p, e] → .created j q ∈ past := by
    intro j q found
    rcases mem_append.mp found with before | now
    · exact before
    rcases mem_pair.mp now with same | same
    · cases same
    · rw [← same] at plain
      cases plain
  have consumed : ∀ j q, .consumed j q ∈ past ++ [.consumed i p, e] →
      .consumed j q ∈ past ∨ j = i ∧ q = p := by
    intro j q found
    rcases mem_append.mp found with before | now
    · exact .inl before
    rcases mem_pair.mp now with same | same
    · cases same
      exact .inr ⟨rfl, rfl⟩
    · rw [← same] at plain
      cases plain
  -- The conditional update has found the invitation unspent, so nobody has paid with it before.
  have first : i ≠ 0 → ∀ q, .consumed i q ∉ past := by grind [Spends]
  constructor
  case drawn => grind
  case spent => grind [Spends]
  case once => grind
  case paid =>
    intro j q named found present
    obtain ⟨there, _⟩ := paid j q present
    rcases h.paid j q named (created j q found) there with earlier | _
    · exact .inl (mem_append_left _ earlier)
    · grind
  case unsaved => exact phases.unsaved
  case undone => exact phases.undone
  case prepared => exact phases.prepared

/-! ## The step lemma -/

theorem paid_same (stored : t.stored = s.stored) (member : t.member = s.member)
    (phase : t.pairPhase = s.pairPhase) (enrolling : t.enrollPhase = s.enrollPhase)
    (i : InvitationID) (p : PeerID) (present : Present t p) :
    Present s p ∧ (InProgress s i p → InProgress t i p) := by
  rw [Present, stored, member] at present
  refine ⟨present, ?_⟩
  rw [InProgress, InProgress, phase, enrolling]
  exact id

theorem paid_released (claim : s.pairPhase.claim = some (i, p))
    (gone : ¬ Present t p) (stored : ∀ q, t.stored q ≠ none → s.stored q ≠ none)
    (member : ∀ q, t.member q ≠ none → s.member q ≠ none)
    (enrolling : t.enrollPhase = s.enrollPhase) (j : InvitationID) (q : PeerID)
    (present : Present t q) : Present s q ∧ (InProgress s j q → InProgress t j q) := by
  grind [Present, InProgress]

theorem stored_undrawn (coherent : Coherent s) (late : s.nextID ≤ p) : s.stored p = none := by
  cases found : s.stored p with
  | none => rfl
  | some m => exact absurd (coherent.stored p m found).peer (Nat.not_lt.mpr late)

theorem rollback_member_ne (network : t.network = rollback s.network p)
    (inMemory : t.member q ≠ none) : s.member q ≠ none := by
  intro absent
  cases found : t.member q with
  | none => exact inMemory found
  | some m =>
    rw [rollback_member_sub network found] at absent
    cases absent

variable {m : Membership}

theorem accounted_pairAdmitted (coherent : Coherent s) (h : Accounted past s)
    (store : t.store = s.store) (enrolling : t.enrollPhase = s.enrollPhase)
    (before : s.pairPhase = .idle) (phase : t.pairPhase = .unsaved i m)
    (network : ∀ q, t.member q = if q = m.peerID then some m else s.member q)
    (fresh : s.nextID ≤ m.peerID) (ids : m.peerID < t.nextID) :
    Accounted (past ++ [.created i m.peerID]) t := by
  obtain ⟨_, stored⟩ := same_store store
  refine h.created fresh ids (keepsSpent_of_store (by rw [store])) ?_ ?_ ⟨?_, ?_, ?_⟩
  · rw [InProgress, phase]
    exact .inl rfl
  · intro j q other present
    have member : t.member q = s.member q := (network q).trans (if_neg other)
    rw [Present, stored, member] at present
    refine ⟨present, ?_⟩
    rintro (mine | going)
    · rw [before] at mine
      cases mine
    · rw [InProgress, enrolling]
      exact .inr going
  · rw [phase, stored]
    rintro j _ same
    cases same
    exact stored_undrawn coherent fresh
  · rw [phase]
    exact nofun
  · rw [enrolling, stored]
    exact h.prepared

theorem accounted_saved (coherent : Coherent s) (h : Accounted past s)
    (before : s.pairPhase = .unsaved i m) (phase : t.pairPhase = .saved i m)
    (store : t.store = s.store.saveMembership m) (network : t.network = s.network)
    (enrolling : t.enrollPhase = s.enrollPhase) (ids : t.nextID = s.nextID) :
    Accounted (past ++ []) t := by
  have mine : s.pairPhase.peer = some m.peerID := by rw [before]; rfl
  have held := (coherent.pairLive m (by rw [before]; rfl)).1
  have member : t.member = s.member := by unfold State.member; rw [network]
  have stored : ∀ q, t.stored q = if q = m.peerID then some m else s.stored q := by
    intro q
    unfold State.stored
    rw [store]
    exact GoMap.lookup_insert_ite _ _ _ _
  refine h.plain (by simp) (le_of_eq ids.symm) (keepsSpent_of_store (by rw [store]; rfl))
    ?_ ⟨?_, ?_, ?_⟩
  · intro j q present
    rw [Present, member, stored] at present
    refine ⟨?_, ?_⟩
    · grind [Present]
    · rw [InProgress, InProgress, phase, before, enrolling]
      exact id
  · rw [phase]
    simp
  · rw [phase]
    simp
  · grind

theorem accounted_unsaved (h : Accounted past s)
    (before : s.pairPhase = .unsaved i m) (phase : t.pairPhase = .idle)
    (store : t.store = s.store) (network : t.network = rollback s.network m.peerID)
    (enrolling : t.enrollPhase = s.enrollPhase) (ids : t.nextID = s.nextID)
    (plain : ∀ e ∈ es, e.plain) : Accounted (past ++ es) t := by
  obtain ⟨_, stored⟩ := same_store store
  have gone : ¬ Present t m.peerID := by
    rintro (inStore | inMemory)
    · rw [stored] at inStore
      exact inStore (h.unsaved i m before)
    · rw [member, network, rollback_lookup, if_pos rfl] at inMemory
      exact inMemory rfl
  refine h.plain plain (le_of_eq ids.symm) (keepsSpent_of_store (by rw [store]))
    (paid_released (by rw [before]; rfl) gone ?_ ?_ enrolling) ⟨?_, ?_, ?_⟩
  · exact fun q => by rw [stored]; exact id
  · exact fun q => rollback_member_ne network
  · rw [phase]
    simp
  · rw [phase]
    simp
  · rw [enrolling, stored]
    exact h.prepared

theorem accounted_withdrawn (h : Accounted past s)
    (before : s.pairPhase = .saved i m) (phase : t.pairPhase = .undone i m.peerID)
    (store : t.store = s.store) (network : t.network = rollback s.network m.peerID)
    (enrolling : t.enrollPhase = s.enrollPhase) (ids : t.nextID = s.nextID) :
    Accounted (past ++ []) t := by
  obtain ⟨_, stored⟩ := same_store store
  refine h.plain (by simp) (le_of_eq ids.symm) (keepsSpent_of_store (by rw [store]))
    ?_ ⟨?_, ?_, ?_⟩
  · intro j q present
    refine ⟨?_, ?_⟩
    · rcases present with inStore | inMemory
      · rw [stored] at inStore
        exact .inl inStore
      · exact .inr (rollback_member_ne network inMemory)
    · rw [InProgress, InProgress, phase, before, enrolling]
      exact id
  · rw [phase]
    exact nofun
  · grind [rollback_lookup, member]
  · rw [enrolling, stored]
    exact h.prepared

theorem accounted_paired (h : Accounted past s)
    (members : SameMembers s t) (before : s.pairPhase = .saved i m)
    (phase : t.pairPhase = .idle) (consumed : s.store.consumeInvitation i = some t.store)
    (ids : t.nextID = s.nextID) :
    Accounted (past ++ [.consumed i m.peerID, .paired m.peerID]) t := by
  refine h.consumed rfl ids (fun _ => spends_of_consume consumed)
    (keepsSpent_of_consume consumed) ?_ ⟨?_, ?_, ?_⟩
  · intro j q present
    rw [Present, members.stored, members.member] at present
    refine ⟨present, ?_⟩
    rintro (mine | going)
    · rw [before] at mine
      cases mine
      exact .inr ⟨rfl, rfl⟩
    · rw [InProgress, members.enrolling]
      exact .inl (.inr going)
  · rw [phase]
    exact nofun
  · rw [phase]
    exact nofun
  · rw [members.enrolling, members.stored]
    exact h.prepared

theorem accounted_deleted (h : Accounted past s)
    (before : s.pairPhase = .undone i p) (phase : t.pairPhase = .idle)
    (store : t.store = s.store.deleteMembership p) (network : t.network = s.network)
    (enrolling : t.enrollPhase = s.enrollPhase) (ids : t.nextID = s.nextID)
    (plain : ∀ e ∈ es, e.plain) : Accounted (past ++ es) t := by
  have member : t.member = s.member := by unfold State.member; rw [network]
  have stored : ∀ q, t.stored q = if q = p then none else s.stored q := by
    intro q
    unfold State.stored
    rw [store]
    exact GoMap.lookup_erase_ite _ _ _
  have gone : ¬ Present t p := by
    rintro (inStore | inMemory)
    · rw [stored, if_pos rfl] at inStore
      exact inStore rfl
    · rw [member] at inMemory
      exact inMemory (h.undone i p before)
  refine h.plain plain (le_of_eq ids.symm) (keepsSpent_of_store (by rw [store]; rfl))
    (paid_released (by rw [before]; rfl) gone ?_ ?_ enrolling) ⟨?_, ?_, ?_⟩
  · grind
  · exact fun q => by rw [member]; exact id
  · rw [phase]
    simp
  · rw [phase]
    simp
  · grind

variable {c : Completion}

theorem accounted_enrollAdmitted (coherent : Coherent s) (h : Accounted past s)
    (store : t.store = s.store) (phase : t.pairPhase = s.pairPhase)
    (before : s.enrollPhase = none) (enrolling : t.enrollPhase = some c)
    (network : ∀ q, t.member q =
      if q = c.membership.peerID then some c.membership else s.member q)
    (peer : c.membership.peerID = s.nextID + 1) (ids : t.nextID = s.nextID + 2) :
    Accounted (past ++ [.created c.pending.invitationID c.membership.peerID]) t := by
  obtain ⟨_, stored⟩ := same_store store
  have fresh : s.nextID ≤ c.membership.peerID := by
    rw [peer]
    exact Nat.le_succ _
  refine h.created fresh ?_ (keepsSpent_of_store (by rw [store])) ?_ ?_ ⟨?_, ?_, ?_⟩
  · rw [peer, ids]
    exact Nat.lt_succ_self _
  · exact .inr ⟨c, enrolling, rfl, rfl⟩
  · intro j q other present
    have member : t.member q = s.member q := (network q).trans (if_neg other)
    rw [Present, stored, member] at present
    refine ⟨present, ?_⟩
    rintro (mine | ⟨c', going, _⟩)
    · rw [InProgress, phase]
      exact .inl mine
    · rw [before] at going
      cases going
  · rw [phase, stored]
    exact h.unsaved
  · intro j q undone
    rw [phase] at undone
    have old := (coherent.pairFree q (by rw [undone]; rfl)).2
    refine ((network q).trans (if_neg ?_)).trans (h.undone j q undone)
    exact ne_of_lt (lt_of_lt_of_le old fresh)
  · intro c' found
    rw [enrolling] at found
    cases found
    rw [stored]
    exact stored_undrawn coherent fresh

theorem accounted_committed (coherent : Coherent s) (h : Accounted past s)
    (phase : t.pairPhase = s.pairPhase) (before : s.enrollPhase = some c)
    (enrolling : t.enrollPhase = none) (store : s.store.complete c = .ok t.store)
    (network : t.network = s.network) (ids : t.nextID = s.nextID) :
    Accounted (past ++ [.consumed c.pending.invitationID c.membership.peerID,
      .enrolled c.receipt]) t := by
  obtain ⟨base, consumed, invitations, _, _, _, _⟩ := complete_ok store
  have member : t.member = s.member := by unfold State.member; rw [network]
  have stored : ∀ q, t.stored q =
      if q = c.membership.peerID then some c.membership else s.stored q := by grind [State.stored]
  have spends : c.pending.invitationID ≠ 0 → Spends s t c.pending.invitationID := by
    intro named
    rw [consumeFor, if_neg named] at consumed
    obtain ⟨inv, found, unspent, eq⟩ := consumeInvitation_ok consumed
    refine ⟨inv, found, unspent, ?_⟩
    rw [invitations, eq]
    exact lookup_insert _
  have keeps : KeepsSpent s t := by
    intro j inv there spent
    rw [invitations]
    rw [consumeFor] at consumed
    split at consumed
    · cases consumed
      exact there
    · exact keepsSpent_of_consume (t := { s with store := base }) consumed j inv there spent
  refine h.consumed rfl ids spends keeps ?_ ⟨?_, ?_, ?_⟩
  · intro j q present
    rw [Present, member, stored] at present
    refine ⟨?_, ?_⟩
    · grind [Present]
    · grind [InProgress]
  · intro j m unsaved
    rw [phase] at unsaved
    have other := coherent.apart m.peerID c (by rw [unsaved]; rfl) before
    rw [stored, if_neg other]
    exact h.unsaved j m unsaved
  · rw [phase, member]
    exact h.undone
  · rw [enrolling]
    simp

theorem accounted_enrollWithdrawn (h : Accounted past s)
    (phase : t.pairPhase = s.pairPhase) (before : s.enrollPhase = some c)
    (enrolling : t.enrollPhase = none) (store : t.store = s.store)
    (network : t.network = rollback s.network c.membership.peerID)
    (ids : t.nextID = s.nextID) : Accounted (past ++ []) t := by
  obtain ⟨_, stored⟩ := same_store store
  refine h.plain (by simp) (le_of_eq ids.symm) (keepsSpent_of_store (by rw [store]))
    ?_ ⟨?_, ?_, ?_⟩
  · intro j q present
    have other : q ≠ c.membership.peerID := by
      rintro rfl
      rcases present with inStore | inMemory
      · rw [stored] at inStore
        exact inStore (h.prepared c before)
      · rw [member, network, rollback_lookup, if_pos rfl] at inMemory
        exact inMemory rfl
    rw [Present, stored, rollback_member_other network other] at present
    refine ⟨present, ?_⟩
    rintro (mine | ⟨_, _, _, rfl⟩)
    · rw [InProgress, phase]
      exact .inl mine
    · grind
  · rw [phase, stored]
    exact h.unsaved
  · grind [rollback_lookup, member]
  · rw [enrolling]
    simp

theorem step_accounted (coherent : Coherent s) (h : Accounted past s)
    (admitted : rollbackSucceeds s a) (effect : Effect s a es t) : Accounted (past ++ es) t := by
  cases effect with
  | quiet members phase invitations ids plain =>
    refine h.plain plain ids (fun i inv found _ => invitations i inv found)
      (paid_same members.stored members.member phase members.enrolling) ⟨?_, ?_, ?_⟩
    · rw [phase, members.stored]
      exact h.unsaved
    · rw [phase, members.member]
      exact h.undone
    · rw [members.enrolling, members.stored]
      exact h.prepared
  | discarded i members before phase consumed ids plain =>
    refine h.plain plain (le_of_eq ids.symm) (keepsSpent_of_consume consumed)
      (paid_same members.stored members.member (phase.trans before.symm) members.enrolling)
      ⟨?_, ?_, ?_⟩
    · rw [phase]
      exact nofun
    · rw [phase]
      exact nofun
    · rw [members.enrolling, members.stored]
      exact h.prepared
  | pairAdmitted i m store enrolling before phase _ network fresh _ ids events =>
    subst events
    exact accounted_pairAdmitted coherent h store enrolling before phase network fresh ids
  | saved i m before phase store network enrolling ids events =>
    subst events
    exact accounted_saved coherent h before phase store network enrolling ids
  | unsaved i m before phase store network enrolling ids plain =>
    exact accounted_unsaved h before phase store network enrolling ids plain
  | withdrawn i m before phase store network enrolling ids events =>
    subst events
    exact accounted_withdrawn h before phase store network enrolling ids
  | paired i m members before phase consumed ids events =>
    subst events
    exact accounted_paired h members before phase consumed ids
  | deleted i p before phase store network enrolling ids plain =>
    exact accounted_deleted h before phase store network enrolling ids plain
  | leaked i p failed deleting =>
    unfold rollbackSucceeds at admitted
    rw [deleting, failed] at admitted
    cases admitted
  | enrollAdmitted c store phase before enrolling network _ _ _ _ peer ids events =>
    subst events
    exact accounted_enrollAdmitted coherent h store phase before enrolling network peer ids
  | committed c phase before enrolling store network ids events =>
    subst events
    exact accounted_committed coherent h phase before enrolling store network ids
  | enrollWithdrawn c phase before enrolling store network ids events =>
    subst events
    exact accounted_enrollWithdrawn h phase before enrolling store network ids

/-! ## The result -/

theorem run_accounted (run : (system cfg).Run rollbackSucceeds (State.init cfg) trace s) :
    Coherent s ∧ Accounted trace s := by
  refine run.history (P := fun past x => Coherent x ∧ Accounted past x)
    ⟨coherent_init cfg, accounted_init⟩ ?_
  rintro x y a _ _ ⟨coherent, accounted⟩ admitted stepped
  have effect := step_effect stepped
  exact ⟨step_coherent coherent effect, step_accounted coherent accounted admitted effect⟩

/-- In every run in which no deletion of a failed pairing fails, two memberships created from
one invitation that outlive their calls are the same.  (The identifier `0` is the empty text,
which no invitation has.) -/
theorem invitation_admits_one (cfg : Config) {trace : List Event} {s : State}
    {i : InvitationID} {p q : PeerID}
    (run : (system cfg).Run rollbackSucceeds (State.init cfg) trace s) (named : i ≠ 0)
    (first : .created i p ∈ trace) (second : .created i q ∈ trace)
    (survives : Survives s i p) (survives' : Survives s i q) : p = q := by
  have accounted := (run_accounted run).2
  have paid : ∀ x, .created i x ∈ trace → Survives s i x → .consumed i x ∈ trace := by
    rintro x created ⟨present, ended⟩
    exact (accounted.paid i x named created present).resolve_right ended
  exact accounted.once i p q named (paid p first survives) (paid q second survives')

theorem survives_of_quiet (pairing : s.pairing = none)
    (enrolling : s.enrolling = none) (present : Present s p) : Survives s i p := by
  refine ⟨present, ?_⟩
  rintro (claim | ⟨c, prepared, _⟩)
  · rw [pairPhase, pairing] at claim
    cases claim
  · rw [enrollPhase, enrolling] at prepared
    cases prepared

/-- A pairing and a redemption of one invitation: the redemption commits between the
pairing's save and its consumption, which therefore fails and is undone. -/
def sampleRace : List Action :=
  [.invite 100 [], .pair ⟨1, 2, 10, some 20⟩, .pairStep true, .pairStep true, .pairStep true,
    .redeem (sampleRedeem 1 5)] ++ List.replicate 5 (.enrollStep true) ++
    List.replicate 3 (.pairStep true)

theorem invitation_admits_one_race :
    ∃ trace s, (system sampleConfig).Run rollbackSucceeds (State.init sampleConfig) trace s ∧
      .created 1 11 ∈ trace ∧ .created 1 13 ∈ trace ∧ Survives s 1 13 ∧
      ∀ q, .created 1 q ∈ trace → Survives s 1 q → q = 13 := by
  obtain ⟨trace, s, run, seen⟩ := System.replays?_run
    (show (system sampleConfig).replays? rollbackSucceeds sampleRace
      (fun trace s => decide (Event.created 1 11 ∈ trace ∧ Event.created 1 13 ∈ trace ∧
        s.pairing = none ∧ s.enrolling = none ∧ s.stored 13 ≠ none)) = true by decide)
  rw [decide_eq_true_iff] at seen
  obtain ⟨withdrawn, redeemed, pairing, enrolling, stored⟩ := seen
  have survives : Survives s 1 13 := survives_of_quiet pairing enrolling (.inl stored)
  refine ⟨trace, s, run, withdrawn, redeemed, survives, ?_⟩
  intro q created present
  exact invitation_admits_one sampleConfig run (by decide) created redeemed present survives

/-- The consumption of a first pairing fails and so does its deletion; the same invitation
then admits a second Body. -/
def sampleLeak : List Action :=
  [.invite 100 [], .pair ⟨1, 2, 10, some 20⟩, .pairStep true, .pairStep true, .pairStep true,
    .pairStep true, .pairStep false, .pairStep false, .pair ⟨1, 2, 20, some 30⟩] ++
    List.replicate 5 (.pairStep true)

theorem failed_rollback_admits_two :
    ∃ trace s, (system sampleConfig).Run free (State.init sampleConfig) trace s ∧
      s.pairing = none ∧ s.enrolling = none ∧
      .created 1 11 ∈ trace ∧ .created 1 21 ∈ trace ∧ Survives s 1 11 ∧ Survives s 1 21 ∧
      s.stored 11 ≠ none ∧ s.stored 21 ≠ none := by
  obtain ⟨trace, s, run, seen⟩ := System.replays?_run
    (show (system sampleConfig).replays? free sampleLeak
      (fun trace s => decide (s.pairing = none ∧ s.enrolling = none ∧
        Event.created 1 11 ∈ trace ∧ Event.created 1 21 ∈ trace ∧ s.stored 11 ≠ none ∧
        s.stored 21 ≠ none)) = true by decide)
  rw [decide_eq_true_iff] at seen
  obtain ⟨pairing, enrolling, one, two, stored, stored'⟩ := seen
  exact ⟨trace, s, run, pairing, enrolling, one, two,
    survives_of_quiet pairing enrolling (.inl stored),
    survives_of_quiet pairing enrolling (.inl stored'), stored, stored'⟩

end NeonDoll.Enrollment
