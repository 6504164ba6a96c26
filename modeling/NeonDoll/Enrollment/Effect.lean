import NeonDoll.Enrollment.Admission

/-!
# What an admission step can do

Every step of the admission system is one of a few effects on the invitations, the
credentials and the two membership tables.  Later files reason about effects and never about
the program counters of the calls.
-/

namespace NeonDoll.Enrollment

open Lib Persistence GoMap Nat Network State Event Store

/-! ## The in-memory admission -/

theorem rollback_lookup :
    (rollback n p).memberships.lookup q = if q = p then none else n.memberships.lookup q := by
  grind [rollback, removeMembership]

theorem addMember_cases (n : Network) (bodyID : BodyID) (peerID : PeerID)
    (key : WireGuardPublicKey) : (∃ e, addMember n bodyID peerID key = (n, .error (.creation e))) ∨
      n.ofBody bodyID = none ∧ ∃ n' m, addMember n bodyID peerID key = (n', .ok m) ∧
        m.bodyID = bodyID ∧ m.peerID = peerID ∧
        ∀ q, n'.memberships.lookup q =
          if q = peerID then some m else n.memberships.lookup q := by
  rw [addMember]
  split
  · rename_i e _
    exact .inl ⟨e, rfl⟩
  rename_i _ m made
  obtain ⟨_, unknown, _, rfl, rfl⟩ := newMembership_ok made
  refine .inr ⟨unknown, ?_⟩
  -- The membership has just been inserted as pending, so no later lookup misses it.
  simp only [setBodyWireGuardPublicKey, activateMembership,
    getMembership, AList.lookup_insert, reduceCtorEq, if_false]
  refine ⟨_, _, rfl, rfl, rfl, ?_⟩
  intro q
  rw [lookup_insert_ite, lookup_insert_ite, lookup_insert_ite]
  split
  all_goals rfl

/-! ## Phases -/

/-- How far the pairing call has come with a membership of its own. -/
inductive Phase where
  | idle
  /-- In memory only. -/
  | unsaved (id : InvitationID) (m : Membership)
  /-- In memory and in the store. -/
  | saved (id : InvitationID) (m : Membership)
  /-- Out of memory again, and about to be deleted from the store. -/
  | undone (id : InvitationID) (peerID : PeerID)
  deriving DecidableEq

def PairPc.phase : PairPc → Phase
  | .saving id m => .unsaved id m
  | .consuming id m | .consumingUpdate id m => .saved id m
  | .deleting id p => .undone id p
  | _ => .idle

def State.pairPhase (s : State) : Phase :=
  match s.pairing with
  | none => .idle
  | some pc => pc.phase

/-- The completion that the enrollment call is about to commit. -/
@[grind] def State.enrollPhase (s : State) : Option Completion :=
  match s.enrolling with
  | some (.committing c) => some c
  | _ => none

/-- Events that neither admit a Body nor use up an invitation for one. -/
def Event.plain : Event → Bool
  | .created .. | .consumed .. => false
  | _ => true

/-- The store tables other than the invitations and both membership tables are the same. -/
structure SameMembers (s t : State) : Prop where
  bodies : t.store.bodies = s.store.bodies
  memberships : t.store.memberships = s.store.memberships
  network : t.network = s.network
  enrolling : t.enrollPhase = s.enrollPhase

/-- The effects of a step from `s` to `t` by the action `a`. -/
inductive Effect (s : State) (a : Action) (es : List Event) (t : State) : Prop where
  | quiet (members : SameMembers s t) (phase : t.pairPhase = s.pairPhase)
      (invitations : ∀ i inv, s.store.invitations.lookup i = some inv →
        t.store.invitations.lookup i = some inv)
      (ids : s.nextID ≤ t.nextID) (plain : ∀ e ∈ es, e.plain)
  | discarded (i : InvitationID) (members : SameMembers s t) (before : s.pairPhase = .idle)
      (phase : t.pairPhase = .idle) (consumed : s.store.consumeInvitation i = some t.store)
      (ids : t.nextID = s.nextID) (plain : ∀ e ∈ es, e.plain)
  | pairAdmitted (i : InvitationID) (m : Membership) (store : t.store = s.store)
      (enrolling : t.enrollPhase = s.enrollPhase) (before : s.pairPhase = .idle)
      (phase : t.pairPhase = .unsaved i m) (unknown : s.network.ofBody m.bodyID = none)
      (network : ∀ q, t.network.memberships.lookup q =
        if q = m.peerID then some m else s.network.memberships.lookup q)
      (fresh : s.nextID ≤ m.peerID) (body : m.bodyID < t.nextID) (ids : m.peerID < t.nextID)
      (events : es = [.created i m.peerID])
  | saved (i : InvitationID) (m : Membership) (before : s.pairPhase = .unsaved i m)
      (phase : t.pairPhase = .saved i m) (store : t.store = s.store.saveMembership m)
      (network : t.network = s.network) (enrolling : t.enrollPhase = s.enrollPhase)
      (ids : t.nextID = s.nextID) (events : es = [])
  | unsaved (i : InvitationID) (m : Membership) (before : s.pairPhase = .unsaved i m)
      (phase : t.pairPhase = .idle) (store : t.store = s.store)
      (network : t.network = rollback s.network m.peerID)
      (enrolling : t.enrollPhase = s.enrollPhase) (ids : t.nextID = s.nextID)
      (plain : ∀ e ∈ es, e.plain)
  | withdrawn (i : InvitationID) (m : Membership) (before : s.pairPhase = .saved i m)
      (phase : t.pairPhase = .undone i m.peerID) (store : t.store = s.store)
      (network : t.network = rollback s.network m.peerID)
      (enrolling : t.enrollPhase = s.enrollPhase) (ids : t.nextID = s.nextID) (events : es = [])
  | paired (i : InvitationID) (m : Membership) (members : SameMembers s t)
      (before : s.pairPhase = .saved i m) (phase : t.pairPhase = .idle)
      (consumed : s.store.consumeInvitation i = some t.store) (ids : t.nextID = s.nextID)
      (events : es = [.consumed i m.peerID, .paired m.peerID])
  | deleted (i : InvitationID) (p : PeerID) (before : s.pairPhase = .undone i p)
      (phase : t.pairPhase = .idle) (store : t.store = s.store.deleteMembership p)
      (network : t.network = s.network) (enrolling : t.enrollPhase = s.enrollPhase)
      (ids : t.nextID = s.nextID) (plain : ∀ e ∈ es, e.plain)
  | leaked (i : InvitationID) (p : PeerID) (failed : a = .pairStep false)
      (deleting : s.pairing = some (.deleting i p)) (phase : t.pairPhase = .idle)
      (store : t.store = s.store) (network : t.network = s.network)
      (enrolling : t.enrollPhase = s.enrollPhase) (ids : t.nextID = s.nextID)
      (plain : ∀ e ∈ es, e.plain)
  | enrollAdmitted (c : Completion) (store : t.store = s.store)
      (phase : t.pairPhase = s.pairPhase) (before : s.enrollPhase = none)
      (enrolling : t.enrollPhase = some c)
      (network : ∀ q, t.network.memberships.lookup q =
        if q = c.membership.peerID then some c.membership else s.network.memberships.lookup q)
      (body : c.body.bodyID = s.nextID) (named : c.membership.bodyID = s.nextID)
      (reference : c.body.membershipRef = c.membership.peerID)
      (unrevoked : c.body.revokedAt = none) (peer : c.membership.peerID = s.nextID + 1)
      (ids : t.nextID = s.nextID + 2)
      (events : es = [.created c.pending.invitationID c.membership.peerID])
  | committed (c : Completion) (phase : t.pairPhase = s.pairPhase)
      (before : s.enrollPhase = some c) (enrolling : t.enrollPhase = none)
      (store : s.store.complete c = .ok t.store) (network : t.network = s.network)
      (ids : t.nextID = s.nextID)
      (events : es = [.consumed c.pending.invitationID c.membership.peerID, .enrolled c.receipt])
  | enrollWithdrawn (c : Completion) (phase : t.pairPhase = s.pairPhase)
      (before : s.enrollPhase = some c) (enrolling : t.enrollPhase = none)
      (store : t.store = s.store) (network : t.network = rollback s.network c.membership.peerID)
      (ids : t.nextID = s.nextID) (events : es = [])

/-! ## Every step has an effect -/

section Steps

variable {cfg : Config} {s t : State} {a : Action} {es : List Event}

theorem phase_of_pairing (here : s.pairing = some pc) : s.pairPhase = pc.phase := by
  rw [pairPhase, here]

theorem quiet_pairAt (here : s.pairing = some pc)
    (same : next.phase = pc.phase) : Effect s a [] (s.pairAt next) := by
  refine .quiet ⟨rfl, rfl, rfl, rfl⟩ ?_ (fun _ _ found => found) le_rfl (by simp)
  rw [phase_of_pairing here, ← same]
  rfl

/-- The pairing call answers with an error while it has no membership of its own. -/
theorem quiet_pairError (idle : s.pairPhase = .idle) :
    Effect s a (s.pairError reason).2 (s.pairError reason).1 := by
  refine .quiet ⟨rfl, rfl, rfl, rfl⟩ ?_ (fun _ _ found => found) le_rfl ?_
  · rw [idle]
    rfl
  · simp [pairError, plain]

variable {store : Store}

section

variable (before : s.enrollPhase = none)

include before

theorem quiet_enroll (after : ∀ c, next ≠ some (.committing c))
    (frame : store = { s.store with pendings := store.pendings }) (ids : s.nextID ≤ n)
    (plain : ∀ e ∈ es, e.plain) :
    Effect s a es { s with store := store, nextID := n, enrolling := next } := by
  have bodies : store.bodies = s.store.bodies := by rw [frame]
  have memberships : store.memberships = s.store.memberships := by rw [frame]
  refine .quiet ⟨bodies, memberships, rfl, ?_⟩ rfl ?_ ids plain
  · grind
  · grind

theorem quiet_enrollAt
    (after : ∀ c, next ≠ .committing c) : Effect s a [] (s.enrollAt next) :=
  quiet_enroll before (fun c same => after c (Option.some.inj same)) rfl le_rfl (by simp)

theorem quiet_enrollError :
    Effect s a (s.enrollError error).2 (s.enrollError error).1 :=
  quiet_enroll before (fun _ => nofun) rfl le_rfl (by simp [enrollError, plain])

end

theorem pairAdmit_effect (idle : s.pairPhase = .idle)
    (stepped : pairAdmit s req = (t, es)) : Effect s a es t := by
  rw [pairAdmit] at stepped
  split at stepped
  · cases stepped
    exact quiet_pairError idle
  rename_i key _
  have drawn : s.nextID ≤ peerFor s req.bodyID := Nat.le_max_left _ _
  have named : req.bodyID < peerFor s req.bodyID := Nat.le_max_right _ _
  obtain ⟨e, refused⟩ | ⟨unknown, n, m, admitted, body, peer, table⟩ :=
    addMember_cases s.network req.bodyID (peerFor s req.bodyID) key
  · simp only [refused] at stepped
    cases stepped
    refine .quiet ⟨rfl, rfl, rfl, rfl⟩ ?_ (fun _ _ found => found) ?_ (by simp)
    · rw [idle]
      rfl
    · change s.nextID ≤ peerFor s req.bodyID + 1
      omega
  · simp only [admitted] at stepped
    cases stepped
    rw [← body] at unknown
    rw [← peer] at table
    refine .pairAdmitted req.invitationID m rfl rfl idle rfl unknown table ?_ ?_ ?_ rfl
    · rw [peer]
      exact drawn
    · rw [body]
      exact Nat.lt_succ_of_lt named
    · rw [peer]
      exact Nat.lt_succ_self _

variable {i : InvitationID}

theorem pairUndo_effect (phase : s.pairPhase = .saved i m)
    (stepped : pairUndo s i m.peerID = (t, es)) : Effect s a es t := by
  cases stepped
  exact .withdrawn i m phase rfl rfl rfl rfl rfl rfl

theorem consumeInvitation_members
    (consumed : s.store.consumeInvitation i = some store) :
    SameMembers s { s with store := store, pairing := next } := by
  obtain ⟨_, _, _, rfl⟩ := consumeInvitation_ok consumed
  exact ⟨rfl, rfl, rfl, rfl⟩

variable {ok : Bool}

theorem pairStep_effect (here : s.pairing = some pc)
    (stepped : pairStep cfg s pc ok = (t, es)) : Effect s (.pairStep ok) es t := by
  have phase := phase_of_pairing here
  cases pc <;> simp only [pairStep] at stepped
  case validating req =>
    split at stepped
    · cases stepped
      exact quiet_pairError phase
    · cases stepped
      exact quiet_pairError phase
    · cases stepped
      exact quiet_pairAt here rfl
  case authorizing req =>
    split at stepped
    · exact pairAdmit_effect phase stepped
    · cases stepped
      exact quiet_pairAt here rfl
  case discarding i reason =>
    split at stepped
    · cases stepped
      exact quiet_pairAt here rfl
    · cases stepped
      exact quiet_pairError phase
  case discardingUpdate i reason =>
    split at stepped
    · cases stepped
      exact quiet_pairError phase
    rename_i store consumed
    cases stepped
    cases ok with
    | false => cases consumed
    | true =>
      exact .discarded i (consumeInvitation_members consumed) phase rfl consumed rfl
        (by simp [plain])
  case saving i m =>
    split at stepped
    · cases stepped
      exact .saved i m phase rfl rfl rfl rfl rfl rfl
    · cases stepped
      exact .unsaved i m phase rfl rfl rfl rfl rfl (by simp [plain])
  case consuming i m =>
    split at stepped
    · cases stepped
      exact quiet_pairAt here rfl
    · exact pairUndo_effect phase stepped
  case consumingUpdate i m =>
    split at stepped
    · exact pairUndo_effect phase stepped
    rename_i _ consumed
    cases stepped
    cases ok with
    | false => cases consumed
    | true => exact .paired i m (consumeInvitation_members consumed) phase rfl consumed rfl rfl
  case deleting i p =>
    split at stepped
    · cases stepped
      exact .deleted i p phase rfl rfl rfl rfl rfl (by simp [plain])
    rename_i failed
    cases stepped
    have refused : ok = false := by simpa using failed
    subst refused
    exact .leaked i p rfl here rfl rfl rfl rfl rfl (by simp [plain])

variable {ownerID : OwnerID}

theorem completeLocked_effect (before : s.enrollPhase = none)
    (stepped : completeLocked s pending ownerID permissions = (t, es)) : Effect s a es t := by
  rw [completeLocked] at stepped
  split at stepped
  · cases stepped
    exact quiet_enrollAt before (fun _ => nofun)
  · cases stepped
    exact quiet_enrollError before
  split at stepped
  · cases stepped
    exact quiet_enrollError before
  obtain ⟨e, refused⟩ | ⟨_, n, m, admitted, named, peer, table⟩ :=
    addMember_cases s.network s.nextID (s.nextID + 1) pending.wgPublicKey
  · simp only [refused] at stepped
    cases stepped
    exact quiet_enroll before (fun _ => nofun) rfl (le_add_right _ _) (by simp [plain])
  simp only [admitted] at stepped
  cases stepped
  rw [← peer] at table
  exact .enrollAdmitted (completionOf s pending ownerID permissions s.nextID m) rfl rfl
    before rfl table rfl named rfl rfl peer rfl rfl

theorem plain_singleton {e : Event} (plain : e.plain) : ∀ x ∈ [e], x.plain := by
  simpa using plain

variable {requestID : RequestID}

theorem receiptStep_effect
    (before : s.enrollPhase = none) (stepped : receiptStep s requestID error ok = (t, es)) :
    Effect s a es t := by
  unfold receiptStep at stepped
  split at stepped
  · cases stepped
    exact quiet_enroll before (fun _ => nofun) rfl le_rfl (plain_singleton rfl)
  · cases stepped
    exact quiet_enrollError before
  split at stepped
  · cases stepped
    exact quiet_enroll before (fun _ => nofun) rfl le_rfl (plain_singleton rfl)
  · cases stepped
    exact quiet_enrollError before

theorem enrollPhase_none (here : s.enrolling = some pc)
    (other : ∀ c, pc ≠ .committing c) : s.enrollPhase = none := by
  grind

theorem commit_effect (here : s.enrolling = some (.committing c))
    (stepped : enrollStep cfg s (.committing c) ok = (t, es)) : Effect s a es t := by
  have before : s.enrollPhase = some c := by rw [enrollPhase, here]
  simp only [enrollStep] at stepped
  split at stepped
  · cases stepped
    exact .enrollWithdrawn c rfl before rfl rfl rfl rfl rfl
  rename_i _ done
  cases stepped
  cases ok with
  | false => cases done
  | true => exact .committed c rfl before rfl done rfl rfl rfl

theorem createPending_frame
    (done : (if ok then s.store.createPending p else .error .constraint) = .ok store) :
    store = { s.store with pendings := store.pendings } := by
  cases ok with
  | false => cases done
  | true =>
    rw [if_pos rfl] at done
    rw [createPending_ok done]

theorem enrollStep_effect (here : s.enrolling = some pc)
    (stepped : enrollStep cfg s pc ok = (t, es)) : Effect s a es t := by
  cases pc with
  | committing c => exact commit_effect here stepped
  | completing pending ownerID permissions =>
    exact completeLocked_effect (enrollPhase_none here (fun _ => nofun)) stepped
  | receipt requestID error =>
    exact receiptStep_effect (enrollPhase_none here (fun _ => nofun)) stepped
  | counting req =>
    have before := enrollPhase_none here (fun _ => nofun)
    simp only [enrollStep] at stepped
    split at stepped
    · split at stepped
      · cases stepped
        exact quiet_enroll before (fun _ => nofun) rfl (le_succ _) (plain_singleton rfl)
      · cases stepped
        exact quiet_enroll before (fun _ => nofun) rfl (le_succ _) (by simp)
    · cases stepped
      exact quiet_enrollError before
  | opening pending code =>
    have before := enrollPhase_none here (fun _ => nofun)
    simp only [enrollStep] at stepped
    split at stepped
    · cases stepped
      exact quiet_enrollError before
    rename_i store done
    cases stepped
    exact quiet_enroll before (fun _ => nofun) (createPending_frame done) le_rfl
      (plain_singleton rfl)
  | creating pending permissions =>
    have before := enrollPhase_none here (fun _ => nofun)
    simp only [enrollStep] at stepped
    split at stepped
    · cases stepped
      exact quiet_enrollAt before (fun _ => nofun)
    · rename_i store done
      cases stepped
      exact quiet_enroll before (fun _ => nofun) (createPending_frame done) le_rfl (by simp)
  | denyingStore pending ownerID =>
    have before := enrollPhase_none here (fun _ => nofun)
    simp only [enrollStep] at stepped
    split at stepped
    · cases stepped
      exact quiet_enrollError before
    · cases stepped
      exact quiet_enroll before (fun _ => nofun) (by grind [deny_ok]) le_rfl (plain_singleton rfl)
  | _ =>
    -- The remaining calls only read: they go on or fail.
    have before := enrollPhase_none here (fun _ => nofun)
    simp only [enrollStep] at stepped
    repeat' split at stepped
    all_goals cases stepped
    all_goals
      first
      | exact quiet_enrollError before
      | exact quiet_enrollAt before (fun _ => nofun)

theorem enrollStart_effect
    (stepped : enrollStart s error pc = some (t, es)) (other : ∀ c, pc ≠ .committing c) :
    Effect s a es t := by
  unfold enrollStart at stepped
  split at stepped
  · cases stepped
    exact .quiet ⟨rfl, rfl, rfl, rfl⟩ rfl (fun _ _ found => found) le_rfl (plain_singleton rfl)
  split at stepped
  · grind [quiet_enrollAt, serviceFree]
  · cases stepped

theorem invite_effect : Effect s a [] (invite cfg s lifetime permissions) := by
  simp only [invite]
  split
  · exact .quiet ⟨rfl, rfl, rfl, rfl⟩ rfl (fun _ _ found => found) (by simp) (by simp)
  rename_i store done
  have unused : s.nextID ∉ s.store.invitations := by grind [create]
  obtain rfl := create_ok done
  refine .quiet ⟨rfl, rfl, rfl, rfl⟩ rfl ?_ (by simp) (by simp)
  intro i inv found
  have other : i ≠ s.nextID := by
    rintro rfl
    exact unused ((mem_iff_lookup _ _).mpr ⟨inv, found⟩)
  exact (AList.lookup_insert_ne other).trans found

theorem pairStart_effect (free : s.pairing = none) :
    Effect s a (pairStart cfg s req).2 (pairStart cfg s req).1 := by
  have idle : s.pairPhase = .idle := by rw [pairPhase, free]
  rw [pairStart]
  split
  · refine .quiet ⟨rfl, rfl, rfl, rfl⟩ ?_ (fun _ _ found => found) le_rfl (by simp)
    rw [idle]
    rfl
  · exact quiet_pairError idle

theorem step_effect (stepped : step? cfg s a = some (t, es)) : Effect s a es t := by
  cases a with
  | tick elapsed =>
    cases stepped
    exact .quiet ⟨rfl, rfl, rfl, rfl⟩ rfl (fun _ _ found => found) le_rfl (by simp)
  | invite lifetime permissions =>
    cases stepped
    exact invite_effect
  | pair req => grind [pairStart_effect, step?]
  | pairStep ok => grind [pairStep_effect, step?]
  | begin req | redeem req | approve code ownerID permissions | deny code ownerID =>
    exact enrollStart_effect stepped (fun _ => nofun)
  | enrollStep ok => grind [enrollStep_effect, step?]

end Steps

end NeonDoll.Enrollment
