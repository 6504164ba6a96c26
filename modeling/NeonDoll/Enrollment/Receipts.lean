import NeonDoll.Enrollment.Coherence
import NeonDoll.Enrollment.Result

/-!
# One receipt for each request

A request is marked enrolled exactly when its receipt is in the store, and the one transaction
that adds a credential and a membership adds the receipt that names both.  Receipts are never
changed, so every call that returns the receipt of a request returns the same one.  Pairing
and revocation apart, the memberships in memory and in the store differ at most by the one
that the call in progress has entered and not yet committed.
-/

variable {c : Completion} {id : InvitationID} {p : PendingEnrollment}

namespace NeonDoll.Persistence

open Lib GoMap AList

def Store.Enrolled (s : Store) (requestID : RequestID) : Prop :=
  ∃ p, s.pendings.lookup requestID = some p ∧ p.status = .enrolled

/-- The receipt names the Body and its membership. -/
structure EnrollmentReceipt.Names (r : EnrollmentReceipt) (bodyID : BodyID) (peerID : PeerID) :
    Prop where
  body : r.bodyID = bodyID
  membership : r.membershipReference = peerID

/-- What the tables say about finished enrollments is the same. -/
@[grind] structure SameLedger (s t : Store) : Prop where
  bodies : t.bodies = s.bodies
  memberships : t.memberships = s.memberships
  receipts : t.receipts = s.receipts
  enrolled : ∀ requestID, t.Enrolled requestID ↔ s.Enrolled requestID

theorem SameLedger.refl (s : Store) : SameLedger s s := ⟨rfl, rfl, rfl, fun _ => Iff.rfl⟩

namespace Store

variable {s t : Store}

theorem enrolled_insert
    (table : t.pendings = s.pendings.insert k p) (same : p.status = .enrolled ↔ s.Enrolled k) :
    ∀ requestID, t.Enrolled requestID ↔ s.Enrolled requestID := by
  grind [Enrolled]

theorem enrolled_iff_of_lookup
    (found : s.pendings.lookup k = some p) : s.Enrolled k ↔ p.status = .enrolled := by
  simp [Enrolled, found]

theorem pendingClash_eq_false (free : s.pendingClash p = false) :
    s.pendings.lookup p.requestID = none := by
  cases found : s.pendings.lookup p.requestID with
  | none => rfl
  | some row =>
    have member : (⟨p.requestID, row⟩ : Sigma fun _ : RequestID => PendingEnrollment) ∈
        s.pendings.entries := mem_lookup_iff.mp found
    have clash := List.any_eq_false.mp free _ member
    simp at clash

theorem createPending_ledger (done : s.createPending p = .ok t)
    (fresh : p.status = .pending) : SameLedger s t := by
  have unused : s.pendings.lookup p.requestID = none := by
    rw [createPending] at done
    split at done
    · cases done
    · rename_i free
      exact pendingClash_eq_false (by simpa using free)
  obtain rfl := createPending_ok done
  refine ⟨rfl, rfl, rfl, enrolled_insert rfl ?_⟩
  simp [Enrolled, unused, fresh]

theorem deny_ledger (done : s.deny requestID ownerID = .ok t) : SameLedger s t := by
  rw [deny] at done
  split at done
  · cases done
  split at done
  · grind [enrolled_insert, enrolled_iff_of_lookup]
  · cases done

theorem incrementAttempts_ledger : SameLedger s (s.incrementAttempts requestID) := by
  refine ⟨rfl, rfl, rfl, ?_⟩
  intro other
  rw [Enrolled, incrementAttempts, lookup_modify]
  split
  · rename_i same
    subst same
    cases found : s.pendings.lookup other with
    | none | some p => simp [Enrolled, found]
  · exact Iff.rfl

theorem create_ledger (done : s.create id inv = .ok t) : SameLedger s t := by
  obtain rfl := create_ok done
  exact ⟨rfl, rfl, rfl, fun _ => Iff.rfl⟩

theorem complete_ledger (done : s.complete c = .ok t) :
    t.bodies = s.bodies.insert c.body.bodyID c.body ∧
      t.memberships = s.memberships.insert c.membership.peerID c.membership ∧
      s.receipts.lookup c.pending.requestID = none ∧
      t.receipts = s.receipts.insert c.pending.requestID c.receipt ∧
      ∀ requestID,
        t.Enrolled requestID ↔ requestID = c.pending.requestID ∨ s.Enrolled requestID := by
  rw [complete] at done
  split at done
  · cases done
  split at done
  · cases done
  split at done
  · cases done
  split at done
  · cases done
  split at done
  · cases done
  split at done
  · grind [Store.Enrolled, lookup_eq_none]
  · cases done

end Store

/-- A completion whose parts belong together. -/
structure Completion.Proper (c : Completion) : Prop where
  request : c.receipt.requestID = c.pending.requestID
  names : c.receipt.Names c.body.bodyID c.membership.peerID
  named : c.membership.bodyID = c.body.bodyID
  reference : c.body.membershipRef = c.membership.peerID

/-- The tables of finished enrollments agree with each other. -/
structure Ledger (s : Store) : Prop where
  keyed : ∀ requestID r, s.receipts.lookup requestID = some r → r.requestID = requestID
  settled : ∀ requestID, s.Enrolled requestID ↔ ∃ r, s.receipts.lookup requestID = some r
  bodies : ∀ b record, s.bodies.lookup b = some record →
    ∃ r, s.receipts.lookup r.requestID = some r ∧ r.Names b record.membershipRef
  memberships : ∀ p m, s.memberships.lookup p = some m →
    ∃ r, s.receipts.lookup r.requestID = some r ∧ r.Names m.bodyID p

namespace Ledger

variable {s t : Store}

theorem empty : Ledger Store.empty := by
  constructor
  case keyed => exact nofun
  case settled =>
    intro requestID
    constructor
    · rintro ⟨p, found, -⟩
      cases found
    · rintro ⟨r, found⟩
      cases found
  case bodies => exact nofun
  case memberships => exact nofun

theorem same (h : Ledger s) (ledger : SameLedger s t) : Ledger t := by
  grind [Ledger]

theorem receipts_kept (done : s.complete c = .ok t) (found : s.receipts.lookup requestID = some r) :
    t.receipts.lookup requestID = some r := by
  obtain ⟨-, -, _, receipts, -⟩ := Store.complete_ledger done
  rw [receipts, lookup_insert_ite, if_neg]
  · exact found
  · grind

theorem completed (h : Ledger s) (proper : c.Proper) (done : s.complete c = .ok t) : Ledger t := by
  obtain ⟨bodies, memberships, -, receipts, _⟩ := Store.complete_ledger done
  have added : t.receipts.lookup c.receipt.requestID = some c.receipt := by
    rw [receipts, proper.request, lookup_insert]
  constructor
  case keyed => grind [proper.request, Ledger]
  case settled => grind [Ledger]
  case bodies =>
    intro b record found
    rw [bodies, lookup_insert_ite] at found
    split at found
    · grind [Completion.Proper]
    · obtain ⟨r, kept, names⟩ := h.bodies b record found
      exact ⟨r, receipts_kept done kept, names⟩
  case memberships =>
    intro p m found
    rw [memberships, lookup_insert_ite] at found
    split at found
    · grind [Completion.Proper]
    · obtain ⟨r, kept, names⟩ := h.memberships p m found
      exact ⟨r, receipts_kept done kept, names⟩

end Ledger

end NeonDoll.Persistence

namespace NeonDoll.Enrollment

open Lib Persistence Transition

/-! ## The books of the enrollment call -/

/-- A new row is pending, and a completion is about one enrollment. -/
def EnrollPc.Proper : EnrollPc → Prop
  | .opening p _ | .creating p _ => p.status = .pending
  | .committing c => c.Proper
  | _ => True

def State.Proper (s : State) : Prop := ∀ pc, s.enrolling = some pc → pc.Proper

/-- What a step does to the finished enrollments, and which receipts it returns. -/
inductive Books (s : State) (es : List Event) (t : State) : Prop where
  | kept (pairing : t.pairing = s.pairing) (ledger : SameLedger s.store t.store)
      (proper : t.Proper)
      (reported : ∀ r, .enrolled r ∈ es → ∃ requestID, s.store.receipts.lookup requestID = some r)
  | completed (c : Completion) (pairing : t.pairing = s.pairing)
      (before : s.enrolling = some (.committing c))
      (done : s.store.complete c = .ok t.store) (proper : t.Proper)
      (reported : ∀ r, .enrolled r ∈ es → r = c.receipt)

variable {ok : Bool} {now : Time}

section Steps

variable {cfg : Config} {s t : State}

theorem proper_none (idle : t.enrolling = none) : t.Proper := by
  intro pc here
  rw [idle] at here
  cases here

theorem proper_at (here : t.enrolling = some next) (proper : next.Proper) :
    t.Proper := by
  intro pc found
  rw [here] at found
  cases found
  exact proper

/-- The step returns no receipt. -/
theorem Books.quiet (pairing : t.pairing = s.pairing) (ledger : SameLedger s.store t.store)
    (proper : t.Proper) (plain : ∀ r, .enrolled r ∉ es) : Books s es t :=
  .kept pairing ledger proper fun r member => absurd member (plain r)

theorem books_enrollAt (proper : next.Proper) : Books s [] (s.enrollAt next) :=
  .quiet rfl (.refl _) (proper_at rfl proper) (by simp)

theorem books_enrollError : Books s (s.enrollError error).2 (s.enrollError error).1 :=
  .quiet rfl (.refl _) (proper_none rfl) (by simp [State.enrollError])

theorem newPending_status
    (made : newPending cfg now req mode id verifier = .ok p) : p.status = .pending := by
  grind [newPending]

variable {store : Store}

theorem createPending_books
    (done : (if ok then s.store.createPending p else .error .constraint) = .ok store)
    (fresh : p.status = .pending) : SameLedger s.store store := by
  grind [Store.createPending_ledger]

variable {pending : PendingEnrollment}

theorem completionOf_proper (named : m.bodyID = b) :
    (completionOf s pending ownerID permissions b m).Proper :=
  ⟨rfl, ⟨rfl, rfl⟩, named, rfl⟩

theorem completeLocked_books
    (stepped : completeLocked s pending ownerID permissions = (t, es)) : Books s es t := by
  rw [completeLocked] at stepped
  split at stepped
  · cases stepped
    exact books_enrollAt trivial
  · cases stepped
    exact books_enrollError
  split at stepped
  · cases stepped
    exact books_enrollError
  obtain ⟨e, refused⟩ | ⟨_, n, m, admitted, named, _, _⟩ :=
    addMember_cases s.network s.nextID (s.nextID + 1) pending.wgPublicKey
  · simp only [refused] at stepped
    cases stepped
    exact .quiet rfl (.refl _) (proper_none rfl) (by simp)
  · simp only [admitted] at stepped
    cases stepped
    exact .quiet rfl (.refl _) (proper_at rfl (completionOf_proper named)) (by simp)

theorem receiptStep_books (stepped : receiptStep s requestID error ok = (t, es)) :
    Books s es t := by
  unfold receiptStep at stepped
  split at stepped
  · grind [Books, State.Proper]
  · cases stepped
    exact books_enrollError
  · split at stepped
    · cases stepped
      exact .quiet rfl (.refl _) (proper_none rfl) (by simp)
    · cases stepped
      exact books_enrollError

theorem commit_books (here : s.enrolling = some (.committing c))
    (stepped : enrollStep cfg s (.committing c) ok = (t, es)) : Books s es t := by
  simp only [enrollStep] at stepped
  split at stepped
  · cases stepped
    exact .quiet rfl (.refl _) (proper_at rfl trivial) (by simp)
  rename_i _ done
  cases stepped
  cases ok with
  | false => cases done
  | true => exact .completed c rfl here done (proper_none rfl) (by simp)

theorem enrollStep_books (here : s.enrolling = some pc)
    (proper : pc.Proper) (stepped : enrollStep cfg s pc ok = (t, es)) : Books s es t := by
  cases pc with
  | committing c => exact commit_books here stepped
  | completing pending ownerID permissions => exact completeLocked_books stepped
  | receipt requestID error => exact receiptStep_books stepped
  | counting req =>
    simp only [enrollStep] at stepped
    split at stepped
    · split at stepped
      · cases stepped
        exact .quiet rfl (.refl _) (proper_none rfl) (by simp)
      · rename_i p made
        cases stepped
        exact .quiet rfl (.refl _) (proper_at rfl (newPending_status made)) (by simp)
    · cases stepped
      exact books_enrollError
  | validating req =>
    simp only [enrollStep] at stepped
    split at stepped
    · cases stepped
      exact books_enrollError
    split at stepped
    · cases stepped
      exact books_enrollError
    · rename_i p made
      cases stepped
      exact .quiet rfl (.refl _) (proper_at rfl (newPending_status made)) (by simp)
  | opening pending code =>
    simp only [enrollStep] at stepped
    split at stepped
    · cases stepped
      exact books_enrollError
    · rename_i store done
      cases stepped
      exact .quiet rfl (createPending_books done proper) (proper_none rfl) (by simp)
  | creating pending permissions =>
    simp only [enrollStep] at stepped
    split at stepped
    · cases stepped
      exact books_enrollAt trivial
    · rename_i store done
      cases stepped
      exact .quiet rfl (createPending_books done proper) (proper_at rfl trivial) (by simp)
  | denyingStore pending ownerID =>
    simp only [enrollStep] at stepped
    split at stepped
    · cases stepped
      exact books_enrollError
    · cases stepped
      exact .quiet rfl (by grind [Store.deny_ledger]) (proper_none rfl) (by simp)
  | _ =>
    -- The remaining calls only read: they go on or fail.
    simp only [enrollStep] at stepped
    repeat' split at stepped
    all_goals cases stepped
    all_goals
      first
      | exact books_enrollError
      | exact books_enrollAt trivial

theorem enrollStart_books (before : s.Proper)
    (stepped : enrollStart s error pc = some (t, es)) (proper : pc.Proper) : Books s es t := by
  unfold enrollStart at stepped
  split at stepped
  · cases stepped
    exact .quiet rfl (.refl _) before (by simp)
  split at stepped
  · cases stepped
    exact books_enrollAt proper
  · cases stepped

theorem invite_books (before : s.Proper) : Books s [] (invite cfg s lifetime permissions) := by
  simp only [invite]
  split
  · exact .quiet rfl (.refl _) before (by simp)
  · rename_i _ done
    exact .quiet rfl (Store.create_ledger done) before (by simp)

theorem step_books (before : s.Proper) (enrollment : a.pairing = false)
    (stepped : step? cfg s a = some (t, es)) : Books s es t := by
  cases a with
  | pair req | pairStep ok => cases enrollment
  | tick elapsed =>
    cases stepped
    exact .quiet rfl (.refl _) before (by simp)
  | invite lifetime permissions =>
    cases stepped
    exact invite_books before
  | begin req | redeem req | approve code ownerID permissions | deny code ownerID =>
    exact enrollStart_books before stepped trivial
  | enrollStep ok =>
    simp only [step?] at stepped
    split at stepped
    · cases stepped
    · rename_i pc here
      exact enrollStep_books here (before pc here) (Option.some.inj stepped)

namespace Books

theorem proper (books : Books s es t) : t.Proper := by
  grind [Books]

theorem pairing (books : Books s es t) : t.pairing = s.pairing := by
  grind [Books]

theorem ledger (books : Books s es t) (before : s.Proper) (h : Ledger s.store) :
    Ledger t.store := by
  cases books with
  | kept _ same _ _ => exact h.same same
  | completed c _ here done _ _ => exact h.completed (before _ here) done

theorem receipts (books : Books s es t) (found : s.store.receipts.lookup requestID = some r) :
    t.store.receipts.lookup requestID = some r := by
  cases books with
  | kept _ same _ _ =>
    rw [same.receipts]
    exact found
  | completed c _ _ done _ _ => exact Ledger.receipts_kept done found

theorem returned (books : Books s es t) (member : .enrolled r ∈ es) :
    ∃ requestID, t.store.receipts.lookup requestID = some r := by
  cases books with
  | kept _ same _ reported =>
    rw [same.receipts]
    exact reported r member
  | completed c _ _ done _ reported =>
    obtain rfl := reported r member
    obtain ⟨-, -, -, receipts, -⟩ := Store.complete_ledger done
    exact ⟨c.pending.requestID, by rw [receipts, AList.lookup_insert]⟩

end Books

/-! ## Memory and store -/

/-- The membership that the enrollment call has entered and not committed. -/
def State.Uncommitted (s : State) (p : PeerID) : Prop :=
  ∃ c, s.enrollPhase = some c ∧ c.membership.peerID = p

/-- Memory and store hold the same memberships, but for an uncommitted one, which is in memory
only. -/
structure Alike (s : State) : Prop where
  same : ∀ p, ¬ s.Uncommitted p → s.member p = s.stored p
  unstored : ∀ p, s.Uncommitted p → s.stored p = none

theorem alike_frame (h : Alike s) (members : SameMembers s t) : Alike t := by
  have uncommitted : ∀ p, t.Uncommitted p ↔ s.Uncommitted p := by
    intro p
    rw [State.Uncommitted, State.Uncommitted, members.enrolling]
  constructor
  case same =>
    intro p free
    rw [members.member, members.stored]
    exact h.same p (fun held => free ((uncommitted p).mpr held))
  case unstored =>
    intro p held
    rw [members.stored]
    exact h.unstored p ((uncommitted p).mp held)

theorem not_uncommitted (idle : s.enrollPhase = none) (p : PeerID) : ¬ s.Uncommitted p := by
  rintro ⟨c, here, -⟩
  rw [idle] at here
  cases here

theorem alike_enrollAdmitted (h : Alike s) (coherent : Coherent s)
    (store : t.store = s.store) (before : s.enrollPhase = none) (enrolling : t.enrollPhase = some c)
    (network : ∀ q, t.network.memberships.lookup q =
      if q = c.membership.peerID then some c.membership else s.network.memberships.lookup q)
    (peer : c.membership.peerID = s.nextID + 1) : Alike t := by
  have stored : t.stored = s.stored := (same_store store).2
  constructor
  case same =>
    intro p free
    have other : p ≠ c.membership.peerID := by
      rintro rfl
      exact free ⟨c, enrolling, rfl⟩
    rw [stored, State.member, network, if_neg other]
    exact h.same p (not_uncommitted before p)
  case unstored =>
    rintro p ⟨_, here, rfl⟩
    rw [enrolling] at here
    cases here
    rw [stored, peer]
    -- Peers in the store have been drawn before.
    cases found : s.stored (s.nextID + 1) with
    | none => rfl
    | some m =>
      have drawn : s.nextID + 1 < s.nextID := (coherent.stored _ m found).peer
      omega

theorem alike_committed (h : Alike s) (coherent : Coherent s)
    (before : s.enrollPhase = some c) (enrolling : t.enrollPhase = none)
    (store : s.store.complete c = .ok t.store) (network : t.network = s.network) : Alike t := by
  obtain ⟨-, memberships, -⟩ := Store.complete_ledger store
  constructor
  case same =>
    intro p _
    rw [State.member, network, State.stored, memberships, GoMap.lookup_insert_ite]
    split
    · rename_i here
      rw [here]
      exact (coherent.prepared c before).held
    rename_i other
    apply h.same p
    rintro ⟨_, here, rfl⟩
    rw [before] at here
    cases here
    exact other rfl
  case unstored => exact fun p held => absurd held (not_uncommitted enrolling p)

theorem alike_withdrawn (h : Alike s) (before : s.enrollPhase = some c)
    (enrolling : t.enrollPhase = none) (store : t.store = s.store)
    (network : t.network = rollback s.network c.membership.peerID) : Alike t := by
  constructor
  case same =>
    intro p _
    rw [(same_store store).2, State.member, network, rollback_lookup]
    split
    · grind [Alike, State.Uncommitted]
    rename_i other
    apply h.same p
    rintro ⟨_, here, rfl⟩
    rw [before] at here
    cases here
    exact other rfl
  case unstored => exact fun p held => absurd held (not_uncommitted enrolling p)

theorem step_alike (h : Alike s) (coherent : Coherent s) (unpaired : s.pairing = none)
    (still : t.pairing = none) (effect : Effect s a es t) : Alike t := by
  grind [Effect, alike_frame, alike_enrollAdmitted, alike_committed, alike_withdrawn,
    State.pairPhase]

end Steps

/-! ## Polling -/

variable {cfg : ResultConfig} {s t : Service}

/-- Where a call of `Result` that stands at a point may go on. -/
inductive Follows (s : Service) : ResultPc → ResultPc → Prop where
  | attempt (req : ResultRequest) : Follows s (.fetching req) (.incrementing req.requestID)
  | consume (req : ResultRequest) (p : PendingEnrollment) (nonce : Nat)
      (found : s.admission.store.pendings.lookup req.requestID = some p) :
      Follows s (.fetching req) (.consuming req.requestID p nonce)
  | receive (requestID : RequestID) (p : PendingEnrollment) (nonce : Nat)
      (enrolled : p.status = .enrolled) :
      Follows s (.consuming requestID p nonce) (.receiving requestID)

/-- What a call of `Result` that stands at a point may return. -/
inductive Answers (s : Service) (call : CallID) : ResultPc → ServiceEvent → Prop where
  | failed (pc : ResultPc) (error : ResultError) : Answers s call pc (.resultFailed error)
  | unfinished (requestID : RequestID) (p : PendingEnrollment) (nonce : Nat)
      (status : ResultStatus) (unfinished : p.status ≠ .enrolled) :
      Answers s call (.consuming requestID p nonce) (.result call requestID status none)
  | finished (requestID : RequestID) (r : EnrollmentReceipt)
      (found : s.admission.store.receipts.lookup requestID = some r) :
      Answers s call (.receiving requestID) (.result call requestID .enrolled (some r))

/-- The finished enrollments are the same, and so is all of the state but the store. -/
structure OnlyAttempts (s t : State) : Prop where
  ledger : SameLedger s.store t.store
  invitations : t.store.invitations = s.store.invitations
  rest : t = { s with store := t.store }

/-- The steps of the service. -/
inductive Moves (cfg : ResultConfig) (s : Service) (es : List ServiceEvent) (t : Service) :
    Prop where
  | admission (a : Action) (events : List Event) (enrollment : a.pairing = false)
      (stepped : Enrollment.step? cfg.toConfig s.admission a = some (t.admission, events))
      (results : t.results = s.results) (calls : t.nextCall = s.nextCall)
      (reported : es = events.map .admission)
  | refused (error : ResultError) (same : t = s) (reported : es = [.resultFailed error])
  | opened (req : ResultRequest) (admission : t.admission = s.admission)
      (results : t.results = s.results.insert s.nextCall (.fetching req))
      (calls : t.nextCall = s.nextCall + 1) (reported : es = [])
  | goesOn (call : CallID) (pc next : ResultPc) (here : s.results.lookup call = some pc)
      (follows : Follows s pc next) (admission : t.admission = s.admission)
      (results : t.results = s.results.insert call next) (calls : t.nextCall = s.nextCall)
      (reported : es = [])
  | ends (call : CallID) (pc : ResultPc) (event : ServiceEvent)
      (here : s.results.lookup call = some pc) (answers : Answers s call pc event)
      (admission : OnlyAttempts s.admission t.admission)
      (results : t.results = s.results.erase call) (calls : t.nextCall = s.nextCall)
      (reported : es = [event])

theorem OnlyAttempts.refl (s : State) : OnlyAttempts s s := ⟨.refl _, rfl, rfl⟩

theorem statusOf_eq_enrolled : statusOf now p = .enrolled ↔ p.status = .enrolled := by
  grind [statusOf]

section Calls

variable {call : CallID} {pc : ResultPc}

theorem moves_failed (here : s.results.lookup call = some pc) :
    Moves cfg s (s.resultDone call (.resultFailed error)).2
      (s.resultDone call (.resultFailed error)).1 :=
  .ends call pc _ here (.failed pc error) (.refl _) rfl rfl rfl

theorem fetch_moves (here : s.results.lookup call = some (.fetching req))
    (stepped : s.resultStep cfg call (.fetching req) ok = (t, es)) : Moves cfg s es t := by
  simp only [Service.resultStep] at stepped
  split at stepped
  · cases stepped
    exact moves_failed here
  rename_i p _
  have present : s.admission.store.pendings.lookup req.requestID = some p := by grind
  split at stepped
  · cases stepped
    exact moves_failed here
  split at stepped
  · split at stepped
    · cases stepped
      exact moves_failed here
    · rename_i nonce _
      cases stepped
      exact .goesOn call _ _ here (.consume req p nonce present) rfl rfl rfl rfl
  · cases stepped
    exact .goesOn call _ _ here (.attempt req) rfl rfl rfl rfl

theorem increment_moves (here : s.results.lookup call = some (.incrementing requestID))
    (stepped : s.resultStep cfg call (.incrementing requestID) ok = (t, es)) :
    Moves cfg s es t := by
  cases stepped
  refine .ends call _ _ here (.failed _ .invalidProof) ?_ rfl rfl rfl
  cases ok with
  | false => exact .refl _
  | true => exact ⟨Store.incrementAttempts_ledger, rfl, rfl⟩

theorem consume_moves (here : s.results.lookup call = some (.consuming requestID p nonce))
    (stepped : s.resultStep cfg call (.consuming requestID p nonce) ok = (t, es)) :
    Moves cfg s es t := by
  simp only [Service.resultStep] at stepped
  split at stepped
  · split at stepped
    · cases stepped
      exact moves_failed here
    · split at stepped
      · rename_i enrolled
        cases stepped
        exact .goesOn call _ _ here (.receive requestID p nonce (statusOf_eq_enrolled.mp enrolled))
          rfl rfl rfl rfl
      · rename_i unfinished
        cases stepped
        refine .ends call _ _ here (.unfinished requestID p nonce _ ?_) (.refl _) rfl rfl rfl
        exact fun enrolled => unfinished (statusOf_eq_enrolled.mpr enrolled)
  · cases stepped
    exact moves_failed here

theorem receive_moves (here : s.results.lookup call = some (.receiving requestID))
    (stepped : s.resultStep cfg call (.receiving requestID) ok = (t, es)) : Moves cfg s es t := by
  simp only [Service.resultStep] at stepped
  split at stepped
  · cases stepped
    exact moves_failed here
  rename_i r found
  cases stepped
  refine .ends call _ _ here (.finished requestID r ?_) (.refl _) rfl rfl rfl
  cases ok with
  | false => cases found
  | true => exact found

end Calls

theorem resultStart_moves (stepped : s.resultStart cfg req = (t, es)) : Moves cfg s es t := by
  grind [Moves, Service.resultStart]

theorem step_moves (stepped : (Service.system cfg).step? s a = some (t, es)) :
    Moves cfg s es t := by
  change Service.step? cfg s a = some (t, es) at stepped
  cases a <;> simp only [Service.step?] at stepped
  case admission action =>
    split at stepped
    · cases stepped
    rename_i enrollment
    split at stepped
    · cases stepped
    · rename_i m events inner
      cases stepped
      exact .admission action events (by simpa using enrollment) inner rfl rfl rfl
  case result req => exact resultStart_moves (Option.some.inj stepped)
  case resultStep call ok =>
    split at stepped
    · cases stepped
    rename_i pc here
    have moved := Option.some.inj stepped
    cases pc with
    | fetching req => exact fetch_moves here moved
    | incrementing requestID => exact increment_moves here moved
    | consuming requestID p nonce => exact consume_moves here moved
    | receiving requestID => exact receive_moves here moved

/-! ## The invariant of the service -/

/-- A call has read that its request is enrolled only if it is. -/
def ResultPc.Backed (store : Store) : ResultPc → Prop
  | .consuming requestID p _ => p.status = .enrolled → store.Enrolled requestID
  | .receiving requestID => store.Enrolled requestID
  | _ => True

@[grind] structure Balanced (s : Service) : Prop where
  unpaired : s.admission.pairing = none
  coherent : Coherent s.admission
  proper : s.admission.Proper
  ledger : Ledger s.admission.store
  alike : Alike s.admission
  numbered : ∀ call pc, s.results.lookup call = some pc → call < s.nextCall
  backed : ∀ call pc, s.results.lookup call = some pc → pc.Backed s.admission.store

theorem balanced_init : Balanced (Service.init cfg) := by
  constructor
  case unpaired => rfl
  case coherent => exact coherent_init cfg.toConfig
  case proper => exact proper_none rfl
  case ledger => exact Ledger.empty
  case alike => exact ⟨fun _ _ => rfl, fun _ _ => rfl⟩
  case numbered => exact nofun
  case backed => exact nofun

theorem ResultPc.Backed.mono {store store' : Store} {pc : ResultPc} (backed : pc.Backed store)
    (kept : ∀ requestID, store.Enrolled requestID → store'.Enrolled requestID) :
    pc.Backed store' := by
  cases pc with
  | fetching req => trivial
  | incrementing requestID => trivial
  | consuming requestID p nonce => exact fun enrolled => kept _ (backed enrolled)
  | receiving requestID => exact kept _ backed

theorem Follows.backed (follows : Follows s pc next)
    (before : pc.Backed s.admission.store) : next.Backed s.admission.store := by
  cases follows with
  | attempt req => trivial
  | consume req p nonce found => exact fun enrolled => ⟨p, found, enrolled⟩
  | receive requestID p nonce enrolled => exact before enrolled

theorem OnlyAttempts.effect {s t : State} (only : OnlyAttempts s t) : Effect s (.tick 0) [] t := by
  have nextID : t.nextID = s.nextID := by rw [only.rest]
  have network : t.network = s.network := by rw [only.rest]
  have pairing : t.pairing = s.pairing := by rw [only.rest]
  have enrolling : t.enrolling = s.enrolling := by rw [only.rest]
  refine .quiet ⟨only.ledger.bodies, only.ledger.memberships, network, ?_⟩ ?_ ?_ ?_ (by simp)
  · rw [State.enrollPhase, State.enrollPhase, enrolling]
  · rw [State.pairPhase, State.pairPhase, pairing]
  · intro i inv found
    rw [only.invitations]
    exact found
  · exact Nat.le_of_eq nextID.symm

theorem OnlyAttempts.books {s t : State} (only : OnlyAttempts s t) (proper : s.Proper) :
    Books s [] t := by
  grind [OnlyAttempts, Books, State.Proper]

theorem Books.enrolled {s t : State} {es : List Event} (books : Books s es t)
    {requestID : RequestID} (before : s.store.Enrolled requestID) : t.store.Enrolled requestID := by
  cases books with
  | kept _ same _ _ => exact (same.enrolled requestID).mpr before
  | completed c _ _ done _ _ =>
    obtain ⟨-, -, -, -, enrolled⟩ := Store.complete_ledger done
    exact (enrolled requestID).mpr (.inr before)

/-- One lemma for what admission does and what a poll does to it. -/
theorem balanced_admission (h : Balanced s) {a : Action} {events : List Event}
    (effect : Effect s.admission a events t.admission)
    (books : Books s.admission events t.admission)
    (numbered : ∀ call pc, t.results.lookup call = some pc → call < t.nextCall)
    (backed : ∀ call pc, t.results.lookup call = some pc → pc.Backed s.admission.store) :
    Balanced t := by
  have still : t.admission.pairing = none := books.pairing.trans h.unpaired
  constructor
  case unpaired => exact still
  case coherent => exact step_coherent h.coherent effect
  case proper => exact books.proper
  case ledger => exact books.ledger h.proper h.ledger
  case alike => exact step_alike h.alike h.coherent h.unpaired still effect
  case numbered => exact numbered
  case backed => exact fun call pc found => (backed call pc found).mono fun _ => books.enrolled

theorem step_balanced (h : Balanced s) (stepped : (Service.system cfg).step? s a = some (t, es)) :
    Balanced t := by
  cases step_moves stepped with
  | refused error same =>
    rw [same]
    exact h
  | admission a events enrollment inner results calls =>
    refine balanced_admission h (step_effect inner) (step_books h.proper enrollment inner) ?_ ?_
    · rw [results, calls]
      exact h.numbered
    · rw [results]
      exact h.backed
  | opened req admission results calls =>
    have only : OnlyAttempts s.admission t.admission := by
      rw [admission]
      exact .refl _
    refine balanced_admission h only.effect (only.books h.proper) ?_ ?_
    · grind
    intro call pc found
    rw [results, GoMap.lookup_insert_ite] at found
    split at found
    · cases found
      trivial
    · exact h.backed call pc found
  | goesOn call pc next here follows admission results calls => grind [Follows.backed]
  | ends call pc event here answers only results calls =>
    have sub : ∀ {other pc'}, t.results.lookup other = some pc' →
        s.results.lookup other = some pc' := by grind
    refine balanced_admission h only.effect (only.books h.proper) ?_ ?_
    · grind
    · exact fun other pc' found => h.backed other pc' (sub found)

variable {trace : List ServiceEvent}

theorem run_balanced
    (run : (Service.system cfg).Run free (Service.init cfg) trace s) : Balanced s :=
  run.invariant (balanced_init) fun h _ stepped => step_balanced h stepped

/-! ## Receipts over a run -/

def Reported (trace : List ServiceEvent) (requestID : RequestID) (r : EnrollmentReceipt) : Prop :=
  (.admission (.enrolled r) ∈ trace ∧ r.requestID = requestID) ∨
    ∃ call status, .result call requestID status (some r) ∈ trace

variable {later : List ServiceEvent}

theorem Reported.split (reported : Reported (trace ++ later) requestID r) :
    Reported trace requestID r ∨ Reported later requestID r := by
  grind [Reported]

theorem step_receipts (h : Balanced s) (stepped : (Service.system cfg).step? s a = some (t, es))
    (found : s.admission.store.receipts.lookup requestID = some r) :
    t.admission.store.receipts.lookup requestID = some r := by
  cases step_moves stepped with
  | refused _ same =>
    rw [same]
    exact found
  | admission _ _ enrollment inner => exact (step_books h.proper enrollment inner).receipts found
  | opened _ admission | goesOn _ _ _ _ _ admission =>
    rw [admission]
    exact found
  | ends _ _ _ _ _ only =>
    rw [only.ledger.receipts]
    exact found

theorem step_reported (h : Balanced s) (stepped : (Service.system cfg).step? s a = some (t, es))
    (reported : Reported es requestID r) :
    t.admission.store.receipts.lookup requestID = some r := by
  have after : Balanced t := step_balanced h stepped
  cases step_moves stepped with
  | refused _ _ events | opened _ _ _ _ events | goesOn _ _ _ _ _ _ _ _ events =>
    subst events
    simp [Reported] at reported
  | admission a events enrollment inner _ _ reportedEvents =>
    subst reportedEvents
    obtain ⟨member, rfl⟩ | ⟨call, status, member⟩ := reported
    · have inner_member : Event.enrolled r ∈ events := by simpa using member
      obtain ⟨key, found⟩ := (step_books h.proper enrollment inner).returned inner_member
      rw [after.ledger.keyed key r found]
      exact found
    · simp at member
  | ends call pc event here answers only _ _ events =>
    subst events
    rw [only.ledger.receipts]
    cases answers with
    | failed error | unfinished key p nonce status unfinished => simp [Reported] at reported
    | finished key r' found => grind [Reported]

theorem run_reported (run : (Service.system cfg).Run free (Service.init cfg) trace s) :
    ∀ requestID r, Reported trace requestID r →
      s.admission.store.receipts.lookup requestID = some r := by
  induction run with
  | refl => exact fun _ _ reported => by simp [Reported] at reported
  | tail run _ stepped ih =>
    intro requestID r reported
    have h := run_balanced run
    obtain earlier | now := reported.split
    · exact step_receipts h stepped (ih requestID r earlier)
    · exact step_reported h stepped now

/-- The call has not read the request before it was enrolled. -/
def ResultPc.Late (requestID : RequestID) : ResultPc → Prop
  | .consuming key p _ => key = requestID → p.status = .enrolled
  | _ => True

/-- The request has its receipt, and the calls from number `first` on know that it is enrolled. -/
structure After (requestID : RequestID) (r : EnrollmentReceipt) (first : CallID) (s : Service) :
    Prop where
  balanced : Balanced s
  receipt : s.admission.store.receipts.lookup requestID = some r
  late : ∀ call pc, first ≤ call → s.results.lookup call = some pc → pc.Late requestID

section After

variable {requestID : RequestID} {r : EnrollmentReceipt}

theorem Follows.late (follows : Follows s pc next)
    (h : After requestID r first s) : next.Late requestID := by
  cases follows with
  | attempt req => trivial
  | receive key p nonce enrolled => trivial
  | consume req p nonce found =>
    rintro rfl
    rw [← Store.enrolled_iff_of_lookup found]
    exact (h.balanced.ledger.settled _).mpr ⟨r, h.receipt⟩

theorem step_after (h : After requestID r first s)
    (stepped : (Service.system cfg).step? s a = some (t, es)) : After requestID r first t := by
  refine ⟨step_balanced h.balanced stepped, step_receipts h.balanced stepped h.receipt, ?_⟩
  cases step_moves stepped with
  | refused _ same =>
    rw [same]
    exact h.late
  | admission _ _ _ _ results =>
    rw [results]
    exact h.late
  | opened req _ results =>
    intro call pc new found
    rw [results, GoMap.lookup_insert_ite] at found
    split at found
    · cases found
      trivial
    · exact h.late call pc new found
  | goesOn call' pc' next _ follows _ results => grind [After, Follows.late]
  | ends call' _ _ _ _ _ results => grind [After]

theorem step_late (h : After requestID r first s)
    (stepped : (Service.system cfg).step? s a = some (t, es)) (new : first ≤ call)
    (returned : .result call requestID status receipt ∈ es) :
    status = .enrolled ∧ receipt = some r := by
  cases step_moves stepped with
  | refused _ _ events | opened _ _ _ _ events | goesOn _ _ _ _ _ _ _ _ events
  | admission _ _ _ _ _ _ events =>
    subst events
    simp at returned
  | ends call' pc event here answers _ _ _ events =>
    subst events
    obtain rfl := List.mem_singleton.mp returned
    cases answers with
    | unfinished _ p nonce _ unfinished => exact absurd (h.late call _ new here rfl) unfinished
    | finished _ r' found => grind [After]

theorem run_late (start : After requestID r first s)
    (run : (Service.system cfg).Run free s later t) :
    After requestID r first t ∧ ∀ call status receipt, first ≤ call →
      .result call requestID status receipt ∈ later →
      status = .enrolled ∧ receipt = some r := by
  induction run with
  | refl => exact ⟨start, nofun⟩
  | tail _ _ stepped ih => grind [step_after, step_late]

theorem Balanced.after (h : Balanced s)
    (found : s.admission.store.receipts.lookup requestID = some r) :
    After requestID r s.nextCall s := by
  grind [After]

end After

/-- A request has at most one receipt over a whole run, every credential and every membership
of the store is the one that a receipt names, and polls for a finished request return its
receipt.  Whenever no enrollment call is in progress, memory and store hold the same
memberships. -/
theorem enrollment_completes_once (cfg : ResultConfig) {trace : List ServiceEvent} {s : Service}
    (run : (Service.system cfg).Run free (Service.init cfg) trace s) :
    (∀ requestID r r', Reported trace requestID r → Reported trace requestID r' → r = r') ∧
      (∀ requestID r, Reported trace requestID r →
        s.admission.store.receipts.lookup requestID = some r) ∧
      (∀ requestID r, s.admission.store.receipts.lookup requestID = some r →
        r.requestID = requestID) ∧
      (∀ b record, s.admission.store.bodies.lookup b = some record →
        ∃ r, s.admission.store.receipts.lookup r.requestID = some r ∧
          r.Names b record.membershipRef) ∧
      (∀ p m, s.admission.store.memberships.lookup p = some m →
        ∃ r, s.admission.store.receipts.lookup r.requestID = some r ∧ r.Names m.bodyID p) ∧
      (∀ requestID r, s.admission.store.receipts.lookup requestID = some r →
        ∀ later t, (Service.system cfg).Run free s later t →
          ∀ call status receipt, s.nextCall ≤ call →
            .result call requestID status receipt ∈ later →
            status = .enrolled ∧ receipt = some r) ∧
      (∀ call requestID, s.results.lookup call = some (.receiving requestID) →
        ∃ r, s.resultStep cfg call (.receiving requestID) true =
          s.resultDone call (.result call requestID .enrolled (some r))) ∧
      (s.admission.enrolling = none → ∀ p,
        s.admission.network.memberships.lookup p = s.admission.store.memberships.lookup p) := by
  have h : Balanced s := run_balanced run
  refine ⟨?_, run_reported run, h.ledger.keyed, h.ledger.bodies, h.ledger.memberships, ?_, ?_, ?_⟩
  · intro requestID r r' first second
    have one := run_reported run requestID r first
    rw [run_reported run requestID r' second] at one
    exact (Option.some.inj one).symm
  · intro requestID r found later t rest
    exact (run_late (h.after found) rest).2
  · intro call requestID here
    obtain ⟨r, found⟩ := (h.ledger.settled requestID).mp (h.backed call _ here)
    exact ⟨r, by simp [Service.resultStep, found]⟩
  · intro idle p
    apply h.alike.same
    apply not_uncommitted
    rw [State.enrollPhase, idle]

def sampleResultConfig : ResultConfig :=
  { sampleConfig with verifyEnrollmentResult := fun _ => true }

def sampleResult (nonce : Nat) : ResultRequest :=
  { version := 1
    coreID := 1
    requestID := 9
    bodyPublicKey := some 8
    bodyNonce := some nonce
    signature := 0 }

/-- A commit fails, the Body redeems its invitation again, and polls twice. -/
def sampleEnrollment : List ServiceAction :=
  ([.admission (.invite 100 [7]), .admission (.redeem (sampleRedeem 9 8))] :
      List ServiceAction) ++
    List.replicate 4 (ServiceAction.admission (.enrollStep true)) ++
    ([.admission (.enrollStep false), .admission (.enrollStep true),
      .admission (.redeem (sampleRedeem 9 8))] : List ServiceAction) ++
    List.replicate 5 (ServiceAction.admission (.enrollStep true)) ++
    [ServiceAction.result (sampleResult 20), ServiceAction.result (sampleResult 21)] ++
    List.replicate 3 (ServiceAction.resultStep 0 true) ++
    List.replicate 3 (ServiceAction.resultStep 1 true)

/-- The receipt of the second attempt is the one of both polls. -/
theorem enrollment_completes_once_sample :
    ∃ trace s r, (Service.system sampleResultConfig).Run free (Service.init sampleResultConfig)
        trace s ∧ .result 0 9 .enrolled (some r) ∈ trace ∧ .result 1 9 .enrolled (some r) ∈ trace ∧
      (∀ r', Reported trace 9 r' → r = r') ∧
      ∀ p, s.admission.network.memberships.lookup p =
        s.admission.store.memberships.lookup p := by
  have replayed : (Service.system sampleResultConfig).replays? free sampleEnrollment
      (fun trace s => .result 0 9 .enrolled (some ⟨9, 5, 8, [7], 6, 0⟩) ∈ trace ∧
        .result 1 9 .enrolled (some ⟨9, 5, 8, [7], 6, 0⟩) ∈ trace ∧
        s.admission.enrolling = none) = true := by decide
  obtain ⟨trace, s, run, found⟩ := System.replays?_run replayed
  obtain ⟨first, second, idle⟩ := of_decide_eq_true found
  obtain ⟨once, -, -, -, -, -, -, alike⟩ := enrollment_completes_once sampleResultConfig run
  refine ⟨trace, s, ⟨9, 5, 8, [7], 6, 0⟩, run, first, second, ?_, alike idle⟩
  intro r' reported
  exact once 9 _ r' (.inr ⟨0, .enrolled, first⟩) reported

end NeonDoll.Enrollment
