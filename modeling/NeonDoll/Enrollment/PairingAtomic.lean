import NeonDoll.Enrollment.Coherence

/-!
# One pairing call among enrollment calls

`HandlePairing` from its first check to its response, with any of its calls failing.  The calls of
the enrollment service run under another mutex and may come in between.  Whether an error response
tells the truth and leaves no membership behind is decided by where the call gives up and by its
last statement, as long as no enrollment call admits a Body meanwhile.
-/

namespace NeonDoll.Enrollment

open Lib Persistence List GoMap State

def State.spent (s : State) (i : InvitationID) : Bool :=
  (s.store.invitations.lookup i).any Invitation.consumed

/-- The error response with this reason has left the memberships as they were, and its flag
tells whether the invitation is consumed. -/
structure Atomic (s t : State) (i : InvitationID) (reason : PairReason) : Prop where
  memory : ∀ p, t.member p = s.member p
  stored : ∀ p, t.stored p = s.stored p
  flag : reason.consumed = t.spent i

/-- The call is about to admit a Body in memory, or to commit what it has admitted or take it
back. -/
def EnrollPc.admits : EnrollPc → Bool
  | .completing .. | .committing _ => true
  | _ => false

/-- The steps during a pairing call: its mutex keeps other pairing calls out, and no enrollment
call admits. -/
def undisturbed (s : State) : Action → Prop
  | .pair _ => False
  | .enrollStep _ => ∀ pc ∈ s.enrolling, pc.admits = false
  | _ => True

instance (s : State) (a : Action) : Decidable (undisturbed s a) :=
  match a with
  | .pair _ => inferInstanceAs (Decidable False)
  | .enrollStep _ => inferInstanceAs (Decidable (∀ pc ∈ s.enrolling, EnrollPc.admits pc = false))
  | .tick _ | .invite .. | .pairStep _ | .begin _ | .redeem _ | .approve .. | .deny .. =>
    inferInstanceAs (Decidable True)

/-- The condition for a response that the call gives at `pc`, where its last statement is
successful or not: nothing is said of an invitation that could not be read, and the calls whose
errors are ignored, `Consume` with its two statements and `DeleteMembership`, have succeeded. -/
def Honest (s : State) (i : InvitationID) (ok : Bool) : PairPc → Prop
  | .validating _ => ok = true ∨ s.spent i = false
  | .discarding .. => False
  | .discardingUpdate .. | .deleting .. => ok = true
  | _ => True

/-! ## A call under way -/

/-- The invitation is there and not consumed. -/
def State.unspent (s : State) (i : InvitationID) : Prop :=
  ∃ inv, s.store.invitations.lookup i = some inv ∧ inv.consumed = false

structure Tables (u : State) (memory stored : PeerID → Option Membership) : Prop where
  memory : ∀ p, u.member p = memory p
  stored : ∀ p, u.stored p = stored p

/-- A table with one membership more. -/
def entered (table : PeerID → Option Membership) (m : Membership) (p : PeerID) :
    Option Membership :=
  if p = m.peerID then some m else table p

structure Unused (s : State) (p : PeerID) : Prop where
  memory : s.member p = none
  stored : s.stored p = none

/-- What a call that has started in `s` has done so far, for each place it can be at. -/
inductive Underway (s : State) (req : PairRequest) (u : State) : PairPc → Prop where
  | validating (tables : Tables u s.member s.stored) : Underway s req u (.validating req)
  | authorizing (tables : Tables u s.member s.stored) (valid : u.unspent req.invitationID) :
      Underway s req u (.authorizing req)
  | discarding {reason : PairReason} (tables : Tables u s.member s.stored)
      (valid : u.unspent req.invitationID) (flag : reason.consumed = true) :
      Underway s req u (.discarding req.invitationID reason)
  | discardingUpdate {reason : PairReason} (tables : Tables u s.member s.stored)
      (valid : u.unspent req.invitationID) (flag : reason.consumed = true) :
      Underway s req u (.discardingUpdate req.invitationID reason)
  | saving {m : Membership} (tables : Tables u (entered s.member m) s.stored)
      (valid : u.unspent req.invitationID) (unused : Unused s m.peerID) :
      Underway s req u (.saving req.invitationID m)
  | consuming {m : Membership} (tables : Tables u (entered s.member m) (entered s.stored m))
      (valid : u.unspent req.invitationID) (unused : Unused s m.peerID) :
      Underway s req u (.consuming req.invitationID m)
  | consumingUpdate {m : Membership} (tables : Tables u (entered s.member m) (entered s.stored m))
      (valid : u.unspent req.invitationID) (unused : Unused s m.peerID) :
      Underway s req u (.consumingUpdate req.invitationID m)
  | deleting {m : Membership} (tables : Tables u s.member (entered s.stored m))
      (valid : u.unspent req.invitationID) (unused : Unused s m.peerID) :
      Underway s req u (.deleting req.invitationID m.peerID)

variable {cfg : Config} {s t u v : State} {es : List Event} {reason : PairReason} {m : Membership}
  {req : PairRequest} {i : InvitationID} {pc : PairPc} {ok : Bool}

theorem State.unspent.spent_eq (valid : u.unspent i) : u.spent i = false := by
  obtain ⟨inv, found, unconsumed⟩ := valid
  rw [State.spent, found]
  exact unconsumed

theorem State.unspent.consume (valid : u.unspent i) : ∃ store,
    u.store.consumeInvitation i = some store ∧ store.memberships = u.store.memberships ∧
      (store.invitations.lookup i).any Invitation.consumed = true := by
  obtain ⟨inv, found, unconsumed⟩ := valid
  refine ⟨{ u.store with
    invitations := u.store.invitations.insert i { inv with consumed := true } }, ?_, rfl, ?_⟩
  · simp [Store.consumeInvitation, found, unconsumed]
  · rw [AList.lookup_insert]
    rfl

theorem Tables.frame {f g : PeerID → Option Membership} (tables : Tables u f g)
    (members : v.member = u.member) (rows : v.stored = u.stored) : Tables v f g := by
  refine ⟨fun p => ?_, fun p => ?_⟩
  · rw [members]
    exact tables.memory p
  · rw [rows]
    exact tables.stored p

/-- A step that leaves the memberships and the invitation alone. -/
theorem Underway.frame (underway : Underway s req u pc) (members : v.member = u.member)
    (rows : v.stored = u.stored) (valid : u.unspent req.invitationID → v.unspent req.invitationID) :
    Underway s req v pc := by
  cases underway with
  | validating tables => exact .validating (tables.frame members rows)
  | authorizing tables here => exact .authorizing (tables.frame members rows) (valid here)
  | discarding tables here flag => exact .discarding (tables.frame members rows) (valid here) flag
  | discardingUpdate tables here flag =>
    exact .discardingUpdate (tables.frame members rows) (valid here) flag
  | saving tables here unused => exact .saving (tables.frame members rows) (valid here) unused
  | consuming tables here unused =>
    exact .consuming (tables.frame members rows) (valid here) unused
  | consumingUpdate tables here unused =>
    exact .consumingUpdate (tables.frame members rows) (valid here) unused
  | deleting tables here unused => exact .deleting (tables.frame members rows) (valid here) unused

theorem rollback_entered (memory : ∀ p, u.member p = entered s.member m p)
    (unused : Unused s m.peerID) (p : PeerID) :
    (rollback u.network m.peerID).memberships.lookup p = s.member p := by
  rw [rollback_lookup]
  split
  · rename_i own
    rw [own, unused.memory]
  · rename_i other
    exact (memory p).trans (if_neg other)

theorem delete_entered (stored : ∀ p, u.stored p = entered s.stored m p)
    (unused : Unused s m.peerID) (p : PeerID) :
    (u.store.memberships.erase m.peerID).lookup p = s.stored p := by
  rw [lookup_erase_ite]
  split
  · rename_i own
    rw [own, unused.stored]
  · rename_i other
    exact (stored p).trans (if_neg other)

/-! ## The steps of the call -/

/-- The call goes on, or it answers, with an error exactly if `honest` then atomically. -/
structure Goes (s : State) (req : PairRequest) (next : State × List Event) (honest : Prop) :
    Prop where
  on : ∀ pc, next.1.pairing = some pc → Underway s req next.1 pc
  answers : ∀ reason, .pairFailed reason ∈ next.2 →
    (Atomic s next.1 req.invitationID reason ↔ honest)

theorem goes_error (decides : Atomic s u req.invitationID reason ↔ honest) :
    Goes s req (u.pairError reason) honest := by
  refine ⟨fun _ still => (nomatch still), fun other failed => ?_⟩
  cases mem_singleton.mp failed
  refine Iff.trans ⟨?_, ?_⟩ decides
  · exact fun ⟨memory, stored, flag⟩ => ⟨memory, stored, flag⟩
  · exact fun ⟨memory, stored, flag⟩ => ⟨memory, stored, flag⟩

theorem goes_on (underway : Underway s req u pc) (quiet : ∀ r, .pairFailed r ∉ es) :
    Goes s req (u.pairAt pc, es) honest := by
  refine ⟨fun pc' still => ?_, fun r failed => absurd failed (quiet r)⟩
  cases still
  exact underway.frame rfl rfl fun valid => valid

/-- An answer that leaves the tables and does not claim a consumption. -/
theorem goes_refused (tables : Tables u s.member s.stored)
    (unspent : u.spent req.invitationID = false)
    (flag : reason.consumed = false) (holds : honest) : Goes s req (u.pairError reason) honest :=
  goes_error (iff_of_true ⟨tables.memory, tables.stored, flag.trans unspent.symm⟩ holds)

theorem validating_goes (tables : Tables u s.member s.stored) :
    Goes s req (pairStep cfg u (.validating req) ok)
      (Honest u req.invitationID ok (.validating req)) := by
  dsimp only [pairStep]
  cases ok with
  | false =>
    -- The invitation could not be read, whatever it is.
    refine goes_error ⟨fun atomic => .inr atomic.flag.symm, ?_⟩
    rintro (read | unspent)
    · cases read
    · exact ⟨tables.memory, tables.stored, unspent.symm⟩
  | true =>
    have honest : Honest u req.invitationID true (.validating req) := .inl rfl
    rw [if_pos rfl]
    cases found : u.store.invitations.lookup req.invitationID with
    | none =>
      refine goes_refused tables ?_ rfl honest
      rw [State.spent, found]
      rfl
    | some inv =>
      have spent : u.spent req.invitationID = inv.consumed := by
        rw [State.spent, found]
        rfl
      rw [validate]
      cases consumed : inv.consumed with
      | true =>
        refine goes_error (iff_of_true ⟨tables.memory, tables.stored, ?_⟩ honest)
        exact (spent.trans consumed).symm
      | false =>
        rw [if_neg Bool.false_ne_true]
        split
        · rename_i refused
          split at refused
          · cases refused
          · split at refused <;> cases refused
        · exact goes_refused tables (spent.trans consumed) rfl honest
        · exact goes_on (.authorizing tables ⟨inv, found, consumed⟩) (fun _ => nofun)

theorem authorizing_goes (coherent : Coherent u) (tables : Tables u s.member s.stored)
    (valid : u.unspent req.invitationID) :
    Goes s req (pairStep cfg u (.authorizing req) ok)
      (Honest u req.invitationID ok (.authorizing req)) := by
  dsimp only [pairStep]
  split
  · rw [pairAdmit]
    split
    · exact goes_refused tables valid.spent_eq rfl trivial
    rename_i key _
    have drawn : u.nextID ≤ peerFor u req.bodyID := Nat.le_max_left _ _
    obtain ⟨e, refused⟩ | ⟨_, n, m, admitted, _, peer, table⟩ :=
      addMember_cases u.network req.bodyID (peerFor u req.bodyID) key
    · simp only [refused]
      exact goes_on (.discarding ⟨tables.memory, tables.stored⟩ valid rfl) (fun _ => not_mem_nil)
    · simp only [admitted]
      rw [← peer] at table drawn
      -- The peer is drawn anew, so neither table has it.
      have unused : Unused s m.peerID := by
        constructor
        · cases held : s.member m.peerID with
          | none => rfl
          | some old =>
            rw [← tables.memory] at held
            exact absurd (coherent.member _ old held).peer (Nat.not_lt.mpr drawn)
        · cases held : s.stored m.peerID with
          | none => rfl
          | some old =>
            rw [← tables.stored] at held
            exact absurd (coherent.stored _ old held).peer (Nat.not_lt.mpr drawn)
      refine goes_on (.saving ⟨fun p => ?_, tables.stored⟩ valid unused) ?_
      · refine (table p).trans ?_
        rw [entered, ← tables.memory p]
        rfl
      · intro r failed
        cases mem_singleton.mp failed
  · exact goes_on (.discarding tables valid rfl) (fun _ => not_mem_nil)

theorem discarding_goes (tables : Tables u s.member s.stored) (valid : u.unspent req.invitationID)
    (flag : reason.consumed = true) :
    Goes s req (pairStep cfg u (.discarding req.invitationID reason) ok)
      (Honest u req.invitationID ok (.discarding req.invitationID reason)) := by
  dsimp only [pairStep]
  split
  · exact goes_on (.discardingUpdate tables valid flag) (fun _ => nofun)
  · refine goes_error (iff_of_false (fun atomic => ?_) id)
    have claimed := atomic.flag
    rw [flag, valid.spent_eq] at claimed
    cases claimed

theorem discardingUpdate_goes (tables : Tables u s.member s.stored)
    (valid : u.unspent req.invitationID) (flag : reason.consumed = true) :
    Goes s req (pairStep cfg u (.discardingUpdate req.invitationID reason) ok)
      (Honest u req.invitationID ok (.discardingUpdate req.invitationID reason)) := by
  dsimp only [pairStep]
  cases ok with
  | false =>
    refine goes_error (iff_of_false (fun atomic => ?_) nofun)
    have claimed := atomic.flag
    rw [flag, valid.spent_eq] at claimed
    cases claimed
  | true =>
    obtain ⟨store, consumed, same, spent⟩ := valid.consume
    rw [if_pos rfl, consumed]
    refine goes_error (iff_of_true ⟨tables.memory, fun p => ?_, flag.trans spent.symm⟩ rfl)
    change store.memberships.lookup p = _
    rw [same]
    exact tables.stored p

theorem undo_goes (tables : Tables u (entered s.member m) (entered s.stored m))
    (valid : u.unspent req.invitationID) (unused : Unused s m.peerID) :
    Goes s req (pairUndo u req.invitationID m.peerID) honest :=
  goes_on (.deleting ⟨rollback_entered tables.memory unused, tables.stored⟩ valid unused)
    (fun _ => nofun)

theorem saving_goes (tables : Tables u (entered s.member m) s.stored)
    (valid : u.unspent req.invitationID) (unused : Unused s m.peerID) :
    Goes s req (pairStep cfg u (.saving req.invitationID m) ok)
      (Honest u req.invitationID ok (.saving req.invitationID m)) := by
  dsimp only [pairStep]
  split
  · refine goes_on (.consuming ⟨tables.memory, fun p => ?_⟩ valid unused) (fun _ => nofun)
    change (u.store.memberships.insert m.peerID m).lookup p = _
    rw [lookup_insert_ite, entered, ← tables.stored p]
    rfl
  · exact goes_refused ⟨rollback_entered tables.memory unused, tables.stored⟩ valid.spent_eq rfl
      trivial

theorem consumingUpdate_goes (tables : Tables u (entered s.member m) (entered s.stored m))
    (valid : u.unspent req.invitationID) (unused : Unused s m.peerID) :
    Goes s req (pairStep cfg u (.consumingUpdate req.invitationID m) ok)
      (Honest u req.invitationID ok (.consumingUpdate req.invitationID m)) := by
  dsimp only [pairStep]
  split
  · exact undo_goes tables valid unused
  · refine ⟨fun _ still => (nomatch still), fun r failed => ?_⟩
    simp at failed

theorem deleting_goes (tables : Tables u s.member (entered s.stored m))
    (valid : u.unspent req.invitationID) (unused : Unused s m.peerID) :
    Goes s req (pairStep cfg u (.deleting req.invitationID m.peerID) ok)
      (Honest u req.invitationID ok (.deleting req.invitationID m.peerID)) := by
  dsimp only [pairStep]
  cases ok with
  | true =>
    exact goes_refused ⟨tables.memory, delete_entered tables.stored unused⟩ valid.spent_eq rfl rfl
  | false =>
    refine goes_error (iff_of_false (fun atomic => ?_) nofun)
    have left := (tables.stored m.peerID).symm.trans (atomic.stored m.peerID)
    rw [entered, if_pos rfl, unused.stored] at left
    cases left

theorem pairStep_goes (coherent : Coherent u) (underway : Underway s req u pc) :
    Goes s req (pairStep cfg u pc ok) (Honest u req.invitationID ok pc) := by
  cases underway with
  | validating tables => exact validating_goes tables
  | authorizing tables valid => exact authorizing_goes coherent tables valid
  | discarding tables valid flag => exact discarding_goes tables valid flag
  | discardingUpdate tables valid flag => exact discardingUpdate_goes tables valid flag
  | saving tables valid unused => exact saving_goes tables valid unused
  | consuming tables valid unused =>
    dsimp only [pairStep]
    split
    · exact goes_on (.consumingUpdate tables valid unused) (fun _ => nofun)
    · exact undo_goes tables valid unused
  | consumingUpdate tables valid unused => exact consumingUpdate_goes tables valid unused
  | deleting tables valid unused => exact deleting_goes tables valid unused

/-! ## The steps of others -/

/-- Short of an admission, the enrollment service changes only its own requests. -/
theorem enrollStep_frame {pc : EnrollPc} (plain : pc.admits = false)
    (stepped : enrollStep cfg s pc ok = (t, es)) :
    t.pairing = s.pairing ∧ t.network = s.network ∧
      t.store = { s.store with pendings := t.store.pendings } := by
  cases pc with
  | completing | committing => cases plain
  | receipt requestID error =>
    simp only [enrollStep, receiptStep] at stepped
    repeat' split at stepped
    all_goals
      cases stepped
      exact ⟨rfl, rfl, rfl⟩
  | opening pending code =>
    simp only [enrollStep] at stepped
    split at stepped
    · cases stepped
      exact ⟨rfl, rfl, rfl⟩
    · rename_i store done
      cases stepped
      exact ⟨rfl, rfl, createPending_frame done⟩
  | creating pending permissions =>
    simp only [enrollStep] at stepped
    split at stepped
    · cases stepped
      exact ⟨rfl, rfl, rfl⟩
    · rename_i store done
      cases stepped
      exact ⟨rfl, rfl, createPending_frame done⟩
  | denyingStore pending ownerID =>
    simp only [enrollStep] at stepped
    split at stepped
    · cases stepped
      exact ⟨rfl, rfl, rfl⟩
    · rename_i store done
      cases stepped
      refine ⟨rfl, rfl, ?_⟩
      cases ok with
      | false => cases done
      | true =>
        rw [if_pos rfl] at done
        exact Store.deny_ok done
  | _ =>
    simp only [enrollStep] at stepped
    repeat' split at stepped
    all_goals
      cases stepped
      exact ⟨rfl, rfl, rfl⟩

theorem enrollStart_frame {pc : EnrollPc} (stepped : enrollStart s error pc = some (t, es)) :
    t.pairing = s.pairing ∧ t.network = s.network ∧ t.store = s.store := by
  unfold enrollStart at stepped
  split at stepped
  · cases stepped
    exact ⟨rfl, rfl, rfl⟩
  split at stepped
  · cases stepped
    exact ⟨rfl, rfl, rfl⟩
  · cases stepped

/-- A new invitation does not replace another one. -/
theorem invite_frame (cfg : Config) (s : State) (lifetime : Time) (permissions : List Permission) :
    (invite cfg s lifetime permissions).pairing = s.pairing ∧
    (invite cfg s lifetime permissions).member = s.member ∧
    (invite cfg s lifetime permissions).stored = s.stored ∧
    ∀ i, s.unspent i → (invite cfg s lifetime permissions).unspent i := by
  simp only [invite]
  split
  · exact ⟨rfl, rfl, rfl, fun _ valid => valid⟩
  · rename_i store done
    have unused : s.nextID ∉ s.store.invitations := by grind [Store.create]
    obtain rfl := Store.create_ok done
    refine ⟨rfl, rfl, rfl, fun i valid => ?_⟩
    obtain ⟨inv, found, unconsumed⟩ := valid
    refine ⟨inv, ?_, unconsumed⟩
    have other : i ≠ s.nextID := by
      rintro rfl
      exact unused ((mem_iff_lookup _ _).mpr ⟨inv, found⟩)
    exact (AList.lookup_insert_ne other).trans found

/-- Everything but the call itself leaves the call as it is. -/
theorem step_underway (coherent : Coherent u)
    (underway : ∀ pc, u.pairing = some pc → Underway s req u pc) (calm : undisturbed u a)
    (stepped : step? cfg u a = some (v, es)) :
    ∀ pc, v.pairing = some pc → Underway s req v pc := by
  intro pc here
  have started : ∀ {error enrollPc}, enrollStart u error enrollPc = some (v, es) →
      Underway s req v pc := by
    intro error enrollPc started
    obtain ⟨pairing, network, store⟩ := enrollStart_frame started
    rw [pairing] at here
    refine (underway pc here).frame (same_network network) (same_store store).2 fun valid => ?_
    rw [State.unspent, store]
    exact valid
  cases a with
  | pair => exact calm.elim
  | pairStep ok =>
    simp only [step?] at stepped
    split at stepped
    · cases stepped
    · rename_i now pairing
      have goes : Goes s req (pairStep cfg u now ok) (Honest u req.invitationID ok now) :=
        pairStep_goes coherent (underway now pairing)
      rw [Option.some.inj stepped] at goes
      exact goes.on pc here
  | tick elapsed =>
    cases stepped
    exact (underway pc here).frame rfl rfl fun valid => valid
  | invite lifetime permissions =>
    cases stepped
    obtain ⟨pairing, members, rows, kept⟩ := invite_frame cfg u lifetime permissions
    rw [pairing] at here
    exact (underway pc here).frame members rows (kept _)
  | begin | redeem | approve | deny => exact started stepped
  | enrollStep ok =>
    simp only [step?] at stepped
    split at stepped
    · cases stepped
    · rename_i now enrolling
      obtain ⟨pairing, network, store⟩ :=
        enrollStep_frame (calm now enrolling) (Option.some.inj stepped)
      rw [pairing] at here
      refine (underway pc here).frame (same_network network) ?_ fun valid => ?_
      · funext p
        rw [State.stored, State.stored, store]
      · rw [State.unspent, store]
        exact valid

/-- A pairing call that starts in any reachable state, with the steps of the enrollment service in
between that admit nobody: an error response is atomic exactly if the request was refused with the
invitation not consumed, or the condition of the place is met at which the call has given up. -/
theorem pairing_atomic_iff (run : (system cfg).Run Transition.free (State.init cfg) trace s)
    (started : step? cfg s (.pair req) = some (u, es)) :
    (∀ reason, .pairFailed reason ∈ es →
      (Atomic s u req.invitationID reason ↔ s.spent req.invitationID = false)) ∧
    ∀ {later v ok t es' pc reason}, (system cfg).Run undisturbed u later v →
      v.pairing = some pc → step? cfg v (.pairStep ok) = some (t, es') →
      .pairFailed reason ∈ es' →
      (Atomic s t req.invitationID reason ↔ Honest v req.invitationID ok pc) := by
  have coherent : Coherent s := run.invariant (coherent_init cfg) fun before _ stepped =>
    step_coherent before (step_effect stepped)
  have coherent' : Coherent u := step_coherent coherent (step_effect started)
  have begun : pairStart cfg s req = (u, es) := by
    simp only [step?] at started
    split at started
    · cases started
    · exact Option.some.inj started
  rw [pairStart] at begun
  constructor
  · intro reason failed
    split at begun
    · cases begun
      cases failed
    · cases begun
      cases mem_singleton.mp failed
      exact ⟨fun atomic => atomic.flag.symm, fun unspent => ⟨fun _ => rfl, fun _ => rfl,
        unspent.symm⟩⟩
  · intro later v ok t es' pc reason run' here stepped failed
    have first : ∀ pc, u.pairing = some pc → Underway s req u pc := by
      intro pc here
      split at begun
      · cases begun
        cases here
        exact .validating ⟨fun _ => rfl, fun _ => rfl⟩
      · cases begun
        cases here
    have both : Coherent v ∧ ∀ pc, v.pairing = some pc → Underway s req v pc := by
      apply run'.invariant
        (P := fun v => Coherent v ∧ ∀ pc, v.pairing = some pc → Underway s req v pc)
      · exact ⟨coherent', first⟩
      · intro x y a es inv calm moved
        exact ⟨step_coherent inv.1 (step_effect moved), step_underway inv.1 inv.2 calm moved⟩
    have goes : Goes s req (pairStep cfg v pc ok) (Honest v req.invitationID ok pc) :=
      pairStep_goes both.1 (both.2 pc here)
    have taken : pairStep cfg v pc ok = (t, es') := by
      simp only [step?, here] at stepped
      exact Option.some.inj stepped
    rw [taken] at goes
    exact goes.answers reason failed

/-- The request of a Body that presents invitation `1` with secret `2`. -/
def samplePair : PairRequest := ⟨1, 2, 1, some 7⟩

def sampleStart : State := invite sampleConfig (State.init sampleConfig) 0 []

/-- The call is about to save its membership, and gives up if that fails. -/
def sampleUnsaved (reached : State × List Event) : Bool :=
  match reached.1.pairing, step? sampleConfig reached.1 (.pairStep false) with
  | some (.saving _ _), some (_, es) => .pairFailed .persistenceFailed ∈ es
  | _, _ => false

/-- While a redemption of the same invitation has just begun, the membership of the call cannot be
saved and is taken back. -/
theorem pairing_atomic_unsaved :
    ∃ trace s u later v t es,
      (system sampleConfig).Run Transition.free (State.init sampleConfig) trace s ∧
      step? sampleConfig s (.pair samplePair) = some (u, []) ∧
      (system sampleConfig).Run undisturbed u later v ∧
      step? sampleConfig v (.pairStep false) = some (t, es) ∧
      .pairFailed .persistenceFailed ∈ es ∧ Atomic s t 1 .persistenceFailed := by
  have run : (system sampleConfig).Run Transition.free (State.init sampleConfig) ([] ++ [])
      sampleStart := .tail (a := .invite 0 []) (.refl _) trivial rfl
  have started : step? sampleConfig sampleStart (.pair samplePair) =
      some (sampleStart.pairAt (.validating samplePair), []) := rfl
  obtain ⟨⟨v, later⟩, reached, facts⟩ := (Option.any_eq_true _ _).mp
    (show ((system sampleConfig).replay? undisturbed (sampleStart.pairAt (.validating samplePair))
      [.pairStep true, .redeem (sampleRedeem 20 8), .enrollStep true, .pairStep true]).any
        sampleUnsaved = true by decide)
  have run' := Transition.System.replay?_run reached
  rw [sampleUnsaved] at facts
  split at facts
  · rename_i pairing stepped
    have failed := of_decide_eq_true facts
    exact ⟨_, _, _, later, v, _, _, run, started, run', stepped, failed,
      ((pairing_atomic_iff run started).2 run' pairing stepped failed).mpr trivial⟩
  · cases facts

/-- The authorizer denies, and reading the invitation fails in the `Consume` that follows: the
response says that the invitation is consumed. -/
theorem denied_pairing_misreports :
    ∃ trace s u later v t es,
      (system sampleConfig).Run Transition.free (State.init sampleConfig) trace s ∧
      step? sampleConfig s (.pair samplePair) = some (u, []) ∧
      (system sampleConfig).Run undisturbed u later v ∧
      step? sampleConfig v (.pairStep false) = some (t, es) ∧
      .pairFailed .authorizationDenied ∈ es ∧ ¬Atomic s t 1 .authorizationDenied := by
  refine ⟨_, sampleStart, _, _, _, _, _, .tail (a := .invite 0 []) (.refl _) trivial rfl, rfl,
    .tail (a := .pairStep false) (.tail (a := .pairStep true) (.refl _) trivial rfl) trivial rfl,
    rfl, by decide, fun atomic => ?_⟩
  have flag := atomic.flag
  revert flag
  decide

end NeonDoll.Enrollment
