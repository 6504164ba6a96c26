import NeonDoll.Enrollment.Authentication
import NeonDoll.Enrollment.Coherence

/-!
# Revocation is final

Once `Revoke` has returned without an error, the Body has no execution session and no active
membership, in memory or in the store, in any later state.  A connection can only be
installed between the final check of its proof and the release of the read lock, and there
the credential cannot become revoked.
-/

namespace NeonDoll.Enrollment

open Lib Persistence Transition List GoMap Option

/-- The credential is revoked in the store and its membership in memory. -/
def Withdrawn (s : State) (b : BodyID) : Prop :=
  ∃ r m, s.body b = some r ∧ r.revokedAt.isSome ∧ s.member r.membershipRef = some m ∧
    m.status = .revoked

/-- The Body is withdrawn and has no execution session. -/
def Final (s : Core) (b : BodyID) : Prop :=
  Withdrawn s.admission b ∧ s.execution.lookup b = none

/-- What a connection knows at its program counter. -/
def ConnPc.Fact (s : State) : ConnPc → Prop
  | .proofFetched _ pending body _ => s.body pending.body.bodyID = some body
  | .accepted b | .connecting b | .accepting b | .unblocking b | .installing b =>
    ∃ r, s.body b = some r ∧ r.revokedAt = none
  | _ => True

/-- What the revocation in progress knows at its program counter. -/
def RevokePc.Fact (s : Core) : RevokePc → Prop
  | .matching b r => s.admission.body b = some r
  | .storing b r m =>
    s.admission.body b = some r ∧ s.admission.member r.membershipRef = some m ∧ m.bodyID = b
  | .withdrawing b m =>
    ∃ r, s.admission.body b = some r ∧ r.revokedAt.isSome ∧
      s.admission.member r.membershipRef = some m ∧ m.bodyID = b
  | .disconnecting b => Withdrawn s.admission b
  | .refreshing b => Final s b
  | _ => True

@[grind] structure Sound (s : Core) : Prop where
  coherent : Coherent s.admission
  readers : ∀ c conn, s.conns.lookup c = some conn → conn.pc.reading → s.revoking = none
  conns : ∀ c conn, s.conns.lookup c = some conn → conn.pc.Fact s.admission
  revoke : ∀ pc, s.revoking = some pc → pc.Fact s

theorem sound_init : Sound (Core.init cfg) := by
  constructor
  case coherent => exact coherent_init cfg.toConfig
  case readers => exact nofun
  case conns => exact nofun
  case revoke => exact nofun

variable {cfg : CoreConfig} {s t : Core} {c : ConnID} {conn : Conn} {b : BodyID}

/-! ## Steps that keep credentials, memberships and the revocation in progress -/

structure Keeps (s t : Core) : Prop where
  coherent : Coherent t.admission
  body : t.admission.body = s.admission.body
  member : t.admission.member = s.admission.member
  revoking : t.revoking = s.revoking
  execution : ∀ b, s.execution.lookup b = none → t.execution.lookup b = none

theorem Withdrawn.congr {s t : State} (body : t.body = s.body) (member : t.member = s.member)
    (h : Withdrawn s b) : Withdrawn t b := by
  rw [Withdrawn, body, member]
  exact h

theorem Keeps.final (keeps : Keeps s t) (h : Final s b) : Final t b :=
  ⟨h.1.congr keeps.body keeps.member, keeps.execution b h.2⟩

theorem ConnPc.Fact.congr {s t : State} {pc : ConnPc} (body : t.body = s.body)
    (h : pc.Fact s) : pc.Fact t := by
  cases pc <;> first | trivial | (simp only [ConnPc.Fact, body] at h ⊢; exact h)

theorem Keeps.revokeFact (keeps : Keeps s t) {pc : RevokePc} (h : pc.Fact s) : pc.Fact t := by
  cases pc with
  | authorizing b => trivial
  | locking b => trivial
  | fetching b => trivial
  | matching b r =>
    rw [RevokePc.Fact, keeps.body]
    exact h
  | storing b r m | withdrawing b m =>
    rw [RevokePc.Fact, keeps.body, keeps.member]
    exact h
  | disconnecting b => exact Withdrawn.congr keeps.body keeps.member h
  | refreshing b => exact keeps.final h

/-- Every connection is as before or at a program counter whose fact holds. -/
theorem Sound.keeps (h : Sound s) (keeps : Keeps s t)
    (conns : ∀ c' conn', t.conns.lookup c' = some conn' → s.conns.lookup c' = some conn' ∨
      (conn'.pc.reading → s.revoking = none) ∧ conn'.pc.Fact s.admission) : Sound t := by
  constructor
  case coherent => exact keeps.coherent
  case readers => grind [Keeps]
  case conns =>
    intro c' conn' found
    rcases conns c' conn' found with old | ⟨_, fact⟩
    · exact (h.conns c' conn' old).congr keeps.body
    · exact fact.congr keeps.body
  case revoke => grind [Keeps, Keeps.revokeFact]

theorem keeps_conns (h : Sound s) : Keeps s { s with conns := table } :=
  ⟨h.coherent, rfl, rfl, rfl, fun _ none => none⟩

theorem sound_conn (h : Sound s) (keeps : Keeps s t)
    (conns : t.conns = s.conns.insert c new)
    (reading : new.pc.reading → s.revoking = none) (fact : new.pc.Fact s.admission) :
    Sound t := by
  grind [Sound.keeps]

/-- The outcome of a step that keeps the tables: it is sound and revokes nobody. -/
def Kept (s t : Core) (events : List CoreEvent) : Prop :=
  Sound t ∧ Keeps s t ∧ ∀ b, .revoked b ∉ events

theorem kept_at (h : Sound s)
    (reading : pc.reading → s.revoking = none) (fact : pc.Fact s.admission)
    (quiet : ∀ b, .revoked b ∉ events) : Kept s (s.at_ c conn pc) events :=
  ⟨sound_conn h (keeps_conns h) rfl reading fact, keeps_conns h, quiet⟩

theorem kept_at_with (h : Sound s)
    (reading : pc.reading → s.revoking = none) (fact : pc.Fact s.admission)
    (quiet : ∀ b, .revoked b ∉ events) :
    Kept s (({ s with challenges := challenges, activating := activating }).at_ c conn pc)
      events := by
  have keeps : Keeps s (({ s with challenges := challenges, activating := activating }).at_ c conn
      pc) := ⟨h.coherent, rfl, rfl, rfl, fun _ none => none⟩
  exact ⟨sound_conn h keeps rfl reading fact, keeps, quiet⟩

theorem coherent_draws {s : State} (h : Coherent s) (count : Nat) :
    Coherent { s with nextID := s.nextID + count } :=
  coherent_frame h rfl rfl rfl rfl (Nat.le_add_right _ _) (.inl rfl)

/-! ## Connections -/

theorem kept_closing (h : Sound s) : Kept s (s.at_ c conn .closing) [] :=
  kept_at h nofun trivial (by simp)

theorem helloStart_kept (h : Sound s) : Kept s (helloStart s c conn hello ok) [] := by
  unfold helloStart
  split
  · exact kept_closing h
  split
  · exact kept_closing h
  split
  · split
    · exact kept_closing h
    · exact kept_at h nofun trivial (by simp)
  · exact kept_closing h

theorem proveStart_kept (h : Sound s)
    (stepped : proveStart s c conn proof activates = some t) : Kept s t [] := by
  rw [proveStart] at stepped
  split at stepped
  · cases stepped
    exact kept_closing h
  split at stepped
  · cases stepped
  · rename_i free
    cases stepped
    exact kept_at h (fun _ => by simpa using free) trivial (by simp)

theorem refuse_kept (h : Sound s) :
    Kept s (refuse { s with challenges := challenges } c conn activates) [] := by
  cases activates with
  | false | true => exact kept_at_with h nofun trivial (by simp)

theorem takeChallenge_kept (h : Sound s)
    (free : s.revoking = none) : Kept s (takeChallenge s c conn proof activates) [] := by
  simp only [takeChallenge]
  split
  · exact refuse_kept h
  · split
    · exact kept_at_with h (fun _ => free) trivial (by simp)
    · exact refuse_kept h

theorem cleanup_kept (h : Sound s) (stepped : cleanup s c conn = some t) : Kept s t [] := by
  rw [cleanup] at stepped
  split at stepped
  · cases stepped
  cases stepped
  have keeps : Keeps s
      { s with
        conns := s.conns.erase c
        execution :=
          if s.execution.lookup conn.bodyID = some c then s.execution.erase conn.bodyID
          else s.execution } := by grind [Keeps]
  refine ⟨h.keeps keeps ?_, keeps, by simp⟩
  intro c' conn' found
  exact .inl (lookup_erase_some found).2

theorem finalCheck_unrevoked (passed : finalCheck cfg s proof pending body ok = true) :
    body.revokedAt = none := by
  rw [finalCheck, decide_eq_true_iff] at passed
  exact isNone_iff_eq_none.mp passed.1

/-- What every step guarantees: finality is kept, and a successful revocation is final. -/
structure Outcome (s t : Core) (events : List CoreEvent) : Prop where
  sound : Sound t
  final : ∀ b, Final s b → Final t b
  revoked : ∀ b, .revoked b ∈ events → Final t b

theorem Kept.outcome (kept : Kept s t events) : Outcome s t events :=
  ⟨kept.1, fun _ => kept.2.1.final, fun b found => absurd found (kept.2.2 b)⟩

variable {r : BodyRecord}

theorem install_outcome (h : Sound s) (free : s.revoking = none)
    (found : s.admission.body b = some r) (unrevoked : r.revokedAt = none) :
    Outcome s (install s c conn b) [.activated c b] := by
  refine ⟨?_, ?_, by simp⟩
  · constructor
    case coherent => exact h.coherent
    case readers => exact fun _ _ _ _ => free
    case conns =>
      intro c' conn' there
      rcases lookup_insert_some there with ⟨-, rfl⟩ | ⟨-, there⟩
      · trivial
      · exact h.conns c' conn' there
    case revoke =>
      intro pc there
      change s.revoking = some pc at there
      rw [free] at there
      cases there
  · rintro b' ⟨withdrawn, none⟩
    refine ⟨withdrawn, ?_⟩
    obtain ⟨_, m, _, _, _⟩ := withdrawn
    have other : b' ≠ b := by grind
    change (s.execution.insert b c).lookup b' = Option.none
    rw [lookup_insert_ite, if_neg other]
    exact none

theorem connStep_outcome (h : Sound s)
    (here : s.conns.lookup c = some conn) (stepped : connStep cfg s c conn ok = some (t, events)) :
    Outcome s t events := by
  have fact := h.conns c conn here
  have readers := h.readers c conn here
  obtain ⟨pc, bodyID, execution⟩ := conn
  cases pc <;> simp only [connStep] at stepped
  case idle => cases stepped
  case helloFetched hello nonce body =>
    split at stepped
    · cases stepped
      exact Kept.outcome (kept_at h nofun trivial (by simp))
    · cases stepped
      exact Kept.outcome (kept_closing h)
  case helloEligible hello nonce body =>
    split at stepped
    · cases stepped
      have keeps : Keeps s
          (({ s with
            admission := { s.admission with nextID := s.admission.nextID + 2 }
            challenges := s.challenges.insert c (issueChallenge cfg s nonce body) }).at_ c
              ⟨.helloEligible hello nonce body, bodyID, execution⟩ .idle) :=
        ⟨coherent_draws h.coherent 2, rfl, rfl, rfl, fun _ none => none⟩
      have sound := sound_conn h keeps rfl nofun trivial
      exact Kept.outcome ⟨sound, keeps, by simp⟩
    · cases stepped
      exact Kept.outcome (kept_closing h)
  case proving proof activates =>
    cases stepped
    exact Kept.outcome (takeChallenge_kept h (readers rfl))
  case proofTaken proof pending activates =>
    split at stepped
    · cases stepped
      exact Kept.outcome (refuse_kept h)
    rename_i body fetched
    cases stepped
    cases ok with
    | false => cases fetched
    | true => exact Kept.outcome (kept_at h (fun _ => readers rfl) fetched (by simp))
  case proofFetched proof pending body activates =>
    split at stepped
    · rename_i passed
      cases stepped
      cases activates with
      | false => exact Kept.outcome (kept_at h nofun trivial (by simp))
      | true =>
        exact Kept.outcome
          (kept_at h (fun _ => readers rfl) ⟨body, fact, finalCheck_unrevoked passed⟩
          (by simp))
    · cases stepped
      exact Kept.outcome (refuse_kept h)
  case accepted b =>
    split at stepped
    · cases stepped
    · cases stepped
      exact Kept.outcome (kept_at_with h (fun _ => readers rfl) fact (by simp))
  case connecting b | accepting b | unblocking b =>
    split at stepped
    · cases stepped
      exact Kept.outcome (kept_at h (fun _ => readers rfl) fact (by simp))
    · cases stepped
      exact Kept.outcome (kept_at_with h nofun trivial (by simp))
  case installing b =>
    cases stepped
    obtain ⟨r, found, unrevoked⟩ := fact
    exact install_outcome h (readers rfl) found unrevoked
  case closing =>
    cases stepped
    exact Kept.outcome (kept_at_with h nofun trivial (by simp))
  case cancelled =>
    grind [map_eq_some_iff, Kept.outcome, cleanup_kept, connStep]

/-! ## Revocation -/

theorem ConnPc.fact_of_unread {a : State} {pc : ConnPc} (unread : pc.reading = false) :
    pc.Fact a := by
  cases pc <;> trivial

/-- No connection holds the read lock. -/
def Unread (s : Core) : Prop :=
  ∀ c conn, s.conns.lookup c = some conn → conn.pc.reading = false

theorem unread_of_revoking (h : Sound s) (busy : s.revoking = some pc) : Unread s := by
  grind [Unread]

theorem unread_of_readLocked (free : s.readLocked = false) : Unread s := by
  intro c conn found
  have member : (⟨c, conn⟩ : Sigma fun _ : ConnID => Conn) ∈ s.conns.entries :=
    AList.mem_lookup_iff.mp found
  exact Bool.eq_false_iff.mpr (any_eq_false.mp free _ member)

/-- The revocation moves on while nobody holds the read lock. -/
theorem sound_unread (unread : Unread s) (conns : t.conns = s.conns)
    (coherent : Coherent t.admission) (fact : ∀ pc, t.revoking = some pc → pc.Fact t) :
    Sound t := by
  grind [Unread, ConnPc.fact_of_unread]

theorem coherent_held (h : Coherent a) (held : Bool) : Coherent { a with serviceHeld := held } :=
  coherent_frame h rfl rfl rfl rfl le_rfl (.inl rfl)

theorem revokeError_outcome (h : Sound s) (unread : Unread s) :
    Outcome s (revokeError s b).1 (revokeError s b).2 := by
  refine ⟨sound_unread unread rfl (coherent_held h.coherent false) nofun, fun _ final => final, ?_⟩
  simp [revokeError]

theorem revokeAt_outcome (h : Sound s) (unread : Unread s) (fact : pc.Fact s) :
    Outcome s (revokeAt s pc).1 (revokeAt s pc).2 := by
  refine ⟨sound_unread unread rfl h.coherent ?_, fun _ final => final, by simp [revokeAt]⟩
  intro pc' found
  cases found
  cases pc <;> exact fact

variable {m : Membership}

theorem store_outcome (h : Sound s) (unread : Unread s) (found : s.admission.body b = some r)
    (held : s.admission.member r.membershipRef = some m) (named : m.bodyID = b)
    (done : s.admission.store.revokeBody b { m with status := .revoked } now = .ok store) :
    Outcome s (revokeAt { s with admission := { s.admission with store := store } }
      (.withdrawing b m)).1 [] := by
  obtain ⟨_, _, r', found', rfl⟩ := Store.revokeBody_ok done
  have same : r' = r := Option.some.inj (found'.symm.trans found)
  subst same
  have key : m.peerID = r'.membershipRef := (h.coherent.member _ m held).key
  have body : ∀ x, State.body { s.admission with store := { s.admission.store with
      bodies := s.admission.store.bodies.insert b { r' with revokedAt := some now }
      memberships := s.admission.store.memberships.insert m.peerID { m with status := .revoked } } }
      x = if x = b then some { r' with revokedAt := some now } else s.admission.body x :=
    fun x => lookup_insert_ite _ _ _ _
  refine ⟨sound_unread unread rfl ?_ ?_, ?_, by simp⟩
  · refine coherent_marked h.coherent found body rfl (m := { m with status := .revoked }) (n := m)
      ?_ ?_ ⟨named, key⟩ ⟨named, key⟩ (fun _ => rfl) rfl rfl rfl
    · intro q
      rw [← key]
      exact lookup_insert_ite _ _ _ _
    · intro q
      split
      · rename_i here
        rw [here]
        exact held
      · rfl
  · intro pc there
    cases there
    exact ⟨_, (body b).trans (if_pos rfl), rfl, held, named⟩
  · rintro b' ⟨⟨r₀, m₀, found₀, revoked, held₀, status⟩, none⟩
    refine ⟨?_, none⟩
    by_cases same : b' = b
    · subst same
      have eq : r₀ = r' := Option.some.inj (found₀.symm.trans found)
      subst eq
      exact ⟨_, m₀, (body b').trans (if_pos rfl), rfl, held₀, status⟩
    · exact ⟨r₀, m₀, (body b').trans ((if_neg same).trans found₀), revoked, held₀, status⟩

theorem withdraw_lookup (key : m.peerID = p)
    (held : n.memberships.lookup p = some m) (done : withdraw n m = .ok n') :
    ∀ q, n'.memberships.lookup q =
      if q = p then some { m with status := .revoked } else n.memberships.lookup q := by
  intro q
  subst key
  rw [withdraw] at done
  split at done
  · rename_i already
    cases done
    split
    · rename_i here
      rw [here, held]
      obtain ⟨_, _, _, _, _⟩ := m
      cases already
      rfl
    · rfl
  · obtain ⟨_, found, rfl⟩ := Network.revokeMembership_ok done
    rw [held] at found
    cases found
    exact lookup_insert_ite _ _ _ _

theorem withdraw_outcome (h : Sound s) (unread : Unread s)
    (found : s.admission.body b = some r) (revoked : r.revokedAt.isSome)
    (held : s.admission.member r.membershipRef = some m) (named : m.bodyID = b)
    (done : withdraw s.admission.network m = .ok n) :
    Outcome s (revokeAt { s with admission := { s.admission with network := n } }
      (.disconnecting b)).1 [] := by
  have key : m.peerID = r.membershipRef := (h.coherent.member _ m held).key
  have member := withdraw_lookup key held done
  obtain ⟨m₁, saved, owner, marked⟩ := h.coherent.stores b r found
  have savedKey : m₁.peerID = r.membershipRef := (h.coherent.stored _ m₁ saved).key
  refine ⟨sound_unread unread rfl ?_ ?_, ?_, by simp⟩
  · refine coherent_marked h.coherent found ?_ rfl (m := m₁) (n := { m with status := .revoked })
      ?_ member ⟨owner, savedKey⟩ ⟨named, key⟩ marked rfl rfl rfl
    · intro x
      split
      · rename_i same
        rw [same]
        exact found
      · rfl
    · intro q
      split
      · rename_i here
        rw [here]
        exact saved
      · rfl
  · intro pc there
    cases there
    exact ⟨r, _, found, revoked, (member _).trans (if_pos rfl), rfl⟩
  · rintro _ ⟨⟨r₀, m₀, found₀, revoked₀, held₀, status⟩, none⟩
    refine ⟨?_, none⟩
    by_cases same : r₀.membershipRef = r.membershipRef
    · exact ⟨r₀, _, found₀, revoked₀, (member _).trans (if_pos same), rfl⟩
    · exact ⟨r₀, m₀, found₀, revoked₀, (member _).trans ((if_neg same).trans held₀), status⟩

theorem disconnect_outcome (h : Sound s) (unread : Unread s) (withdrawn : Withdrawn s.admission b) :
    Outcome s (revokeAt { s with execution := s.execution.erase b } (.refreshing b)).1 [] := by
  have erased : ∀ b', s.execution.lookup b' = none → (s.execution.erase b).lookup b' = none := by
    grind
  refine ⟨sound_unread unread rfl h.coherent ?_, ?_, by simp⟩
  · intro pc there
    cases there
    exact ⟨withdrawn, AList.lookup_erase _ _⟩
  · exact fun b' final => ⟨final.1, erased b' final.2⟩

theorem revokeStep_outcome (h : Sound s)
    (busy : s.revoking = some pc) (stepped : revokeStep s pc ok = some (t, events)) :
    Outcome s t events := by
  have fact := h.revoke pc busy
  have unread := unread_of_revoking h busy
  cases pc with
  | authorizing b =>
    simp only [revokeStep] at stepped
    split at stepped
    · cases stepped
      exact revokeAt_outcome h unread trivial
    · grind [Outcome, Final]
  | locking b =>
    simp only [revokeStep] at stepped
    split at stepped
    · cases stepped
      refine ⟨sound_unread unread rfl (coherent_held h.coherent true) ?_,
        fun _ final => final, by simp⟩
      intro pc found
      cases found
      trivial
    · cases stepped
  | fetching b =>
    simp only [revokeStep] at stepped
    split at stepped
    · cases stepped
      exact revokeError_outcome h unread
    rename_i _ fetched
    cases stepped
    cases ok with
    | false => cases fetched
    | true => exact revokeAt_outcome h unread fetched
  | matching b r =>
    simp only [revokeStep] at stepped
    split at stepped
    · cases stepped
      exact revokeError_outcome h unread
    rename_i m held
    split at stepped
    · cases stepped
      exact revokeError_outcome h unread
    rename_i named
    rw [not_not] at named
    split at stepped
    · rename_i revoked
      cases stepped
      exact revokeAt_outcome h unread ⟨r, fact, revoked, held, named⟩
    · cases stepped
      exact revokeAt_outcome h unread ⟨fact, held, named⟩
  | storing b r m =>
    obtain ⟨found, held, named⟩ := fact
    simp only [revokeStep] at stepped
    split at stepped
    · cases stepped
      exact revokeError_outcome h unread
    rename_i _ done
    cases stepped
    cases ok with
    | false => cases done
    | true => exact store_outcome h unread found held named done
  | withdrawing b m =>
    obtain ⟨r, found, revoked, held, named⟩ := fact
    simp only [revokeStep] at stepped
    split at stepped
    · cases stepped
      exact revokeError_outcome h unread
    · rename_i n done
      cases stepped
      exact withdraw_outcome h unread found revoked held named done
  | disconnecting b =>
    simp only [revokeStep] at stepped
    split at stepped
    · cases stepped
    · cases stepped
      exact disconnect_outcome h unread fact
  | refreshing b =>
    simp only [revokeStep] at stepped
    split at stepped
    · cases stepped
      refine ⟨sound_unread unread rfl (coherent_held h.coherent false)
        nofun, fun _ final => final, ?_⟩
      intro b' returned
      cases mem_singleton.mp returned
      exact fact
    · cases stepped
      exact revokeError_outcome h unread

theorem revokeStart_outcome (h : Sound s)
    (stepped : revokeStart s b ownerID = some (t, events)) : Outcome s t events := by
  rw [revokeStart] at stepped
  split at stepped
  · cases stepped
    exact ⟨h, fun _ final => final, by simp⟩
  split at stepped
  · cases stepped
  rename_i free
  push Not at free
  cases stepped
  exact revokeAt_outcome h (unread_of_readLocked (by simpa using free.1)) trivial

/-! ## Restart and admission -/

theorem restart_outcome (h : Sound s) : Outcome s (restart s) [] := by
  refine ⟨?_, ?_, by simp⟩
  · constructor
    case coherent => exact coherent_reloaded h.coherent rfl rfl rfl rfl rfl
    case readers => exact nofun
    case conns => exact nofun
    case revoke => exact nofun
  · rintro b ⟨⟨r, m, found, revoked, _, _⟩, _⟩
    obtain ⟨m', saved, _, marked⟩ := h.coherent.stores b r found
    exact ⟨⟨r, m', found, revoked, saved, marked revoked⟩, rfl⟩

theorem admission_outcome (h : Sound s) {after : State}
    (stepped : step? cfg.toConfig s.admission a = some (after, events)) :
    Outcome s { s with admission := after } (events.map .admission) := by
  have effect := step_effect stepped
  have keep : ∀ {b r}, s.admission.body b = some r → after.body b = some r ∧
      after.member r.membershipRef = s.admission.member r.membershipRef :=
    fun found => step_keeps_body h.coherent effect found
  have withdrawn : ∀ {b}, Withdrawn s.admission b → Withdrawn after b := by
    rintro b ⟨r, m, found, revoked, held, status⟩
    exact ⟨r, m, (keep found).1, revoked, (keep found).2.trans held, status⟩
  refine ⟨?_, fun b final => ⟨withdrawn final.1, final.2⟩, by simp⟩
  constructor
  case coherent => exact step_coherent h.coherent effect
  case readers => exact h.readers
  case conns =>
    intro c conn found
    have fact := h.conns c conn found
    obtain ⟨pc, _, _⟩ := conn
    cases pc with
    | proofFetched proof pending body activates => exact (keep fact).1
    | accepted b | connecting b | accepting b | unblocking b | installing b =>
      obtain ⟨r, known, unrevoked⟩ := fact
      exact ⟨r, (keep known).1, unrevoked⟩
    | _ => trivial
  case revoke =>
    intro pc found
    have fact := h.revoke pc found
    cases pc with
    | matching b r => exact (keep fact).1
    | storing b r m =>
      obtain ⟨known, held, named⟩ := fact
      exact ⟨(keep known).1, (keep known).2.trans held, named⟩
    | withdrawing b m =>
      obtain ⟨r, known, revoked, held, named⟩ := fact
      exact ⟨r, (keep known).1, revoked, (keep known).2.trans held, named⟩
    | disconnecting b => exact withdrawn fact
    | refreshing b => exact ⟨withdrawn fact.1, fact.2⟩
    | _ => trivial

/-! ## The step lemma and the result -/

theorem core_step_outcome (h : Sound s)
    (stepped : Core.step? cfg s a = some (t, events)) : Outcome s t events := by
  cases a with
  | admission action => grind [admission_outcome, Core.step?]
  | connect =>
    cases stepped
    have keeps : Keeps s
        { s with
          admission := { s.admission with nextID := s.admission.nextID + 1 }
          conns := s.conns.insert s.admission.nextID ⟨.idle, 0, false⟩ } :=
      ⟨coherent_draws h.coherent 1, rfl, rfl, rfl, fun _ none => none⟩
    have sound := sound_conn h keeps rfl nofun trivial
    exact Kept.outcome ⟨sound, keeps, by simp⟩
  | hello c message ok =>
    grind [Kept.outcome, helloStart_kept, Core.step?]
  | prove c message activates =>
    grind [map_eq_some_iff, Kept.outcome, proveStart_kept, Core.step?]
  | connStep c ok => grind [connStep_outcome, Core.step?]
  | drop c =>
    grind [Kept.outcome, kept_closing, Core.step?]
  | timer c =>
    grind [Keeps, Kept, Kept.outcome, Sound.keeps, Core.step?, timerStep]
  | revoke b ownerID => exact revokeStart_outcome h stepped
  | revokeStep ok => grind [revokeStep_outcome, Core.step?]
  | restart =>
    cases stepped
    exact restart_outcome h

/-- In every run the Core stays sound, and whoever has been revoked stays so. -/
theorem run_final (run : (Core.system cfg).Run free (Core.init cfg) trace s) :
    Sound s ∧ ∀ b, .revoked b ∈ trace → Final s b := by
  refine run.history (P := fun past x => Sound x ∧ ∀ b, CoreEvent.revoked b ∈ past → Final x b)
    ⟨sound_init, nofun⟩ ?_
  rintro x y a _ _ ⟨sound, final⟩ _ stepped
  have outcome := core_step_outcome sound stepped
  refine ⟨outcome.sound, ?_⟩
  intro b found
  rcases mem_append.mp found with earlier | now
  · exact outcome.final b (final b earlier)
  · exact outcome.revoked b now

/-- Once `Revoke` has returned without an error, the Body has no execution session in any
later state, and none of its memberships is active in memory or in the store. -/
theorem revocation_final (cfg : CoreConfig) {trace : List CoreEvent} {s : Core} {b : BodyID}
    (run : (Core.system cfg).Run free (Core.init cfg) trace s) (revoked : .revoked b ∈ trace) :
    s.execution.lookup b = none ∧
      (∀ p m, s.admission.network.memberships.lookup p = some m → m.bodyID = b →
        m.status ≠ .active) ∧
      ∀ p m, s.admission.store.memberships.lookup p = some m → m.bodyID = b →
        m.status ≠ .active := by
  obtain ⟨sound, final⟩ := run_final run
  obtain ⟨⟨r, m₀, found, marked, held, status⟩, absent⟩ := final b revoked
  refine ⟨absent, ?_, ?_⟩
  · intro p m member same active
    have here := sound.coherent.member_eq found member same
    subst here
    have eq : m = m₀ := Option.some.inj (member.symm.trans held)
    rw [eq, status] at active
    cases active
  · intro p m saved same active
    subst same
    have here := (sound.coherent.stored p m saved).owner r found
    obtain ⟨m₁, saved', _, revokedToo⟩ := sound.coherent.stores _ r found
    rw [here] at saved'
    have eq : m = m₁ := Option.some.inj (saved.symm.trans saved')
    rw [eq, revokedToo marked] at active
    cases active

/-! A Body enrolls by invitation, authenticates and becomes the execution session; then it is
revoked and the Core restarts. -/

def sampleCore : CoreConfig := { sampleConfig with verifyProof := fun _ _ => true }

def sampleProof : Proof :=
  { version := 1
    coreID := 1
    bodyID := 3
    sessionID := 6
    bodyNonce := 9
    coreNonce := 7
    algorithm := .ed25519
    signature := 0 }

def sampleRevocation : List CoreAction :=
  ([.admission (.invite 100 []), .admission (.redeem (sampleRedeem 1 5))] : List CoreAction) ++
    List.replicate 5 (CoreAction.admission (.enrollStep true)) ++
    ([.connect, .hello 5 ⟨1, 3, some 9, [.ed25519]⟩ true, .connStep 5 true, .connStep 5 true,
      .prove 5 sampleProof true] : List CoreAction) ++
    List.replicate 8 (CoreAction.connStep 5 true) ++ [CoreAction.revoke 3 1] ++
    List.replicate 8 (CoreAction.revokeStep true) ++ [CoreAction.restart]

theorem revocation_final_restarted :
    ∃ trace s, (Core.system sampleCore).Run free (Core.init sampleCore) trace s ∧
      .activated 5 3 ∈ trace ∧ .revoked 3 ∈ trace ∧ s.execution.lookup 3 = none := by
  obtain ⟨trace, s, run, seen⟩ := System.replays?_run
    (show (Core.system sampleCore).replays? free sampleRevocation
      (fun trace _ => decide (.activated 5 3 ∈ trace ∧ .revoked 3 ∈ trace)) = true by decide)
  rw [decide_eq_true_iff] at seen
  exact ⟨trace, s, run, seen.1, seen.2, (revocation_final sampleCore run seen.2).1⟩

end NeonDoll.Enrollment
