import NeonDoll.Enrollment.Revocation

/-!
# Challenges are used once

An issued challenge is kept in one place: under its connection until a proof takes it, and then
with the attempt that has taken it.  Every attempt ends the challenge, so that an `Accept` spends
it.  The session that a challenge draws is never drawn again.
-/

namespace NeonDoll.Enrollment

open Lib Persistence Transition List Option Nat

/-! ## Where challenges are kept -/

/-- The proof that is being checked, with the challenge that it has taken. -/
def ConnPc.attempt : ConnPc → Option (Proof × AuthenticationChallenge)
  | .proofTaken proof pending _ => some (proof, pending)
  | .proofFetched proof pending _ _ => some (proof, pending)
  | _ => none

@[grind] def Core.attempt (s : Core) (c : ConnID) : Option (Proof × AuthenticationChallenge) :=
  match s.conns.lookup c with
  | none => none
  | some conn => conn.pc.attempt

inductive Place where
  | stored (c : ConnID)
  | taken (c : ConnID)

def Place.conn : Place → ConnID
  | .stored c => c
  | .taken c => c

def Core.held (s : Core) : Place → Option AuthenticationChallenge
  | .stored c => s.challenges.lookup c
  | .taken c => (s.attempt c).map Prod.snd

variable {s t : Core} {c : ConnID} {conn : Conn} {es : List CoreEvent}

theorem attempt_of_lookup (found : s.conns.lookup c = some conn) :
    s.attempt c = conn.pc.attempt := by
  rw [Core.attempt, found]

theorem attempt_of_insert (conns : t.conns = s.conns.insert c new) :
    t.attempt c' = if c' = c then new.pc.attempt else s.attempt c' := by
  grind

/-! ## What a step does to them -/

/-- Events that concern no challenge. -/
def CoreEvent.plain : CoreEvent → Bool
  | .challenged .. => false
  | .accepted .. => false
  | _ => true

/-- What the read loop of a connection is about to do with a proof. -/
def Core.Proves (s : Core) (c : ConnID) (proof : Proof) : Prop :=
  ∃ conn activates, s.conns.lookup c = some conn ∧ conn.pc = .proving proof activates

inductive ChallengeMove (cfg : CoreConfig) (s : Core) (es : List CoreEvent) (t : Core) : Prop where
  /-- Challenges may go, and none comes. -/
  | dropped
      (stored : ∀ c x, t.challenges.lookup c = some x → s.challenges.lookup c = some x)
      (attempts : ∀ c y, t.attempt c = some y → s.attempt c = some y)
      (ids : s.admission.nextID ≤ t.admission.nextID) (plain : ∀ e ∈ es, e.plain)
  | issued (c : ConnID) (x : AuthenticationChallenge)
      (stored : t.challenges = s.challenges.insert c x)
      (attempts : ∀ c y, t.attempt c = some y → s.attempt c = some y)
      (session : x.value.sessionID = s.admission.nextID)
      (ids : s.admission.nextID < t.admission.nextID) (body : x.value.bodyID = x.body.bodyID)
      (events : es = [.challenged c x.value])
  | taken (c : ConnID) (proof : Proof) (x : AuthenticationChallenge)
      (here : s.challenges.lookup c = some x) (proves : s.Proves c proof)
      (answers : proof.answers x.value s.admission.now = true)
      (stored : t.challenges = s.challenges.erase c)
      (attempts : ∀ c', t.attempt c' = if c' = c then some (proof, x) else s.attempt c')
      (ids : t.admission.nextID = s.admission.nextID) (events : es = [])
  | accepted (c : ConnID) (proof : Proof) (x : AuthenticationChallenge) (body : BodyRecord)
      (conn : Conn) (activates ok : Bool) (here : s.conns.lookup c = some conn)
      (pc : conn.pc = .proofFetched proof x body activates)
      (passed : finalCheck cfg s proof x body ok = true) (stored : t.challenges = s.challenges)
      (attempts : ∀ c', t.attempt c' = if c' = c then none else s.attempt c')
      (ids : t.admission.nextID = s.admission.nextID)
      (events : es = [.accepted c x.body.bodyID x.value.sessionID])

/-- A connection goes on without an attempt of its own. -/
theorem ChallengeMove.at_ (none_ : pc.attempt = none) (plain : ∀ e ∈ es, e.plain) :
    ChallengeMove cfg s es (s.at_ c conn pc) := by
  refine .dropped (fun _ _ found => found) ?_ (le_refl _) plain
  intro c' y found
  rw [attempt_of_insert rfl, none_] at found
  split at found
  · cases found
  · exact found

/-- The same where the challenge of the connection goes too, or `activationMu` changes hands. -/
theorem ChallengeMove.at_with (none_ : pc.attempt = none)
    (fewer : ∀ c x, challenges.lookup c = some x → s.challenges.lookup c = some x)
    (plain : ∀ e ∈ es, e.plain) : ChallengeMove cfg s es (({ s with
      challenges := challenges, execution := execution, activating := activating }).at_ c conn
        pc) := by
  refine .dropped fewer ?_ (le_refl _) plain
  intro c' y found
  rw [attempt_of_insert rfl, none_] at found
  split at found
  · cases found
  · exact found

theorem ChallengeMove.of_same (conns : t.conns = s.conns) (challenges : t.challenges = s.challenges)
    (ids : s.admission.nextID ≤ t.admission.nextID) (plain : ∀ e ∈ es, e.plain) :
    ChallengeMove cfg s es t := by
  grind [ChallengeMove]

theorem refuse_move (fewer : ∀ c x, challenges.lookup c = some x → s.challenges.lookup c = some x) :
    ChallengeMove cfg s [] (refuse { s with challenges := challenges } c conn activates) := by
  cases activates with
  | true | false => exact .at_with rfl fewer nofun

theorem helloStart_move : ChallengeMove cfg s [] (helloStart s c conn hello ok) := by
  rw [helloStart]
  split
  · exact .at_ rfl nofun
  split
  · exact .at_ rfl nofun
  split
  · split
    all_goals exact .at_ rfl nofun
  · exact .at_ rfl nofun

variable {proof : Proof}

theorem takeChallenge_move
    (here : s.conns.lookup c = some conn) (pc : conn.pc = .proving proof activates) :
    ChallengeMove cfg s [] (takeChallenge s c conn proof activates) := by
  rw [takeChallenge]
  split
  · exact refuse_move (by grind)
  rename_i pending found
  split
  · rename_i answers
    refine .taken c proof pending found ⟨conn, activates, here, pc⟩ answers rfl ?_ rfl rfl
    intro c'
    rw [attempt_of_insert rfl]
    rfl
  · exact refuse_move (by grind)

theorem connStep_move (here : s.conns.lookup c = some conn)
    (stepped : connStep cfg s c conn ok = some (t, es)) : ChallengeMove cfg s es t := by
  obtain ⟨pc, _, _⟩ := conn
  cases pc <;> simp only [connStep] at stepped
  case idle => cases stepped
  case helloFetched hello nonce body =>
    split at stepped
    all_goals
      cases stepped
      exact .at_ rfl (by simp)
  case helloEligible hello nonce body =>
    split at stepped
    · cases stepped
      refine .issued c (issueChallenge cfg s nonce body) rfl ?_ rfl ?_ rfl rfl
      · intro c' y found
        rw [attempt_of_insert rfl] at found
        split at found
        · cases found
        · exact found
      · exact Nat.lt_add_of_pos_right (by decide)
    · cases stepped
      exact .at_ rfl (by simp)
  case proving proof activates =>
    cases stepped
    exact takeChallenge_move here rfl
  case proofTaken proof pending activates =>
    split at stepped
    · cases stepped
      exact refuse_move (fun _ _ found => found)
    cases stepped
    refine .dropped (fun _ _ found => found) ?_ (le_refl _) (by simp)
    intro c' y found
    rw [attempt_of_insert rfl] at found
    split at found
    · rename_i same
      rw [same, attempt_of_lookup here]
      exact found
    · exact found
  case proofFetched proof pending body activates =>
    split at stepped
    · rename_i passed
      cases stepped
      refine .accepted c proof pending body _ activates ok here rfl passed rfl ?_ rfl rfl
      intro c'
      rw [attempt_of_insert rfl]
      cases activates with
      | true => rfl
      | false => rfl
    · cases stepped
      exact refuse_move (fun _ _ found => found)
  case accepted b =>
    split at stepped
    · cases stepped
    · cases stepped
      exact .at_with rfl (fun _ _ found => found) (by simp)
  case connecting b | accepting b | unblocking b =>
    split at stepped
    · cases stepped
      exact .at_ rfl (by simp)
    · cases stepped
      exact .at_with rfl (fun _ _ found => found) (by simp)
  case installing b =>
    cases stepped
    refine .at_with rfl (fun _ _ found => found) fun e member => ?_
    rw [mem_singleton.mp member]
    rfl
  case closing =>
    cases stepped
    exact .at_with rfl (by grind) (by simp)
  case cancelled => grind [map_eq_some_iff, cleanup, ChallengeMove, connStep]

theorem effect_draws {s t : State} {a : Action} {es : List Event} (effect : Effect s a es t) :
    s.nextID ≤ t.nextID := by
  grind [Effect]

theorem revokeAt_move (stepped : some (revokeAt m pc) = some (t, es)) (conns : m.conns = s.conns)
    (challenges : m.challenges = s.challenges)
    (ids : m.admission.nextID = s.admission.nextID) : ChallengeMove cfg s es t := by
  cases stepped
  exact .of_same conns challenges (le_of_eq ids.symm) nofun

variable {b : BodyID}

theorem revokeError_move (stepped : some (revokeError s b) = some (t, es)) :
    ChallengeMove cfg s es t := by
  cases stepped
  refine .of_same rfl rfl (le_refl _) fun e member => ?_
  rw [mem_singleton.mp member]
  rfl

theorem revokeStep_move (stepped : revokeStep s pc ok = some (t, es)) :
    ChallengeMove cfg s es t := by
  cases pc <;> simp only [revokeStep] at stepped
  case authorizing b =>
    split at stepped
    · exact revokeAt_move stepped rfl rfl rfl
    cases stepped
    refine .of_same rfl rfl (le_refl _) fun e member => ?_
    rw [mem_singleton.mp member]
    rfl
  case locking b | disconnecting b => grind [revokeAt_move, revokeStep]
  case fetching b | matching b body | storing b body m | withdrawing b m =>
    grind [revokeError_move, revokeAt_move, revokeStep]
  case refreshing b =>
    split at stepped
    · cases stepped
      refine .of_same rfl rfl (le_refl _) fun e member => ?_
      rw [mem_singleton.mp member]
      rfl
    · exact revokeError_move stepped

theorem step_challenge (stepped : Core.step? cfg s a = some (t, es)) :
    ChallengeMove cfg s es t := by
  cases a <;> simp only [Core.step?] at stepped
  case admission action =>
    split at stepped
    · cases stepped
    rename_i _ _ inner
    cases stepped
    refine .of_same rfl rfl (effect_draws (step_effect inner)) fun e member => ?_
    obtain ⟨_, -, rfl⟩ := mem_map.mp member
    rfl
  case connect =>
    cases stepped
    refine .dropped (fun _ _ found => found) ?_ (le_succ _) (by simp)
    intro c' y found
    rw [attempt_of_insert rfl] at found
    split at found
    · cases found
    · exact found
  case hello c message ok => grind [helloStart_move, Core.step?]
  case prove c message activates =>
    split at stepped
    · cases stepped
    split at stepped
    · obtain ⟨t', started, same⟩ := map_eq_some_iff.mp stepped
      cases same
      rw [proveStart] at started
      split at started
      · cases started
        exact .at_ rfl (by simp)
      split at started
      · cases started
      · cases started
        exact .at_ rfl (by simp)
    · cases stepped
  case connStep c ok => grind [connStep_move, Core.step?]
  case drop c =>
    split at stepped
    · cases stepped
    split at stepped
    · cases stepped
      exact .at_ rfl (by simp)
    · cases stepped
  case timer c =>
    obtain ⟨_, fired, same⟩ := map_eq_some_iff.mp stepped
    cases same
    rw [timerStep] at fired
    split at fired
    · cases fired
    split at fired
    · cases fired
    · cases fired
      exact .dropped (by grind) (fun _ _ found => found) (le_refl _) (by simp)
  case revoke b ownerID =>
    simp only [revokeStart] at stepped
    split at stepped
    · cases stepped
      refine .of_same rfl rfl (le_refl _) fun e member => ?_
      rw [mem_singleton.mp member]
      rfl
    · grind [revokeAt_move]
  case revokeStep ok => grind [revokeStep_move, Core.step?]
  case restart =>
    cases stepped
    exact .dropped (by rintro _ _ ⟨⟩) (by rintro _ _ ⟨⟩) (le_refl _) (by simp)

/-! ## Runs -/

/-- The trace knows every challenge that is kept somewhere, and no `Accept` has spent it. -/
@[grind] structure Unspent (past : List CoreEvent) (s : Core) : Prop where
  issued : ∀ {p x}, s.held p = some x →
    .challenged p.conn x.value ∈ past ∧ x.value.bodyID = x.body.bodyID
  unspent : ∀ {p x}, s.held p = some x → ∀ c b, .accepted c b x.value.sessionID ∉ past
  /-- A challenge is kept in one place. -/
  single : ∀ {p q x y}, s.held p = some x → s.held q = some y →
    x.value.sessionID = y.value.sessionID → p = q
  drawn : ∀ {c challenge}, .challenged c challenge ∈ past →
    challenge.sessionID < s.admission.nextID
  spent : ∀ {c b session}, .accepted c b session ∈ past → session < s.admission.nextID
  /-- A session belongs to one challenge. -/
  session : ∀ {c c' challenge challenge'}, .challenged c challenge ∈ past →
    .challenged c' challenge' ∈ past → challenge.sessionID = challenge'.sessionID →
    c = c' ∧ challenge = challenge'

theorem unspent_init : Unspent [] (Core.init cfg) where
  issued {p x} found := by cases p <;> cases found
  unspent _ _ _ member := nomatch member
  single {p q x y} found := by cases p <;> cases found
  drawn member := nomatch member
  spent member := nomatch member
  session member := nomatch member

theorem held_taken (found : s.attempt c = some y) : s.held (.taken c) = some y.2 := by
  rw [Core.held, found]
  rfl

theorem Unspent.fewer (ok : Unspent past s) (held : ∀ p x, t.held p = some x → s.held p = some x)
    (ids : s.admission.nextID ≤ t.admission.nextID) (plain : ∀ e ∈ es, e.plain) :
    Unspent (past ++ es) t := by
  have challenged : ∀ {c challenge}, CoreEvent.challenged c challenge ∈ past ++ es →
      .challenged c challenge ∈ past := by
    intro c challenge member
    obtain old | new := mem_append.mp member
    · exact old
    · cases plain _ new
  have accepted : ∀ {c b session}, CoreEvent.accepted c b session ∈ past ++ es →
      .accepted c b session ∈ past := by
    intro c b session member
    obtain old | new := mem_append.mp member
    · exact old
    · cases plain _ new
  constructor
  · grind
  · intro p x found c b member
    exact ok.unspent (held p x found) c b (accepted member)
  · intro p q x y foundP foundQ same
    exact ok.single (held p x foundP) (held q y foundQ) same
  · intro c challenge member
    exact lt_of_lt_of_le (ok.drawn (challenged member)) ids
  · intro c b session member
    exact lt_of_lt_of_le (ok.spent (accepted member)) ids
  · intro c c' challenge challenge' first second
    exact ok.session (challenged first) (challenged second)

theorem held_sub (stored : ∀ c x, t.challenges.lookup c = some x → s.challenges.lookup c = some x)
    (attempts : ∀ c y, t.attempt c = some y → s.attempt c = some y) :
    ∀ p x, t.held p = some x → s.held p = some x := by
  intro p x found
  cases p with
  | stored c => exact stored c x found
  | taken c =>
    obtain ⟨y, taken, rfl⟩ := map_eq_some_iff.mp found
    exact held_taken (attempts c y taken)

variable {x : AuthenticationChallenge}

theorem Unspent.issue (ok : Unspent past s) (stored : t.challenges = s.challenges.insert c x)
    (attempts : ∀ c y, t.attempt c = some y → s.attempt c = some y)
    (session : x.value.sessionID = s.admission.nextID)
    (ids : s.admission.nextID < t.admission.nextID) (body : x.value.bodyID = x.body.bodyID) :
    Unspent (past ++ [.challenged c x.value]) t := by
  have cases_ : ∀ {p y}, t.held p = some y → p = .stored c ∧ y = x ∨ s.held p = some y := by
    intro p y found
    cases p with
    | stored c' => grind [Core.held]
    | taken c' =>
      obtain ⟨y, taken, rfl⟩ := map_eq_some_iff.mp found
      exact .inr (held_taken (attempts c' y taken))
  have accepted : ∀ {c' b id}, CoreEvent.accepted c' b id ∈ past ++ [.challenged c x.value] →
      .accepted c' b id ∈ past := by simp
  have challenged : ∀ {c' challenge},
      CoreEvent.challenged c' challenge ∈ past ++ [.challenged c x.value] →
        .challenged c' challenge ∈ past ∨ c' = c ∧ challenge = x.value := by simp
  constructor
  · intro p y found
    obtain ⟨rfl, rfl⟩ | before := cases_ found
    · exact ⟨mem_append_right _ mem_cons_self, body⟩
    · obtain ⟨member, named⟩ := ok.issued before
      exact ⟨mem_append_left _ member, named⟩
  · grind
  · grind
  · grind
  · intro c' b id member
    exact lt_trans (ok.spent (accepted member)) ids
  · grind

theorem Unspent.take (ok : Unspent past s) (here : s.challenges.lookup c = some x)
    (stored : t.challenges = s.challenges.erase c)
    (attempts : ∀ c', t.attempt c' = if c' = c then some (proof, x) else s.attempt c')
    (ids : t.admission.nextID = s.admission.nextID) : Unspent past t := by
  have cases_ : ∀ {p y}, t.held p = some y → p = .taken c ∧ y = x ∨
      s.held p = some y ∧ p ≠ .stored c := by
    intro p y found
    cases p with
    | stored c' => grind [Core.held]
    | taken c' =>
      obtain ⟨z, taken, rfl⟩ := map_eq_some_iff.mp found
      rw [attempts] at taken
      split at taken
      · grind
      · exact .inr ⟨held_taken taken, nofun⟩
  have before : s.held (.stored c) = some x := here
  constructor
  · intro p y found
    obtain ⟨rfl, rfl⟩ | ⟨held, -⟩ := cases_ found
    · have known := ok.issued before
      exact known
    · exact ok.issued held
  · grind
  · grind
  · rw [ids]
    exact ok.drawn
  · rw [ids]
    exact ok.spent
  · exact ok.session

/-- An `Accept` spends the challenge of its attempt and no other. -/
theorem Unspent.accept (ok : Unspent past s) (here : s.attempt c = some (proof, x))
    (stored : t.challenges = s.challenges)
    (attempts : ∀ c', t.attempt c' = if c' = c then none else s.attempt c')
    (ids : t.admission.nextID = s.admission.nextID) :
    Unspent (past ++ [.accepted c b x.value.sessionID]) t := by
  have kept : ∀ {p y}, t.held p = some y → s.held p = some y ∧ p ≠ .taken c := by
    intro p y found
    cases p with
    | stored c' =>
      rw [Core.held, stored] at found
      exact ⟨found, nofun⟩
    | taken c' =>
      obtain ⟨z, taken, rfl⟩ := map_eq_some_iff.mp found
      rw [attempts] at taken
      split at taken
      · cases taken
      · rename_i differ
        exact ⟨held_taken taken, fun same => differ (Place.taken.inj same)⟩
  have before : s.held (.taken c) = some x := held_taken here
  have challenged : ∀ {c' challenge},
      CoreEvent.challenged c' challenge ∈ past ++ [.accepted c b x.value.sessionID] →
        .challenged c' challenge ∈ past := by simp
  constructor
  · grind
  · grind
  · intro p q y z foundP foundQ same
    exact ok.single (kept foundP).1 (kept foundQ).1 same
  · grind
  · grind
  · intro c' c'' challenge challenge' first second
    exact ok.session (challenged first) (challenged second)

theorem step_unspent (ok : Unspent past s)
    (stepped : Core.step? cfg s a = some (t, es)) : Unspent (past ++ es) t := by
  cases step_challenge stepped with
  | dropped stored attempts ids plain => exact ok.fewer (held_sub stored attempts) ids plain
  | issued c x stored attempts session ids body events =>
    subst events
    exact ok.issue stored attempts session ids body
  | taken c proof x here _ _ stored attempts ids events =>
    subst events
    rw [append_nil]
    exact ok.take here stored attempts ids
  | accepted c proof x body conn activates okay here pc _ stored attempts ids events =>
    subst events
    have taken : s.attempt c = some (proof, x) := by
      rw [attempt_of_lookup here, pc]
      rfl
    exact ok.accept taken stored attempts ids

/-- The step in which a proof takes the challenge of its connection, in time. -/
def Core.Takes (c : ConnID) (proof : Proof) (challenge : Challenge) (s : Core)
    (_ : CoreAction) (_ : List CoreEvent) : Prop :=
  s.Proves c proof ∧ (∃ x, s.challenges.lookup c = some x ∧ x.value = challenge) ∧
    s.admission.now < challenge.expiresAt

/-- The fields of a proof are those of the challenge. -/
structure Proof.Matches (proof : Proof) (challenge : Challenge) : Prop where
  version : proof.version = authenticationVersion
  coreID : proof.coreID = challenge.coreID
  bodyID : proof.bodyID = challenge.bodyID
  sessionID : proof.sessionID = challenge.sessionID
  bodyNonce : proof.bodyNonce = challenge.bodyNonce
  coreNonce : proof.coreNonce = challenge.coreNonce
  algorithm : proof.algorithm = challenge.algorithm

theorem matches_of_answers (answers : proof.answers challenge now = true) :
    proof.Matches challenge ∧ now < challenge.expiresAt := by
  obtain ⟨version, time, core, body, session, bodyNonce, coreNonce, algorithm⟩ :=
    of_decide_eq_true answers
  exact ⟨⟨version, core, body, session, bodyNonce, coreNonce, algorithm⟩, time⟩

/-- Every attempt has taken its challenge in time and with the right fields. -/
theorem attempt_taken (run : (Core.system cfg).Run free (Core.init cfg) trace s) :
    ∀ c proof x, s.attempt c = some (proof, x) → proof.Matches x.value ∧
      (Core.system cfg).Past free (Core.Takes c proof x.value) (Core.init cfg) s := by
  induction run with
  | refl => exact nofun
  | tail run admitted stepped ih =>
    rename_i m last _ _ _
    have earlier : ∀ {c proof x}, m.attempt c = some (proof, x) → proof.Matches x.value ∧
        (Core.system cfg).Past free (Core.Takes c proof x.value) (Core.init cfg) last := by
      intro c proof x found
      obtain ⟨fields, past⟩ := ih c proof x found
      exact ⟨fields, past.tail admitted stepped⟩
    intro c proof x found
    cases step_challenge stepped with
    | dropped _ attempts | issued _ _ _ attempts => exact earlier (attempts c _ found)
    | taken c' proof' x' here proves answers _ attempts =>
      rw [attempts] at found
      split at found
      · rename_i same
        cases found
        subst same
        obtain ⟨fields, time⟩ := matches_of_answers answers
        exact ⟨fields, .last run admitted stepped ⟨proves, ⟨x, here, rfl⟩, time⟩⟩
      · exact earlier found
    | accepted _ _ _ _ _ _ _ _ _ _ _ attempts => grind

theorem finalCheck_verified (passed : finalCheck cfg s proof pending body ok = true) :
    body.revokedAt = none ∧ cfg.verifyProof body.publicKey proof = true := by
  obtain ⟨unrevoked, -, -, -, -, verified, -⟩ := of_decide_eq_true passed
  exact ⟨isNone_iff_eq_none.mp unrevoked, verified⟩

/-- An `Accept` answers one challenge that was issued on its connection and that no other
`Accept` has answered.  The proof was taken before the challenge expired, it has the fields of
the challenge, and it is signed with the unrevoked key that the claimed Body has now. -/
theorem accept_answers_challenge (cfg : CoreConfig) {trace : List CoreEvent} {s t : Core}
    {a : CoreAction} {es : List CoreEvent} {c : ConnID} {b : BodyID} {session : Nat}
    (run : (Core.system cfg).Run free (Core.init cfg) trace s)
    (stepped : (Core.system cfg).step? s a = some (t, es)) (accepted : .accepted c b session ∈ es) :
    (∀ c' b', .accepted c' b' session ∉ trace) ∧ es = [.accepted c b session] ∧
      ∃ challenge proof body, .challenged c challenge ∈ trace ∧ challenge.sessionID = session ∧
        (∀ c' challenge', .challenged c' challenge' ∈ trace → challenge'.sessionID = session →
          c' = c ∧ challenge' = challenge) ∧
        (Core.system cfg).Past free (Core.Takes c proof challenge) (Core.init cfg) s ∧
        proof.Matches challenge ∧ proof.bodyID = b ∧
        s.admission.store.bodies.lookup b = some body ∧ body.revokedAt = none ∧
        cfg.verifyProof body.publicKey proof = true := by
  have unspent : Unspent trace s :=
    run.history (P := Unspent) (unspent_init) fun ok _ stepped => step_unspent ok stepped
  cases step_challenge stepped with
  | dropped _ _ _ plain => cases plain _ accepted
  | issued c' x _ _ _ _ _ events =>
    subst events
    cases mem_singleton.mp accepted
  | taken _ _ _ _ _ _ _ _ _ events =>
    subst events
    cases accepted
  | accepted c' proof x body conn activates ok here pc passed _ _ _ events =>
    subst events
    cases mem_singleton.mp accepted
    have taken : s.attempt c = some (proof, x) := by
      rw [attempt_of_lookup here, pc]
      rfl
    obtain ⟨fields, past⟩ := attempt_taken run c proof x taken
    obtain ⟨known, named⟩ := unspent.issued (held_taken taken)
    obtain ⟨unrevoked, verified⟩ := finalCheck_verified passed
    -- The record that was fetched is still the current one.
    have current := (run_final run).1.conns c conn here
    rw [pc] at current
    refine ⟨unspent.unspent (held_taken taken), rfl, x.value, proof, body, known, rfl, ?_, past,
      fields, fields.bodyID.trans named, current, unrevoked, verified⟩
    intro c' challenge' member same
    exact unspent.session member known same

/-- The Body of the sample run authenticates. -/
theorem accept_answers_challenge_sample :
    ∃ trace s t es, (Core.system sampleCore).Run free (Core.init sampleCore) trace s ∧
      (Core.system sampleCore).step? s (.connStep 5 true) = some (t, es) ∧
      es = [.accepted 5 3 6] ∧ ∀ c' b', .accepted c' b' 6 ∉ trace := by
  have reached : (Core.system sampleCore).reaches? free (sampleRevocation.take 14)
      (.connStep 5 true) (fun _ _ es => es = [.accepted 5 3 6]) = true := by decide
  obtain ⟨trace, s, t, es, run, -, stepped, found⟩ := System.reaches?_run reached
  have accepted : CoreEvent.accepted 5 3 6 ∈ es := by
    rw [of_decide_eq_true found]
    exact mem_cons_self
  obtain ⟨once, only, -⟩ := accept_answers_challenge sampleCore run stepped accepted
  exact ⟨trace, s, t, es, run, stepped, only, once⟩

/-- The clock passes the expiry between the check of the proof and the `Accept`. -/
theorem accept_after_expiry :
    ∃ trace s t proof x, (Core.system sampleCore).Run free (Core.init sampleCore) trace s ∧
      (Core.system sampleCore).step? s (.connStep 5 true) = some (t, [.accepted 5 3 6]) ∧
      s.attempt 5 = some (proof, x) ∧ x.value.sessionID = 6 ∧
      x.value.expiresAt ≤ s.admission.now := by
  have reached : (Core.system sampleCore).reaches? free
      (sampleRevocation.take 14 ++ [.admission (.tick (2 * challengeLifetime))]) (.connStep 5 true)
      (fun s _ es => es = [.accepted 5 3 6] ∧ (s.attempt 5).any fun y =>
        y.2.value.sessionID = 6 ∧ y.2.value.expiresAt ≤ s.admission.now) = true := by decide
  obtain ⟨trace, s, t, _, run, -, stepped, found⟩ := System.reaches?_run reached
  obtain ⟨rfl, late⟩ := of_decide_eq_true found
  obtain ⟨⟨proof, x⟩, taken, late⟩ := (Option.any_eq_true _ _).mp late
  exact ⟨trace, s, t, proof, x, run, stepped, taken, of_decide_eq_true late⟩

end NeonDoll.Enrollment
