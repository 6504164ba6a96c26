import NeonDoll.Relay.Isolation

/-!
# Authority of a Body attachment

A Body proves knowledge of a route's credential once, when it attaches.  A frame it exchanges
later should still belong to the incarnation of the route it was checked against.
-/

namespace NeonDoll.Relay

open Lib List GoMap AList Registry

/-- The registry holds the route in state Open with the given credential. -/
def Registry.holdsOpen (r : Registry) (R : RouteID) (token : Token) : Prop :=
  ∃ entry, r.route R = some entry ∧ entry.state = .open ∧ entry.credentials = token

/-- Whenever a frame is exchanged with a Body on a route, the registry holds the route open with the
credential that the Body has presented. -/
def Attested (s : State) : Event → Prop
  | .enqueued _ R b | .delivered R b | .forwarded R b _ =>
    ∃ conn, s.bodies.lookup b = some conn ∧ s.registry.holdsOpen R conn.credential
  | _ => True

/-! ## The admitted steps -/

/-- The route of a frame that is about to enter an inbox, and the Body of that inbox. -/
def State.enqueueing (s : State) (c : RegistrationID) : Option (RouteID × BodyID) :=
  match s.cores.lookup c with
  | some ⟨_, .enqueue routeID _ b⟩ => some (routeID, b)
  | _ => none

/-- The credential of a route in state Open. -/
def Registry.openCredential (r : Registry) (R : RouteID) : Option Token :=
  match r.route R with
  | none => none
  | some entry => if entry.state = .open then some entry.credentials else none

/-- The sections of a Body goroutine: it enters the table only while the route is still open
under the credential it was checked against, and writes to the Core only while it is attached. -/
def BodyConn.admitted (s : State) (b : BodyID) (conn : BodyConn) : Prop :=
  match conn.pc with
  | .insert => s.registry.openCredential conn.routeID = some conn.credential
  | .frameWrite _ _ => s.body.lookup conn.routeID = some b
  | _ => True

instance (s : State) (b : BodyID) (conn : BodyConn) : Decidable (conn.admitted s b) :=
  match h : conn.pc with
  | .insert => decidable_of_iff (s.registry.openCredential conn.routeID = some conn.credential)
      (by rw [BodyConn.admitted, h])
  | .frameWrite _ _ => decidable_of_iff (s.body.lookup conn.routeID = some b)
      (by rw [BodyConn.admitted, h])
  | .checkRoute | .checkCredential | .reply | .reading | .frameOwner _ | .frameConn _ _
  | .cleanup | .close | .exited => .isTrue (by rw [BodyConn.admitted, h]; trivial)

/-- A frame is exchanged, and a Body enters the table, only as the attachment allows; a write to a
closed connection exchanges nothing. -/
def exchangeGuard (s : State) : Action → Prop
  | .core c _ _ => ∀ target ∈ s.enqueueing c, s.body.lookup target.1 = some target.2
  | .body b => ∀ conn ∈ s.bodies.lookup b, conn.admitted s b
  | .drainWrite b =>
    ∀ conn ∈ s.bodies.lookup b, conn.closed = true ∨ s.body.lookup conn.routeID = some b
  | _ => True

instance (s : State) : (a : Action) → Decidable (exchangeGuard s a)
  | .core c _ _ => inferInstanceAs (Decidable (∀ target ∈ s.enqueueing c, _ = _))
  | .body b => inferInstanceAs (Decidable (∀ conn ∈ s.bodies.lookup b, BodyConn.admitted s b conn))
  | .drainWrite b => inferInstanceAs (Decidable (∀ conn ∈ s.bodies.lookup b, _ ∨ _))
  | .tick | .connect _ _ | .receive _ _ | .disconnect _ | .sweep | .sweepClose | .datagram _ _
  | .attach _ | .bodyReceive _ _ | .bodyDisconnect _ | .drainTake _ | .drainStop _ =>
    inferInstanceAs (Decidable True)

/-- No step takes a route out of the registry while a Body is attached to it, a Body enters the
table only under the current credential, and frames are exchanged only with an attached Body. -/
def attachmentGuard (cfg : Config) (s : State) (a : Action) : Prop :=
  (∀ R ∈ s.body.keys, ¬s.takesOut cfg R a) ∧ exchangeGuard s a

instance (cfg : Config) (s : State) (a : Action) : Decidable (attachmentGuard cfg s a) :=
  inferInstanceAs (Decidable (_ ∧ _))

/-! ## The invariant -/

/-- An attached Body has presented the credential of the open route. -/
structure Attached (s : State) : Prop where
  fresh : ∀ b conn, s.bodies.lookup b = some conn → b < s.nextID
  attached : ∀ R b, s.body.lookup R = some b → ∃ conn, s.bodies.lookup b = some conn ∧
    conn.routeID = R ∧ s.registry.holdsOpen R conn.credential

variable {cfg : Config} {s t u : State} {a : Action} {events : List Event} {c : RegistrationID}
  {core : CoreConn} {R : RouteID} {b : BodyID} {conn conn' : BodyConn}

theorem Registry.openCredential_eq_some {r : Registry} {token : Token} :
    r.openCredential R = some token ↔ r.holdsOpen R token := by
  rw [openCredential, holdsOpen]
  cases r.route R with
  | none => simp
  | some entry => simp

/-- An open route stays open with its credential, unless it is taken out. -/
theorem holdsOpen_kept {token : Token} (stepped : step? cfg s a = some (t, events))
    (held : s.registry.holdsOpen R token) :
    t.registry.holdsOpen R token ∨ s.takesOut cfg R a := by
  obtain ⟨entry, found, isOpen, current⟩ := held
  have move := step_route stepped R
  rw [Registry.holdsOpen, Registry.route]
  generalize t.registry.routes.lookup R = after at move ⊢
  cases move with
  | kept => exact .inl ⟨entry, found, isOpen, current⟩
  | removed _ out => exact .inr out
  | refreshed _ before credentials _ _ state =>
    cases found.symm.trans before
    refine .inl ⟨_, rfl, ?_, credentials.trans current⟩
    rcases state with same | opened
    · exact same.trans isOpen
    · exact opened
  | allocated _ _ absent => cases found.symm.trans absent

theorem Attached.attested (ok : Attached s) (attached : s.body.lookup R = some b) :
    ∃ conn, s.bodies.lookup b = some conn ∧ s.registry.holdsOpen R conn.credential := by
  obtain ⟨conn, found, -, held⟩ := ok.attached R b attached
  exact ⟨conn, found, held⟩

theorem attested_nil : ∀ e ∈ ([] : List Event), Attested s e :=
  nofun

/-! ## The tables of the Bodies -/

/-- The Body connections keep what they have presented, and an attachment is an old one or enters
under the current credential, in a step that leaves the registry alone. -/
structure BodiesKept (s t : State) : Prop where
  supply : s.nextID ≤ t.nextID
  keep : ∀ b conn, s.bodies.lookup b = some conn → ∃ conn', t.bodies.lookup b = some conn' ∧
    conn'.routeID = conn.routeID ∧ conn'.credential = conn.credential
  back : ∀ b conn, t.bodies.lookup b = some conn →
    (∃ conn', s.bodies.lookup b = some conn') ∨ b < t.nextID
  body : ∀ R b, t.body.lookup R = some b → s.body.lookup R = some b ∨
    t.registry = s.registry ∧ ∃ conn, s.bodies.lookup b = some conn ∧ conn.routeID = R ∧
      s.registry.holdsOpen R conn.credential

theorem BodiesKept.of_eq (bodies : t.bodies = s.bodies) (body : t.body = s.body)
    (supply : s.nextID ≤ t.nextID) : BodiesKept s t where
  supply := supply
  keep b conn found := ⟨conn, by rw [bodies, found], rfl, rfl⟩
  back b conn found := .inl ⟨conn, by rw [← bodies, found]⟩
  body R b attached := .inl (by rw [← body, attached])

theorem BodiesKept.insert (kept : BodiesKept s u) (found : s.bodies.lookup b = some conn)
    (bodies : t.bodies = u.bodies.insert b conn') (supply : u.nextID ≤ t.nextID)
    (route : conn'.routeID = conn.routeID) (credential : conn'.credential = conn.credential)
    (body : ∀ R b, t.body.lookup R = some b → s.body.lookup R = some b ∨
      t.registry = s.registry ∧ ∃ conn, s.bodies.lookup b = some conn ∧ conn.routeID = R ∧
        s.registry.holdsOpen R conn.credential) : BodiesKept s t where
  supply := kept.supply.trans supply
  keep k old foundOld := by
    rw [bodies, lookup_insert_ite]
    split
    · rename_i same
      rw [same, found] at foundOld
      cases foundOld
      exact ⟨conn', rfl, route, credential⟩
    · exact kept.keep k old foundOld
  back k new foundNew := by
    rw [bodies] at foundNew
    rcases lookup_insert_some foundNew with ⟨rfl, -⟩ | ⟨-, before⟩
    · exact .inl ⟨conn, found⟩
    · exact (kept.back k new before).imp_right fun fresh => fresh.trans_le supply
  body := body

theorem BodiesKept.setBody (found : s.bodies.lookup b = some conn)
    (bodies : t.bodies = s.bodies.insert b conn') (supply : s.nextID ≤ t.nextID)
    (route : conn'.routeID = conn.routeID) (credential : conn'.credential = conn.credential)
    (body : ∀ R b, t.body.lookup R = some b → s.body.lookup R = some b) : BodiesKept s t := by
  have same : BodiesKept s s := .of_eq rfl rfl le_rfl
  exact same.insert found bodies supply route credential fun R b attached =>
    .inl (body R b attached)

/-- A Body connection is cancelled. -/
theorem cancelBody_kept (bodies : t.bodies = (s.cancelBody b).bodies)
    (supply : s.nextID ≤ t.nextID)
    (body : ∀ R b, t.body.lookup R = some b → s.body.lookup R = some b) : BodiesKept s t where
  supply := supply
  keep k old found := by
    rw [bodies, State.cancelBody, lookup_modify]
    split
    · rename_i same
      rw [same] at found
      exact ⟨{ old with closed := true }, by rw [found]; rfl, rfl, rfl⟩
    · exact ⟨old, found, rfl, rfl⟩
  back k new found := by
    rw [bodies, State.cancelBody, lookup_modify] at found
    split at found
    · rename_i same
      obtain ⟨old, foundOld, -⟩ := Option.map_eq_some_iff.mp found
      exact .inl ⟨old, same ▸ foundOld⟩
    · exact .inl ⟨new, found⟩
  body R b attached := .inl (body R b attached)

theorem detachBody_kept (bodies : t.bodies = (s.detachBody R).1.bodies)
    (body : t.body = (s.detachBody R).1.body) (supply : s.nextID ≤ t.nextID) : BodiesKept s t := by
  rw [State.detachBody] at bodies body
  split at bodies
  · rename_i absent
    rw [absent] at body
    exact .of_eq bodies body supply
  · rename_i existing found
    rw [found] at body
    refine cancelBody_kept bodies supply fun R' b attached => ?_
    rw [body] at attached
    exact (lookup_erase_some attached).2

/-- Step rule: an attachment stays in order as long as its route is not taken out. -/
theorem Attached.move (ok : Attached s) (stepped : step? cfg s a = some (t, events))
    (stays : ∀ R ∈ s.body.keys, ¬s.takesOut cfg R a) (kept : BodiesKept s t) : Attached t where
  fresh b conn found := by
    rcases kept.back b conn found with ⟨old, before⟩ | fresh
    · exact (ok.fresh b old before).trans_le kept.supply
    · exact fresh
  attached R b attached := by
    rcases kept.body R b attached with old | ⟨registry, conn, found, route, held⟩
    · obtain ⟨conn, found, route, held⟩ := ok.attached R b old
      obtain ⟨conn', found', route', credential'⟩ := kept.keep b conn found
      have listed : R ∈ s.body.keys := mem_keys.mp ((mem_iff_lookup _ _).mpr ⟨b, old⟩)
      refine ⟨conn', found', route'.trans route, ?_⟩
      rw [credential']
      exact (holdsOpen_kept stepped held).resolve_right (stays R listed)
    · obtain ⟨conn', found', route', credential'⟩ := kept.keep b conn found
      refine ⟨conn', found', route'.trans route, ?_⟩
      rw [registry, credential']
      exact held

/-! ## The sections of the goroutines -/

theorem forwardStep_bodies (ok : Attached s)
    (serving : ∀ target ∈ s.enqueueing c, s.body.lookup target.1 = some target.2)
    (found : s.cores.lookup c = some core)
    (stepped : forwardStep cfg s c core core.pc = some (t, events)) :
    BodiesKept s t ∧ ∀ e ∈ events, Attested s e := by
  obtain ⟨routes, pc⟩ := core
  cases pc with
  | enqueue R payload b =>
    have attached : s.body.lookup R = some b :=
      serving (R, b) (by rw [State.enqueueing, found]; rfl)
    dsimp only [forwardStep] at stepped
    split at stepped
    · cases stepped
      exact ⟨.of_eq rfl rfl le_rfl, by simp⟩
    rename_i conn present
    split at stepped
    · cases stepped
      exact ⟨.setBody present rfl le_rfl rfl rfl fun _ _ h => h,
        forall_mem_singleton.mpr (ok.attested attached)⟩
    · cases stepped
      exact ⟨.of_eq rfl rfl le_rfl, by simp⟩
  | lookupBody | sendTo =>
    dsimp only [forwardStep] at stepped
    repeat' split at stepped
    all_goals
      cases stepped
      exact ⟨.of_eq rfl rfl le_rfl, by simp [Attested]⟩
  | _ => cases stepped

theorem withRegistry_bodies : BodiesKept s ((s.withRegistry result).setCore c core) := by
  cases result with
  | ok registry => exact .of_eq rfl rfl le_rfl
  | error err => exact .of_eq rfl rfl le_rfl

theorem openStep_bodies (stepped : openStep s c core socket rand core.pc = some (t, events)) :
    BodiesKept s t ∧ ∀ e ∈ events, Attested s e := by
  obtain ⟨routes, pc⟩ := core
  cases pc with
  | openAllocate R token port =>
    dsimp only [openStep] at stepped
    split at stepped
    · cases stepped
      exact ⟨.of_eq rfl rfl (Nat.le_succ _), by simp⟩
    all_goals
      cases stepped
      exact ⟨.of_eq rfl rfl le_rfl, by simp⟩
  | endpointLocked | rollbackRoute =>
    cases stepped
    exact ⟨withRegistry_bodies, by simp [Attested]⟩
  | rollbackEndpoint R port reply thenClose =>
    dsimp only [openStep] at stepped
    cases thenClose
    all_goals
      split at stepped
      all_goals
        cases stepped
        exact ⟨.of_eq rfl rfl le_rfl, by simp [Attested]⟩
  | openBind | openCompare | openOwned | openLocked | endpointOwned | openReply =>
    dsimp only [openStep] at stepped
    repeat' split at stepped
    all_goals
      cases stepped
      exact ⟨.of_eq rfl rfl le_rfl, by simp [Attested]⟩
  | _ => cases stepped

theorem detachEvents_attested : ∀ e ∈ detachEvents c R cause target, Attested s e := by
  cases target with
  | none => exact attested_nil
  | some b => exact forall_mem_singleton.mpr trivial

theorem closeStep_bodies (stepped : closeStep s c core core.pc = some (t, events)) :
    BodiesKept s t ∧ ∀ e ∈ events, Attested s e := by
  obtain ⟨routes, pc⟩ := core
  cases pc with
  | closeDetach R removed =>
    cases stepped
    refine ⟨detachBody_kept rfl rfl (detachBody_frame s R).2.2.ge, fun e member => ?_⟩
    rcases mem_append.mp member with detached | reply
    · exact detachEvents_attested e detached
    · rw [mem_singleton.mp reply]
      trivial
  | closeEndpoint | closeRoute =>
    dsimp only [closeStep] at stepped
    split at stepped
    all_goals
      cases stepped
      exact ⟨.of_eq rfl rfl le_rfl, by simp [Attested]⟩
  | _ => cases stepped

theorem downStep_bodies (stepped : downStep s c core core.pc = some (t, events)) :
    BodiesKept s t ∧ ∀ e ∈ events, Attested s e := by
  obtain ⟨routes, pc⟩ := core
  cases pc with
  | downDetach removed R rest =>
    cases stepped
    exact ⟨detachBody_kept rfl rfl (detachBody_frame s R).2.2.ge, detachEvents_attested⟩
  | downEndpoint removed rest =>
    cases rest with
    | nil =>
      cases stepped
      exact ⟨.of_eq rfl rfl le_rfl, attested_nil⟩
    | cons R rest =>
      dsimp only [downStep] at stepped
      split at stepped
      all_goals
        cases stepped
        exact ⟨.of_eq rfl rfl le_rfl, by simp [Attested]⟩
  | downConns | downSink | downRemove =>
    cases stepped
    exact ⟨.of_eq rfl rfl le_rfl, attested_nil⟩
  | _ => cases stepped

theorem replyEvents_attested : ∀ e ∈ replyEvents c reply, Attested s e := by
  cases reply with
  | none => exact attested_nil
  | some reply => exact forall_mem_singleton.mpr trivial

theorem coreStep_bodies (ok : Attached s)
    (serving : ∀ target ∈ s.enqueueing c, s.body.lookup target.1 = some target.2)
    (found : s.cores.lookup c = some core)
    (stepped : coreStep cfg s c core socket rand = some (t, events)) :
    BodiesKept s t ∧ ∀ e ∈ events, Attested s e := by
  rw [coreStep] at stepped
  split at stepped
  case h_1 | h_2 =>
    cases stepped
    exact ⟨.of_eq rfl rfl le_rfl, by simp [Attested]⟩
  case h_3 => cases stepped
  case h_4 =>
    cases stepped
    exact ⟨withRegistry_bodies, replyEvents_attested⟩
  case h_5 | h_6 | h_7 => exact forwardStep_bodies ok serving found stepped
  case h_8 | h_9 | h_10 | h_11 | h_12 | h_13 | h_14 | h_15 | h_16 | h_17 =>
    exact openStep_bodies stepped
  case h_18 | h_19 | h_20 => exact closeStep_bodies stepped
  case h_21 | h_22 | h_23 | h_24 | h_25 => exact downStep_bodies stepped

theorem bodyStep_bodies (ok : Attached s) (found : s.bodies.lookup b = some conn)
    (admitted : conn.admitted s b) (stepped : bodyStep s b conn = some (t, events)) :
    BodiesKept s t ∧ ∀ e ∈ events, Attested s e := by
  obtain ⟨routeID, credential, inbox, closed, pc, draining, inHand⟩ := conn
  have set : ∀ {conn' : BodyConn}, conn'.routeID = routeID → conn'.credential = credential →
      BodiesKept s (s.setBody b conn') := fun route same =>
    .setBody found rfl le_rfl route same fun _ _ h => h
  cases pc with
  | checkRoute | checkCredential | frameOwner | frameConn | reply | close =>
    dsimp only [bodyStep] at stepped
    repeat' split at stepped
    all_goals cases stepped
    all_goals exact ⟨set rfl rfl, by simp [attachRefused, Attested]⟩
  | insert =>
    -- the only section that enters an attachment
    have entered : ∀ R' b', (s.body.insert routeID b).lookup R' = some b' →
        s.body.lookup R' = some b' ∨ s.registry = s.registry ∧ ∃ conn,
          s.bodies.lookup b' = some conn ∧ conn.routeID = R' ∧
            s.registry.holdsOpen R' conn.credential := by
      intro R' b' attached
      rcases lookup_insert_some attached with ⟨rfl, rfl⟩ | ⟨-, old⟩
      · exact .inr ⟨rfl, _, found, rfl, openCredential_eq_some.mp admitted⟩
      · exact .inl old
    dsimp only [bodyStep] at stepped
    split at stepped
    · cases stepped
      have same : BodiesKept s s := .of_eq rfl rfl le_rfl
      exact ⟨same.insert found rfl le_rfl rfl rfl entered, attested_nil⟩
    · rename_i existing _
      cases stepped
      have cancelled : BodiesKept s (s.cancelBody existing) :=
        cancelBody_kept rfl le_rfl fun _ _ h => h
      exact ⟨cancelled.insert found rfl le_rfl rfl rfl entered, attested_nil⟩
  | frameWrite regID payload =>
    cases stepped
    exact ⟨set rfl rfl, forall_mem_singleton.mpr (ok.attested admitted)⟩
  | cleanup =>
    cases stepped
    refine ⟨.setBody found rfl le_rfl rfl rfl fun R' b' attached => ?_, attested_nil⟩
    change (if _ then _ else _ : GoMap RouteID BodyID).lookup R' = _ at attached
    split at attached
    · exact (lookup_erase_some attached).2
    · exact attached
  | reading | exited => cases stepped

/-! ## Every step and every run -/

theorem attachStep_bodies (ok : Attached s) : BodiesKept s (attachStep s message).1 := by
  rw [attachStep]
  split
  · exact .of_eq rfl rfl le_rfl
  refine ⟨Nat.le_succ _, ?_, ?_, fun _ _ => .inl⟩
  · intro b conn found
    have other : b ≠ s.nextID := (ok.fresh b conn found).ne
    exact ⟨conn, (lookup_insert_ne other).trans found, rfl, rfl⟩
  · intro b conn found
    rcases lookup_insert_some found with ⟨rfl, -⟩ | ⟨-, before⟩
    · exact .inr (Nat.lt_succ_self _)
    · exact .inl ⟨conn, before⟩

theorem step_bodies (ok : Attached s) (guard : exchangeGuard s a)
    (stepped : step? cfg s a = some (t, events)) :
    BodiesKept s t ∧ ∀ e ∈ events, Attested s e := by
  cases a <;> dsimp only [step?] at stepped
  case core c socket rand =>
    split at stepped
    · rename_i core found
      exact coreStep_bodies ok guard found stepped
    · cases stepped
  case body b =>
    split at stepped
    · cases stepped
    · rename_i conn found
      exact bodyStep_bodies ok found (guard conn found) stepped
  case attach message =>
    have kept : BodiesKept s (attachStep s message).1 := attachStep_bodies ok
    have result : attachStep s message = (t, events) := Option.some.inj stepped
    have quiet : ∀ e ∈ (attachStep s message).2, Attested s e := by
      rw [attachStep]
      split <;> simp [attachRefused, Attested]
    rw [result] at kept quiet
    exact ⟨kept, quiet⟩
  case connect token idGenerated =>
    have result : connectStep cfg s token idGenerated = (t, events) := Option.some.inj stepped
    rw [connectStep] at result
    repeat' split at result
    all_goals cases result
    all_goals first
      | exact ⟨.of_eq rfl rfl le_rfl, by simp [Attested]⟩
      | exact ⟨.of_eq rfl rfl (Nat.le_succ _), by simp [Attested]⟩
  case drainWrite b =>
    split at stepped
    · cases stepped
    rename_i conn found
    split at stepped
    · cases stepped
    cases stepped
    refine ⟨.setBody found rfl le_rfl rfl rfl fun _ _ h => h, ?_⟩
    split
    · exact attested_nil
    · rename_i closed
      exact forall_mem_singleton.mpr (ok.attested ((guard conn found).resolve_left closed))
  case bodyReceive b frame | bodyDisconnect b | drainTake b | drainStop b =>
    split at stepped
    · cases stepped
    rename_i conn found
    repeat' split at stepped
    all_goals cases stepped
    all_goals first
      | exact ⟨.of_eq rfl rfl le_rfl, attested_nil⟩
      | exact ⟨.setBody found rfl le_rfl rfl rfl fun _ _ h => h, attested_nil⟩
  case tick | receive c message | disconnect c | sweep | sweepClose | datagram R source =>
    repeat' split at stepped
    all_goals cases stepped
    all_goals exact ⟨.of_eq rfl rfl le_rfl, attested_nil⟩

theorem init_attached : Attached (State.init cfg) where
  fresh _ _ found := nomatch found
  attached _ _ found := nomatch found

/-- Attachment authority: in every run whose steps are admitted by `attachmentGuard`, every
frame exchanged with a Body on a route finds the registry holding that route open with the
credential the Body has presented. -/
theorem exchanges_attested (cfg : Config) {trace : List Event}
    (run : (system cfg).Run (attachmentGuard cfg) (State.init cfg) trace s) {a : Action}
    (guard : attachmentGuard cfg s a) (stepped : (system cfg).step? s a = some (t, events)) :
    ∀ e ∈ events, Attested s e := by
  have attached : Attached s := run.invariant init_attached fun ok admitted moved =>
    ok.move moved admitted.1 (step_bodies ok admitted.2 moved).1
  exact (step_bodies attached guard.2 stepped).2

/-- A frame of the owner reaches the Body that has presented the current credential. -/
theorem exchanges_attested_frame : ∃ trace s t events,
      (system sampleConfig).Run (attachmentGuard sampleConfig) (State.init sampleConfig) trace s ∧
      (system sampleConfig).step? s (.core 1 none true) = some (t, events) ∧
      .enqueued 1 7 3 ∈ events ∧ s.body.lookup 7 = some 3 ∧
      ∃ conn, s.bodies.lookup 3 = some conn ∧ s.registry.holdsOpen 7 conn.credential := by
  obtain ⟨trace, s, t, events, run, guard, stepped, reached⟩ :=
    Transition.System.reaches?_run
      (show (system sampleConfig).reaches? (attachmentGuard sampleConfig)
        (registerActions 1 ++ openActions 1 7 4000 ++ attachActions 3 7 2 ++ frameActions 1 7)
        (.core 1 none true)
        (fun s _ events => .enqueued 1 7 3 ∈ events ∧ s.body.lookup 7 = some 3) = true by decide)
  obtain ⟨enqueued, attached⟩ : Event.enqueued 1 7 3 ∈ events ∧ s.body.lookup 7 = some 3 :=
    of_decide_eq_true reached
  exact ⟨trace, s, t, events, run, stepped, enqueued, attached,
    exchanges_attested sampleConfig run guard stepped _ enqueued⟩

/-- The sweep expires route `7` while a Body is attached to it.  The Core `2` opens the route
with a fresh credential, and its frame is handed to the Body of the earlier incarnation. -/
theorem stale_attachment_receives : ∃ trace s t events,
      (system sampleConfig).Run Transition.free (State.init sampleConfig) trace s ∧
      (system sampleConfig).step? s (.core 2 none true) = some (t, events) ∧
      .enqueued 2 7 4 ∈ events ∧ s.body.lookup 7 = some 4 ∧
      (s.bodies.lookup 4).map BodyConn.credential = some 3 ∧
      s.registry.openCredential 7 = some 5 ∧ ¬ Attested s (.enqueued 2 7 4) := by
  obtain ⟨trace, s, t, events, run, _, stepped, reached⟩ :=
    Transition.System.reaches?_run
      (show (system sampleConfig).reaches? Transition.free
        (registerActions 1 ++ registerActions 2 ++ openActions 1 7 4000 ++ attachActions 4 7 3 ++
          List.replicate 6 .tick ++ [.sweep, .sweepClose] ++ openActions 2 7 4001 ++
          frameActions 2 7)
        (.core 2 none true)
        (fun s _ events => .enqueued 2 7 4 ∈ events ∧ s.body.lookup 7 = some 4 ∧
          (s.bodies.lookup 4).map BodyConn.credential = some 3 ∧
          s.registry.openCredential 7 = some 5) = true by decide)
  obtain ⟨enqueued, attached, presented, current⟩ : Event.enqueued 2 7 4 ∈ events ∧
      s.body.lookup 7 = some 4 ∧ (s.bodies.lookup 4).map BodyConn.credential = some 3 ∧
      s.registry.openCredential 7 = some 5 := of_decide_eq_true reached
  refine ⟨trace, s, t, events, run, stepped, enqueued, attached, presented, current, ?_⟩
  intro attested
  obtain ⟨_, found, entry, present, _, credential⟩ := attested
  rw [found] at presented
  obtain ⟨entry', present', _, credential'⟩ := openCredential_eq_some.mp current
  have same : entry = entry' := Option.some.inj (present.symm.trans present')
  have clash : (3 : Token) = 5 :=
    (Option.some.inj presented).symm.trans (credential.symm.trans (same ▸ credential'))
  exact absurd clash (by decide)

end NeonDoll.Relay
