import NeonDoll.Relay.RouteTable

/-!
# Isolation of routes between Cores

Every effect of a handler on a route should happen while the registry holds the route for the
registration that the handler acts for.  What a handler looks at is `core.routes`; the invariant
ties it to the registry for every goroutine at every program counter.
-/

namespace NeonDoll.Relay

open Lib List AList GoMap Registry

/-- The effects on a route that a handler performs on behalf of a registration find the registry
holding the route for that registration. -/
def Authorised (s : State) : Event → Prop
  | .enqueued c R _ | .sentTo c R | .endpointClosed c R _ | .detached c R _ _ => s.owner R = some c
  | _ => True

/-! ## The admitted steps -/

/-- `RouteClose` detaches after `CloseRoute`, so it finds no Body; no `RouteOpen` has failed after
its bind and closes the endpoint of a route that it may not own. -/
def CorePc.admitted (s : State) : CorePc → Prop
  | .closeDetach R _ => s.body.lookup R = none
  | .rollbackEndpoint .. => False
  | _ => True

instance (s : State) (pc : CorePc) : Decidable (pc.admitted s) :=
  match pc with
  | .closeDetach R _ => inferInstanceAs (Decidable (s.body.lookup R = none))
  | .rollbackEndpoint .. => inferInstanceAs (Decidable False)
  | .addConn | .setSink | .idle | .keepalive _ | .lookupBody .. | .enqueue .. | .sendTo ..
  | .openBind .. | .openAllocate .. | .openCompare .. | .openOwned .. | .openLocked ..
  | .endpointOwned .. | .endpointLocked .. | .openReply .. | .rollbackRoute .. | .closeEndpoint _
  | .closeRoute _ | .downConns | .downSink _ | .downRemove _ | .downEndpoint .. | .downDetach .. =>
    inferInstanceAs (Decidable True)

/-- No sweep takes a route out of the registry, a Core closes its routes before it disconnects, and
the sections that act after giving up a route have nothing to do. -/
def isolationGuard (cfg : Config) (s : State) : Action → Prop
  | .sweep =>
    (s.registry.expireStale s.clock cfg.registrationTimeout
      cfg.routeTimeout).2.allExpiredRoutes = []
  | .disconnect c => ∀ core ∈ s.cores.lookup c, core.routes.keys = []
  | .core c _ _ => ∀ core ∈ s.cores.lookup c, core.pc.admitted s
  | _ => True

instance (cfg : Config) (s : State) : (a : Action) → Decidable (isolationGuard cfg s a)
  | .sweep => inferInstanceAs (Decidable (_ = []))
  | .disconnect c => inferInstanceAs (Decidable (∀ core ∈ s.cores.lookup c, core.routes.keys = []))
  | .core c _ _ => inferInstanceAs (Decidable (∀ core ∈ s.cores.lookup c, core.pc.admitted s))
  | .tick | .connect _ _ | .receive _ _ | .sweepClose | .datagram _ _ | .attach _
  | .bodyReceive _ _ | .bodyDisconnect _ | .body _ | .drainTake _ | .drainWrite _
  | .drainStop _ => inferInstanceAs (Decidable True)

/-! ## The invariant -/

/-- A handler of an accepted message works on a route of the connection, a `RouteOpen` about to
enter its route owns it, and a cleanup has no route to close. -/
def CorePc.Entitled (owner : RouteID → Option RegistrationID) (c : RegistrationID)
    (routes : GoMap RouteID Unit) : CorePc → Prop
  | .lookupBody R _ | .enqueue R _ _ | .sendTo R _ | .closeEndpoint R | .closeRoute R => R ∈ routes
  | .endpointOwned R _ | .endpointLocked R _ => owner R = some c
  | .rollbackRoute .. | .downDetach .. => False
  | .downConns => routes.keys = []
  | .downSink rest | .downRemove rest | .downEndpoint _ rest => routes.keys = [] ∧ rest = []
  | _ => True

structure CoreOk (owner : RouteID → Option RegistrationID) (c : RegistrationID) (core : CoreConn) :
    Prop where
  owned : ∀ R ∈ core.routes, owner R = some c
  entitled : core.pc.Entitled owner c core.routes

structure Isolated (s : State) : Prop where
  consistent : s.registry.Consistent
  each : ∀ c core, s.cores.lookup c = some core → CoreOk s.owner c core

variable {cfg : Config} {s t : State} {c : RegistrationID} {core core' : CoreConn} {R : RouteID}
  {events : List Event} {routes : GoMap RouteID Unit}

theorem CoreOk.frame (ok : CoreOk owner c core)
    (kept : ∀ R, owner R = some c → owner' R = some c) : CoreOk owner' c core := by
  obtain ⟨routes, pc⟩ := core
  refine ⟨fun R member => kept R (ok.owned R member), ?_⟩
  cases pc with
  | endpointOwned R _ => exact kept R ok.entitled
  | endpointLocked R _ => exact kept R ok.entitled
  | _ => exact ok.entitled

/-- A goroutine takes no route but its own out of the registry. -/
theorem takesOut_core (ok : s.registry.Consistent)
    (out : s.takesOut cfg R (.core c socket rand)) : s.owner R = some c := by
  obtain ⟨⟨_, pc⟩, -, here⟩ := (Option.any_eq_true _ _).mp out
  cases pc with
  | closeRoute | rollbackRoute => exact (of_decide_eq_true here).2
  | downRemove =>
    have listed := of_decide_eq_true here
    rw [removeRegistration] at listed
    split at listed
    · cases listed
    · rename_i reg found
      exact (ok c R).mpr ⟨reg, found, mem_keys.mpr listed⟩
  | _ => cases here

/-! ## Moving one goroutine -/

/-- The other connections do not notice a step of a goroutine. -/
theorem Isolated.advance (ok : Isolated s)
    (stepped : step? cfg s (.core c socket rand) = some (t, events))
    (cores : t.cores = s.cores.insert c core') (own : CoreOk t.owner c core') : Isolated t where
  consistent := step_consistent ok.consistent stepped
  each k conn found := by
    rw [cores] at found
    rcases lookup_insert_some found with ⟨rfl, rfl⟩ | ⟨other, found⟩
    · exact own
    · refine (ok.each k conn found).frame fun R owned => owner_kept stepped owned fun out => ?_
      exact other (Option.some.inj (owned.symm.trans (takesOut_core ok.consistent out)))

/-- What holds of one connection under the owners before a step that takes nothing out holds
afterwards. -/
theorem Isolated.insert (ok : Isolated s) (stepped : step? cfg s a = some (t, events))
    (stays : ∀ R, ¬s.takesOut cfg R a) (cores : t.cores = s.cores.insert c core')
    (own : CoreOk s.owner c core') : Isolated t where
  consistent := step_consistent ok.consistent stepped
  each k conn found := by
    have kept : ∀ k R, s.owner R = some k → t.owner R = some k := fun _ R owned =>
      owner_kept stepped owned (stays R)
    rw [cores] at found
    rcases lookup_insert_some found with ⟨rfl, rfl⟩ | ⟨-, found⟩
    · exact own.frame (kept k)
    · exact (ok.each k conn found).frame (kept k)

/-- The sections that take routes out. -/
def CorePc.removes : CorePc → Bool
  | .closeRoute _ | .rollbackRoute .. | .downRemove _ => true
  | _ => false

theorem takesOut_none {core : CoreConn} (found : s.cores.lookup c = some core)
    (keeps : core.pc.removes = false) (R : RouteID) :
    ¬s.takesOut cfg R (.core c socket rand) := by
  dsimp only [State.takesOut]
  rw [found]
  obtain ⟨_, pc⟩ := core
  cases pc <;> first | exact Bool.false_ne_true | cases keeps

theorem Isolated.goto (ok : Isolated s) (found : s.cores.lookup c = some core)
    (stepped : step? cfg s (.core c socket rand) = some (t, events))
    (keeps : core.pc.removes = false) (cores : t.cores = s.cores.insert c core')
    (own : CoreOk s.owner c core') : Isolated t :=
  ok.insert stepped (takesOut_none found keeps) cores own

theorem Isolated.of_cores (ok : Isolated s) (stepped : step? cfg s a = some (t, events))
    (cores : t.cores = s.cores) (stays : ∀ R, ¬s.takesOut cfg R a) : Isolated t where
  consistent := step_consistent ok.consistent stepped
  each k conn found :=
    (ok.each k conn (cores ▸ found)).frame fun R owned => owner_kept stepped owned (stays R)

theorem authorised_nil : ∀ e ∈ ([] : List Event), Authorised s e :=
  nofun

theorem authorised_singleton (authorised : Authorised s e) : ∀ e' ∈ [e], Authorised s e' :=
  forall_mem_singleton.mpr authorised

/-! ## The sections of a Core goroutine -/

/-- A frame or a `RouteClose` is dispatched for routes of the connection only. -/
theorem dispatch_entitled (core : CoreConn) (message : CoreMessage) :
    (core.dispatch message).1.Entitled owner c core.routes := by
  rw [CoreConn.dispatch.eq_def]
  repeat' split
  all_goals first | assumption | trivial

theorem replyEvents_authorised : ∀ e ∈ replyEvents c reply, Authorised s e := by
  cases reply with
  | none => exact authorised_nil
  | some reply => exact authorised_singleton trivial

section

variable (ok : Isolated s) (found : s.cores.lookup c = some ⟨routes, pc⟩)
  (whole : step? cfg s (.core c socket rand) = some (t, events))

include ok found whole

theorem forwardStep_isolated (stepped : forwardStep cfg s c ⟨routes, pc⟩ pc = some (t, events)) :
    Isolated t ∧ ∀ e ∈ events, Authorised s e := by
  have each := ok.each c _ found
  cases pc with
  | lookupBody R payload =>
    dsimp only [forwardStep] at stepped
    split at stepped
    all_goals
      cases stepped
      exact ⟨ok.goto found whole rfl rfl ⟨each.owned, each.entitled⟩, authorised_nil⟩
  | enqueue R payload b =>
    have rest : CoreOk s.owner c ⟨routes, .idle⟩ := ⟨each.owned, trivial⟩
    dsimp only [forwardStep] at stepped
    split at stepped
    · cases stepped
      exact ⟨ok.goto found whole rfl rfl rest, authorised_nil⟩
    · split at stepped
      · cases stepped
        exact ⟨ok.goto found whole rfl rfl rest,
          authorised_singleton (each.owned R each.entitled)⟩
      · cases stepped
        exact ⟨ok.goto found whole rfl rfl rest, authorised_nil⟩
  | sendTo R payload =>
    cases stepped
    exact ⟨ok.goto found whole rfl rfl ⟨each.owned, trivial⟩,
      authorised_singleton (each.owned R each.entitled)⟩
  | _ => cases stepped

theorem openStep_isolated (admitted : pc.admitted s)
    (stepped : openStep s c ⟨routes, pc⟩ socket rand pc = some (t, events)) :
    Isolated t ∧ ∀ e ∈ events, Authorised s e := by
  have each := ok.each c _ found
  -- the route enters `core.routes`
  have entered : ∀ {R port}, s.owner R = some c →
      CoreOk s.owner c ⟨routes.insert R (), .openReply R port⟩ := by
    refine fun mine => ⟨fun R' member => ?_, trivial⟩
    rcases (mem_insert _).mp member with rfl | old
    · exact mine
    · exact each.owned R' old
  cases pc with
  | openBind R token =>
    dsimp only [openStep] at stepped
    split at stepped
    · cases stepped
      exact ⟨ok.goto found whole rfl rfl ⟨each.owned, trivial⟩, authorised_singleton trivial⟩
    · cases stepped
      exact ⟨ok.goto found whole rfl rfl ⟨each.owned, trivial⟩, authorised_nil⟩
  | openAllocate | openCompare | openOwned =>
    dsimp only [openStep] at stepped
    split at stepped
    all_goals
      cases stepped
      exact ⟨ok.goto found whole rfl rfl ⟨each.owned, trivial⟩, authorised_nil⟩
  | openLocked R port =>
    dsimp only [openStep] at stepped
    split at stepped
    · rename_i opened
      cases stepped
      obtain ⟨entry, present, mine, -⟩ := openRouteLocked_ok opened
      exact ⟨ok.goto found whole rfl rfl
        ⟨each.owned, routeRegistration_eq_some.mpr ⟨entry, present, mine⟩⟩, authorised_nil⟩
    · cases stepped
      exact ⟨ok.goto found whole rfl rfl ⟨each.owned, trivial⟩, authorised_nil⟩
  | endpointOwned R port =>
    dsimp only [openStep] at stepped
    split at stepped
    · cases stepped
      exact ⟨ok.goto found whole rfl rfl ⟨each.owned, each.entitled⟩, authorised_nil⟩
    · cases stepped
      exact ⟨ok.goto found whole rfl rfl (entered each.entitled), authorised_nil⟩
  | endpointLocked R port =>
    cases stepped
    exact ⟨ok.goto found whole rfl withRegistry_setCore_cores (entered each.entitled),
      authorised_nil⟩
  | openReply R port =>
    cases stepped
    exact ⟨ok.goto found whole rfl rfl ⟨each.owned, trivial⟩, authorised_singleton trivial⟩
  | rollbackEndpoint => exact admitted.elim
  | rollbackRoute => exact each.entitled.elim
  | _ => cases stepped

theorem closeStep_isolated (admitted : pc.admitted s)
    (stepped : closeStep s c ⟨routes, pc⟩ pc = some (t, events)) :
    Isolated t ∧ ∀ e ∈ events, Authorised s e := by
  have each := ok.each c _ found
  cases pc with
  | closeEndpoint R =>
    dsimp only [closeStep] at stepped
    split at stepped
    · cases stepped
      exact ⟨ok.goto found whole rfl rfl ⟨each.owned, each.entitled⟩,
        authorised_singleton (each.owned R each.entitled)⟩
    · cases stepped
      exact ⟨ok.goto found whole rfl rfl ⟨each.owned, each.entitled⟩, authorised_nil⟩
  | closeRoute R =>
    have left : ∀ {removed}, CoreOk t.owner c ⟨routes.erase R, .closeDetach R removed⟩ := by
      refine ⟨fun R' member => ?_, trivial⟩
      obtain ⟨other, old⟩ := mem_erase.mp member
      refine owner_kept whole (each.owned R' old) ?_
      rw [State.takesOut, found]
      exact fun out => other (of_decide_eq_true out).1
    dsimp only [closeStep] at stepped
    split at stepped
    all_goals
      cases stepped
      exact ⟨ok.advance whole rfl left, authorised_nil⟩
  | closeDetach R removed =>
    have bare : s.detachBody R = (s, none) := by
      rw [State.detachBody, (admitted : s.body.lookup R = none)]
    dsimp only [closeStep] at stepped
    rw [bare] at stepped
    cases stepped
    exact ⟨ok.goto found whole rfl rfl ⟨each.owned, trivial⟩, authorised_singleton trivial⟩
  | _ => cases stepped

theorem downStep_isolated (stepped : downStep s c ⟨routes, pc⟩ pc = some (t, events)) :
    Isolated t ∧ ∀ e ∈ events, Authorised s e := by
  have each := ok.each c _ found
  cases pc with
  | downConns =>
    cases stepped
    exact ⟨ok.goto found whole rfl rfl ⟨each.owned, each.entitled, each.entitled⟩, authorised_nil⟩
  | downSink rest =>
    cases stepped
    exact ⟨ok.goto found whole rfl rfl ⟨each.owned, each.entitled⟩, authorised_nil⟩
  | downRemove rest =>
    obtain ⟨none, done⟩ := each.entitled
    cases stepped
    refine ⟨ok.advance whole rfl ⟨fun R member => ?_, none, done⟩, authorised_nil⟩
    have listed : R ∈ routes.keys := mem_keys.mp member
    rw [none] at listed
    cases listed
  | downEndpoint removed rest =>
    obtain ⟨-, rfl⟩ := each.entitled
    cases stepped
    refine ⟨⟨ok.consistent, fun k conn foundK => ?_⟩, authorised_nil⟩
    exact ok.each k conn (lookup_erase_some foundK).2
  | downDetach => exact each.entitled.elim
  | _ => cases stepped

theorem coreStep_isolated (admitted : pc.admitted s)
    (stepped : coreStep cfg s c ⟨routes, pc⟩ socket rand = some (t, events)) :
    Isolated t ∧ ∀ e ∈ events, Authorised s e := by
  have each := ok.each c _ found
  cases pc with
  | addConn =>
    cases stepped
    exact ⟨ok.goto found whole rfl rfl ⟨each.owned, trivial⟩, authorised_nil⟩
  | setSink =>
    cases stepped
    exact ⟨ok.goto found whole rfl rfl ⟨each.owned, trivial⟩, authorised_singleton trivial⟩
  | idle => cases stepped
  | keepalive message =>
    cases stepped
    exact ⟨ok.goto found whole rfl withRegistry_setCore_cores
      ⟨each.owned, dispatch_entitled _ message⟩, replyEvents_authorised⟩
  | lookupBody | enqueue | sendTo => exact forwardStep_isolated ok found whole stepped
  | closeEndpoint | closeRoute | closeDetach =>
    exact closeStep_isolated ok found whole admitted stepped
  | downConns | downSink | downRemove | downEndpoint | downDetach =>
    exact downStep_isolated ok found whole stepped
  | _ => exact openStep_isolated ok found whole admitted stepped

end

/-! ## Every step and every run -/

theorem connectStep_isolated (ok : Isolated s)
    (stepped : step? cfg s (.connect token idGenerated) = some (t, events)) :
    Isolated t ∧ ∀ e ∈ events, Authorised s e := by
  have result : connectStep cfg s token idGenerated = (t, events) := Option.some.inj stepped
  rw [connectStep] at result
  repeat' split at result
  all_goals cases result
  · exact ⟨ok, authorised_singleton trivial⟩
  · exact ⟨ok, authorised_singleton trivial⟩
  · exact ⟨ok, authorised_singleton trivial⟩
  · exact ⟨ok.of_cores stepped rfl fun _ => Bool.false_ne_true, authorised_singleton trivial⟩
  · refine ⟨ok.insert stepped (fun _ => Bool.false_ne_true) rfl ⟨fun R member => ?_, trivial⟩,
      authorised_nil⟩
    exact absurd member (notMem_empty R)

theorem bodyStep_authorised (stepped : bodyStep s b conn = some (t, events)) :
    ∀ e ∈ events, Authorised s e := by
  rw [bodyStep.eq_def] at stepped
  repeat' split at stepped
  all_goals cases stepped
  all_goals simp [attachRefused, Authorised]

theorem step_isolated (ok : Isolated s) (guard : isolationGuard cfg s a)
    (stepped : step? cfg s a = some (t, events)) : Isolated t ∧ ∀ e ∈ events, Authorised s e := by
  have whole := stepped
  cases a <;> dsimp only [step?] at stepped
  case core c socket rand =>
    split at stepped
    · rename_i core found
      exact coreStep_isolated ok found whole (guard core found) stepped
    · cases stepped
  case connect token idGenerated => exact connectStep_isolated ok whole
  case receive c message =>
    split at stepped
    · rename_i routes found
      cases stepped
      exact ⟨ok.insert whole (fun _ => Bool.false_ne_true) rfl ⟨(ok.each c _ found).owned, trivial⟩,
        authorised_nil⟩
    · cases stepped
  case disconnect c =>
    split at stepped
    · rename_i routes found
      cases stepped
      exact ⟨ok.insert whole (fun _ => Bool.false_ne_true) rfl
        ⟨(ok.each c _ found).owned, guard ⟨routes, .idle⟩ found⟩, authorised_nil⟩
    · cases stepped
  case sweep =>
    have stays : ∀ R, ¬s.takesOut cfg R .sweep := by
      intro R out
      rw [State.takesOut, guard] at out
      cases of_decide_eq_true out
    split at stepped
    · cases stepped
      exact ⟨ok.of_cores whole rfl stays, authorised_nil⟩
    · cases stepped
  case attach message =>
    rw [attachStep] at stepped
    split at stepped
    · cases stepped
      exact ⟨ok, authorised_singleton trivial⟩
    · cases stepped
      exact ⟨ok.of_cores whole rfl fun _ => Bool.false_ne_true, authorised_nil⟩
  case body b =>
    split at stepped
    · cases stepped
    · exact ⟨ok.of_cores whole (bodyStep_same stepped).2 fun _ => Bool.false_ne_true,
        bodyStep_authorised stepped⟩
  case tick | sweepClose | datagram R source | bodyReceive b frame | bodyDisconnect b
    | drainTake b | drainWrite b | drainStop b =>
    repeat' split at stepped
    all_goals cases stepped
    all_goals exact ⟨ok.of_cores whole rfl fun _ => Bool.false_ne_true, by simp [Authorised]⟩

theorem init_isolated : Isolated (State.init cfg) where
  consistent := new_consistent cfg.maxRegistrations cfg.maxRoutes
  each _ _ found := nomatch found

/-- Route isolation: in every run in which no sweep takes a route out of the registry, every Core
closes its routes before it disconnects, no Body is attached to a route that is closed and no
`RouteOpen` fails after its bind, every effect on a route finds the registry holding the route for
the registration it is performed for. -/
theorem effects_authorised (cfg : Config) {trace : List Event}
    (run : (system cfg).Run (isolationGuard cfg) (State.init cfg) trace s) {a : Action}
    (guard : isolationGuard cfg s a) (stepped : (system cfg).step? s a = some (t, events)) :
    ∀ e ∈ events, Authorised s e := by
  have isolated : Isolated s :=
    run.invariant (init_isolated) fun ok admitted moved => (step_isolated ok admitted moved).1
  exact (step_isolated isolated guard stepped).2

/-! ## Runs on fixed inputs -/

/-- A route expires after five ticks without traffic. -/
def sampleConfig : Config := ⟨8, 8, 100, 5, 0, fun _ => true⟩

/-- A Core registers and receives the identifier `c`. -/
def registerActions (c : RegistrationID) : List Action :=
  [.connect 1 true, .core c none true, .core c none true]

/-- All sections of a successful `RouteOpen`. -/
def openActions (c : RegistrationID) (R : RouteID) (socket : UDPEndpoint) : List Action :=
  .receive c (.routeOpen R 9) :: .core c none true :: .core c (some socket) true ::
    List.replicate 6 (.core c none true)

/-- A Body attaches; `b` is the identity its connection receives. -/
def attachActions (b : BodyID) (R : RouteID) (credential : Token) : List Action :=
  .attach ⟨protocolVersion, R, credential⟩ :: List.replicate 4 (.body b)

/-- A Core sends a frame, up to the section that puts it into an inbox. -/
def frameActions (c : RegistrationID) (R : RouteID) : List Action :=
  [.receive c (.binary (some ⟨protocolVersion, R, [1]⟩)), .core c none true, .core c none true]

/-- A frame of the owner reaches the attached Body with authority. -/
theorem effects_authorised_frame : ∃ trace s t events,
      (system sampleConfig).Run (isolationGuard sampleConfig) (State.init sampleConfig) trace s ∧
      (system sampleConfig).step? s (.core 1 none true) = some (t, events) ∧
      .enqueued 1 7 3 ∈ events ∧ Authorised s (.enqueued 1 7 3) := by
  obtain ⟨trace, s, t, events, run, guard, stepped, member⟩ :=
    Transition.System.reaches?_run
      (show (system sampleConfig).reaches? (isolationGuard sampleConfig)
        (registerActions 1 ++ openActions 1 7 4000 ++ attachActions 3 7 2 ++ frameActions 1 7)
        (.core 1 none true) (fun _ _ events => .enqueued 1 7 3 ∈ events) = true by decide)
  have enqueued : Event.enqueued 1 7 3 ∈ events := of_decide_eq_true member
  exact ⟨trace, s, t, events, run, stepped, enqueued,
    effects_authorised sampleConfig run guard stepped _ enqueued⟩

/-- The sweep expires route `7` of the Core `1`; the Core `2` opens it and its Body attaches.
A frame of the Core `1` is then put into the inbox of that Body. -/
theorem expired_route_crosses_cores : ∃ trace s t events,
      (system sampleConfig).Run Transition.free (State.init sampleConfig) trace s ∧
      (system sampleConfig).step? s (.core 1 none true) = some (t, events) ∧
      .enqueued 1 7 5 ∈ events ∧ s.owner 7 = some 2 ∧ ¬ Authorised s (.enqueued 1 7 5) := by
  obtain ⟨trace, s, t, events, run, _, stepped, broken⟩ :=
    Transition.System.reaches?_run
      (show (system sampleConfig).reaches? Transition.free
        (registerActions 1 ++ registerActions 2 ++ openActions 1 7 4000 ++
          List.replicate 6 .tick ++ [.sweep, .sweepClose] ++ openActions 2 7 4001 ++
          attachActions 5 7 4 ++ frameActions 1 7)
        (.core 1 none true)
        (fun s _ events => .enqueued 1 7 5 ∈ events ∧ s.owner 7 = some 2) = true by decide)
  obtain ⟨enqueued, owner⟩ : Event.enqueued 1 7 5 ∈ events ∧ s.owner 7 = some 2 :=
    of_decide_eq_true broken
  refine ⟨trace, s, t, events, run, stepped, enqueued, owner, ?_⟩
  intro authorised
  cases owner.symm.trans authorised

end NeonDoll.Relay
