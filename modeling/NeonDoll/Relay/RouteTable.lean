import NeonDoll.Relay.ControlServer

/-!
# What a step does to the route table

One inversion for the registry, and from it what can happen to the entry of a single route: it
stays, it is removed, its timestamp is refreshed, or it is allocated with new credentials.
-/

namespace NeonDoll.Relay

open Lib GoMap Registry

abbrev State.owner (s : State) (R : RouteID) : Option RegistrationID :=
  s.registry.routeRegistration R

/-- The route the connection is about to allocate. -/
def State.allocating (s : State) (c : RegistrationID) : Option RouteID :=
  match s.cores.lookup c with
  | some ⟨_, .openAllocate routeID _ _⟩ => some routeID
  | _ => none

/-- A Core goroutine takes out the routes that it closes or that go with its registration. -/
def CorePc.takesOut (s : State) (c : RegistrationID) (R : RouteID) : CorePc → Bool
  | .closeRoute routeID => R = routeID ∧ s.owner R = some c
  | .rollbackRoute routeID _ => R = routeID ∧ s.owner R = some c
  | .downRemove _ => R ∈ (s.registry.removeRegistration c).2
  | _ => false

/-- The step takes the route out of the registry; a sweep takes the expired ones. -/
def State.takesOut (cfg : Config) (s : State) (R : RouteID) : Action → Bool
  | .sweep =>
    R ∈ (s.registry.expireStale s.clock cfg.registrationTimeout
      cfg.routeTimeout).2.allExpiredRoutes
  | .core c _ _ => (s.cores.lookup c).any fun core => core.pc.takesOut s c R
  | _ => false

/-- The route whose timestamp the step sets. -/
def State.touches (s : State) : Action → Option RouteID
  | .datagram R _ =>
    if R ∈ s.udp.routes ∧ R ∈ s.registry.routes then some R else none
  | .core c _ rand =>
    match s.cores.lookup c with
    | some ⟨_, .openAllocate R _ _⟩ =>
      if (s.registry.allocateRoute s.clock c R (if rand then some s.nextID else none)).isOk then
        some R
      else none
    | some ⟨_, .openLocked R _⟩ =>
      if (s.registry.openRouteLocked s.clock c R).isOk then some R else none
    | some ⟨_, .endpointLocked R port⟩ =>
      if (s.registry.setRouteEndpointLocked s.clock c R port).isOk then some R else none
    | _ => none
  | _ => none

/-- The operation on the registry that a step consists of. -/
inductive RegistryMove (cfg : Config) (s : State) (a : Action) : Registry → Prop where
  | same : s.touches a = none → RegistryMove cfg s a s.registry
  | registers {r : Registry} : s.touches a = none →
      s.registry.addRegistration s.clock s.nextID = .ok r → RegistryMove cfg s a r
  | keepsAlive {r : Registry} (c : RegistrationID) : s.touches a = none →
      s.registry.keepalive s.clock c = .ok r → RegistryMove cfg s a r
  | touches {r : Registry} (R : RouteID) : s.touches a = some R →
      s.registry.touchRoute s.clock R = .ok r → RegistryMove cfg s a r
  | allocates {r : Registry} (c : RegistrationID) (R : RouteID) : s.touches a = some R →
      s.allocating c = some R → (∃ socket rand, a = .core c socket rand) →
      s.registry.allocateRoute s.clock c R (some s.nextID) = .ok r → RegistryMove cfg s a r
  | opens {r : Registry} (c : RegistrationID) (R : RouteID) : s.touches a = some R →
      s.registry.openRouteLocked s.clock c R = .ok r → RegistryMove cfg s a r
  | setsEndpoint {r : Registry} (c : RegistrationID) (R : RouteID) (port : UDPEndpoint) :
      s.touches a = some R → s.registry.setRouteEndpointLocked s.clock c R port = .ok r →
      RegistryMove cfg s a r
  | closes {r : Registry} (c : RegistrationID) (R : RouteID) : s.touches a = none →
      (s.owner R = some c → s.takesOut cfg R a) →
      s.registry.closeRoute c R = .ok r → RegistryMove cfg s a r
  | removes (c : RegistrationID) : s.touches a = none →
      (∀ R ∈ (s.registry.removeRegistration c).2, s.takesOut cfg R a) →
      RegistryMove cfg s a (s.registry.removeRegistration c).1
  | expires : a = .sweep → RegistryMove cfg s a
      (s.registry.expireStale s.clock cfg.registrationTimeout cfg.routeTimeout).1

variable {cfg : Config} {s t : State} {es : List Event} {c : RegistrationID} {core : CoreConn}
    {R : RouteID} {socket : Option UDPEndpoint} {rand : Bool}

/-! ## The goroutine of a Core -/

/-- Only three sections of a Core goroutine set a timestamp. -/
def CorePc.stamps : CorePc → Bool
  | .openAllocate .. | .openLocked .. | .endpointLocked .. => true
  | _ => false

theorem touches_core_none (socket : Option UDPEndpoint) (rand : Bool)
    (found : s.cores.lookup c = some core) (plain : core.pc.stamps = false) :
    s.touches (.core c socket rand) = none := by
  obtain ⟨_, pc⟩ := core
  dsimp only [State.touches]
  rw [found]
  cases pc <;> first | rfl | cases plain

/-- Detaching touches the attachment table and the Body connections only. -/
theorem detachBody_frame (s : State) (R : RouteID) :
    (s.detachBody R).1.registry = s.registry ∧ (s.detachBody R).1.cores = s.cores ∧
      (s.detachBody R).1.nextID = s.nextID := by
  rw [State.detachBody]
  split
  all_goals exact ⟨rfl, rfl, rfl⟩

theorem withRegistry_registry :
    (s.withRegistry result).registry = s.registry ∧ result.isOk = false ∨
      result = .ok (s.withRegistry result).registry := by
  cases result with
  | error err => exact .inl ⟨rfl, rfl⟩
  | ok registry => exact .inr rfl

theorem withRegistry_setCore_cores :
    ((s.withRegistry result).setCore c core).cores = s.cores.insert c core := by
  cases result with
  | ok registry => rfl
  | error err => rfl

theorem forwardStep_registry (stepped : forwardStep cfg s c core core.pc = some (t, es)) :
    t.registry = s.registry := by
  unfold forwardStep at stepped
  split at stepped
  · split at stepped
    all_goals
      cases stepped
      rfl
  · split at stepped
    · cases stepped
      rfl
    · split at stepped
      all_goals
        cases stepped
        rfl
  · cases stepped
    rfl
  · cases stepped

variable {routes : GoMap RouteID Unit} {port : UDPEndpoint}

theorem openAllocate_registry (found : s.cores.lookup c = some ⟨routes, .openAllocate R token port⟩)
    (stepped : openStep s c ⟨routes, .openAllocate R token port⟩ socket rand
      (.openAllocate R token port) = some (t, es)) :
    RegistryMove cfg s (.core c socket rand) t.registry := by
  have here : s.allocating c = some R := by rw [State.allocating, found]
  have touched : s.touches (.core c socket rand) =
      if (s.registry.allocateRoute s.clock c R (if rand then some s.nextID else none)).isOk then
        some R
      else none := by
    dsimp only [State.touches]
    rw [found]
  dsimp only [openStep] at stepped
  split at stepped
  · rename_i _ done
    cases stepped
    rw [done] at touched
    obtain ⟨-, _, -, -, _, -⟩ := allocateRoute_ok done
    have random : rand = true := by grind
    rw [random, if_pos rfl] at done
    exact .allocates c R touched here ⟨socket, rand, rfl⟩ done
  all_goals
    rename_i failed
    cases stepped
    rw [failed] at touched
    exact .same touched

theorem openLocked_registry (found : s.cores.lookup c = some ⟨routes, .openLocked R port⟩)
    (stepped : openStep s c ⟨routes, .openLocked R port⟩ socket rand (.openLocked R port) =
      some (t, es)) : RegistryMove cfg s (.core c socket rand) t.registry := by
  have touched : s.touches (.core c socket rand) =
      if (s.registry.openRouteLocked s.clock c R).isOk then some R else none := by
    dsimp only [State.touches]
    rw [found]
  dsimp only [openStep] at stepped
  split at stepped
  · rename_i _ done
    cases stepped
    rw [done] at touched
    exact .opens c R touched done
  · rename_i failed
    cases stepped
    rw [failed] at touched
    exact .same touched

theorem endpointLocked_registry (found : s.cores.lookup c = some ⟨routes, .endpointLocked R port⟩)
    (stepped : openStep s c ⟨routes, .endpointLocked R port⟩ socket rand
      (.endpointLocked R port) = some (t, es)) :
    RegistryMove cfg s (.core c socket rand) t.registry := by
  have touched : s.touches (.core c socket rand) =
      if (s.registry.setRouteEndpointLocked s.clock c R port).isOk then some R else none := by
    dsimp only [State.touches]
    rw [found]
  cases stepped
  cases done : s.registry.setRouteEndpointLocked s.clock c R port <;> rw [done] at touched
  case ok registry =>
    exact .setsEndpoint c R port touched done
  case error err =>
    exact .same touched

section

variable (found : s.cores.lookup c = some core)

include found

theorem openStep_registry (stepped : openStep s c core socket rand core.pc = some (t, es)) :
    RegistryMove cfg s (.core c socket rand) t.registry := by
  obtain ⟨_, pc⟩ := core
  have untouched := touches_core_none socket rand found
  cases pc with
  | openAllocate R token port => exact openAllocate_registry found stepped
  | openLocked R port => exact openLocked_registry found stepped
  | endpointLocked R port => exact endpointLocked_registry found stepped
  | openReply R port =>
    cases stepped
    exact .same (untouched rfl)
  | openBind | openCompare | openOwned | endpointOwned | rollbackEndpoint =>
    dsimp only [openStep] at stepped
    split at stepped
    all_goals
      cases stepped
      exact .same (untouched rfl)
  | rollbackRoute R reply =>
    cases stepped
    obtain ⟨same, -⟩ | done := withRegistry_registry
    · have move : RegistryMove cfg s (.core c socket rand) s.registry := .same (untouched rfl)
      rw [← same] at move
      exact move
    · refine .closes c R (untouched rfl) (fun mine => ?_) done
      rw [State.takesOut, found]
      exact decide_eq_true ⟨rfl, mine⟩
  | _ => cases stepped

theorem closeStep_registry (stepped : closeStep s c core core.pc = some (t, es)) :
    RegistryMove cfg s (.core c socket rand) t.registry := by
  obtain ⟨_, pc⟩ := core
  have untouched := touches_core_none socket rand found
  cases pc with
  | closeEndpoint R =>
    dsimp only [closeStep] at stepped
    split at stepped
    all_goals
      cases stepped
      exact .same (untouched rfl)
  | closeRoute R =>
    dsimp only [closeStep] at stepped
    split at stepped
    · rename_i registry done
      cases stepped
      refine .closes c R (untouched rfl) (fun mine => ?_) done
      rw [State.takesOut, found]
      exact decide_eq_true ⟨rfl, mine⟩
    · cases stepped
      exact .same (untouched rfl)
  | closeDetach R removed =>
    cases stepped
    have move : RegistryMove cfg s (.core c socket rand) s.registry := .same (untouched rfl)
    rw [← (detachBody_frame s R).1] at move
    exact move
  | _ => cases stepped

theorem downStep_registry (stepped : downStep s c core core.pc = some (t, es)) :
    RegistryMove cfg s (.core c socket rand) t.registry := by
  obtain ⟨_, pc⟩ := core
  have untouched := touches_core_none socket rand found
  cases pc with
  | downConns | downSink rest =>
    cases stepped
    exact .same (untouched rfl)
  | downRemove rest =>
    cases stepped
    refine .removes c (untouched rfl) fun R listed => ?_
    rw [State.takesOut, found]
    exact decide_eq_true listed
  | downEndpoint removed rest =>
    cases rest with
    | nil =>
      cases stepped
      exact .same (untouched rfl)
    | cons R rest =>
      dsimp only [downStep] at stepped
      split at stepped
      all_goals
        cases stepped
        exact .same (untouched rfl)
  | downDetach removed R rest =>
    cases stepped
    have move : RegistryMove cfg s (.core c socket rand) s.registry := .same (untouched rfl)
    rw [← (detachBody_frame s R).1] at move
    exact move
  | _ => cases stepped

theorem coreStep_registry (stepped : coreStep cfg s c core socket rand = some (t, es)) :
    RegistryMove cfg s (.core c socket rand) t.registry := by
  have untouched := touches_core_none socket rand found
  rw [coreStep] at stepped
  split at stepped
  case h_1 pc =>
    cases stepped
    exact .same (untouched (by rw [pc]; rfl))
  case h_2 pc =>
    cases stepped
    exact .same (untouched (by rw [pc]; rfl))
  case h_3 => cases stepped
  case h_4 message pc =>
    have plain : core.pc.stamps = false := by rw [pc]; rfl
    cases stepped
    obtain ⟨same, -⟩ | done := withRegistry_registry
    · have move : RegistryMove cfg s (.core c socket rand) s.registry := .same (untouched plain)
      rw [← same] at move
      exact move
    · exact .keepsAlive c (untouched plain) done
  case h_5 pc | h_6 pc | h_7 pc =>
    have plain : core.pc.stamps = false := by rw [pc]; rfl
    have move : RegistryMove cfg s (.core c socket rand) s.registry := .same (untouched plain)
    rw [← forwardStep_registry stepped] at move
    exact move
  case h_8 | h_9 | h_10 | h_11 | h_12 | h_13 | h_14 | h_15 | h_16 | h_17 =>
    exact openStep_registry found stepped
  case h_18 | h_19 | h_20 => exact closeStep_registry found stepped
  case h_21 | h_22 | h_23 | h_24 | h_25 => exact downStep_registry found stepped

end

/-! ## Every step -/

/-- The goroutines of a Body leave the registry and the Core goroutines alone. -/
theorem bodyStep_same (stepped : bodyStep s b conn = some (t, es)) :
    t.registry = s.registry ∧ t.cores = s.cores := by
  rw [bodyStep.eq_def] at stepped
  repeat' split at stepped
  all_goals cases stepped
  all_goals exact ⟨rfl, rfl⟩

theorem datagram_registry
    (stepped : step? cfg s (.datagram R source) = some (t, es)) :
    RegistryMove cfg s (.datagram R source) t.registry := by
  dsimp only [step?] at stepped
  split at stepped
  · cases stepped
  rename_i handle bound
  have listening : R ∈ s.udp.routes := (mem_iff_lookup _ _).mpr ⟨handle, bound⟩
  split at stepped
  · rename_i failed
    cases stepped
    refine .same (if_neg ?_)
    rintro ⟨-, present⟩
    obtain ⟨entry, found⟩ := (mem_iff_lookup _ _).mp present
    rw [Registry.touchRoute, found] at failed
    cases failed
  · rename_i registry done
    cases stepped
    obtain ⟨entry, found, -⟩ := touchRoute_ok done
    have present : R ∈ s.registry.routes := (mem_iff_lookup _ _).mpr ⟨entry, found⟩
    exact .touches R (if_pos ⟨listening, present⟩) done

theorem connectStep_registry (cfg : Config) (s : State) (token : Token) (idGenerated : Bool) :
    RegistryMove cfg s (.connect token idGenerated)
      (connectStep cfg s token idGenerated).1.registry := by
  rw [connectStep]
  split
  · exact .same rfl
  split
  · exact .same rfl
  split
  · exact .same rfl
  split
  · exact .same rfl
  · rename_i _ done
    exact .registers rfl done

theorem attachStep_registry (s : State) (message : BodyAttach) :
    (attachStep s message).1.registry = s.registry := by
  rw [attachStep]
  split
  all_goals rfl

theorem step_registry (stepped : step? cfg s a = some (t, es)) :
    RegistryMove cfg s a t.registry := by
  cases a <;> dsimp only [step?] at stepped
  case core c socket rand =>
    split at stepped
    · rename_i _ found
      exact coreStep_registry found stepped
    · cases stepped
  case datagram R source => exact datagram_registry stepped
  case connect token idGenerated =>
    have move := connectStep_registry cfg s token idGenerated
    rw [Option.some.inj stepped] at move
    exact move
  case sweep =>
    split at stepped
    · cases stepped
      exact .expires rfl
    · cases stepped
  case attach message =>
    have same := attachStep_registry s message
    rw [Option.some.inj stepped] at same
    rw [same]
    exact .same rfl
  case body b =>
    split at stepped
    · cases stepped
    · rw [(bodyStep_same stepped).1]
      exact .same rfl
  case tick =>
    cases stepped
    exact .same rfl
  case receive c message | disconnect c | sweepClose | bodyReceive b frame | bodyDisconnect b
    | drainTake b | drainWrite b | drainStop b =>
    repeat' split at stepped
    all_goals first
      | cases stepped; done
      | (cases stepped; exact .same rfl)

theorem step_consistent (ok : s.registry.Consistent) (stepped : step? cfg s a = some (t, es)) :
    t.registry.Consistent := by
  have move := step_registry stepped
  generalize t.registry = after at move ⊢
  cases move with
  | same => exact ok
  | registers _ done => exact addRegistration_consistent ok done
  | keepsAlive _ _ done => exact keepalive_consistent ok done
  | touches _ _ done => exact touchRoute_consistent ok done
  | allocates _ _ _ _ _ done => exact allocateRoute_consistent ok done
  | opens _ _ _ done => exact openRouteLocked_consistent ok done
  | setsEndpoint _ _ _ _ done => exact setRouteEndpointLocked_consistent ok done
  | closes _ _ _ _ done => exact closeRoute_consistent ok done
  | removes => exact removeRegistration_consistent ok
  | expires => exact expireStale_consistent ok

/-! ## The entry of one route -/

/-- What a step makes of the entry of a route. -/
inductive RouteMove (cfg : Config) (s : State) (a : Action) (R : RouteID) :
    Option RouteEntry → Prop where
  | kept : s.touches a ≠ some R → RouteMove cfg s a R (s.registry.routes.lookup R)
  | removed : s.touches a ≠ some R → s.takesOut cfg R a → RouteMove cfg s a R none
  | refreshed {entry fresh : RouteEntry} : s.touches a = some R →
      s.registry.routes.lookup R = some entry → fresh.credentials = entry.credentials →
      fresh.updatedAt = s.clock → fresh.registrationID = entry.registrationID →
      (fresh.state = entry.state ∨ fresh.state = .open) → RouteMove cfg s a R (some fresh)
  | allocated (c : RegistrationID) : s.touches a = some R →
      s.registry.routes.lookup R = none → s.allocating c = some R →
      (∃ socket rand, a = .core c socket rand) →
      RouteMove cfg s a R (some ⟨.allocated, c, s.nextID, s.clock, none⟩)

theorem RouteMove.of_untouched (untouched : s.touches a = none) :
    RouteMove cfg s a R (s.registry.routes.lookup R) := by
  refine .kept ?_
  rw [untouched]
  exact nofun

theorem RouteMove.of_filtered [Decidable gone] (untouched : s.touches a = none)
    (out : gone → s.takesOut cfg R a) :
    RouteMove cfg s a R (if gone then none else s.registry.routes.lookup R) := by
  split
  · rename_i left
    refine .removed ?_ (out left)
    rw [untouched]
    exact nofun
  · exact .of_untouched untouched

/-- An operation that stamps the entry of one route leaves the others alone. -/
theorem RouteMove.of_stamped
    (touched : s.touches a = some R') (found : s.registry.routes.lookup R' = some entry)
    (credentials : fresh.credentials = entry.credentials) (stamped : fresh.updatedAt = s.clock)
    (registration : fresh.registrationID = entry.registrationID)
    (state : fresh.state = entry.state ∨ fresh.state = .open) :
    RouteMove cfg s a R ((s.registry.routes.insert R' fresh).lookup R) := by
  rw [lookup_insert_ite]
  split
  · rename_i same
    subst same
    exact .refreshed touched found credentials stamped registration state
  rename_i differ
  refine .kept ?_
  rw [touched]
  exact fun same => differ (Option.some.inj same).symm

theorem step_route (stepped : step? cfg s a = some (t, es)) (R : RouteID) :
    RouteMove cfg s a R (t.registry.routes.lookup R) := by
  have move := step_registry stepped
  generalize t.registry = after at move ⊢
  cases move with
  | same untouched => exact .of_untouched untouched
  | registers untouched done =>
    rw [(addRegistration_ok done).2]
    exact .of_untouched untouched
  | keepsAlive c untouched done =>
    obtain ⟨reg, -, after⟩ := keepalive_ok done
    rw [after]
    exact .of_untouched untouched
  | touches R' touched done =>
    obtain ⟨entry, found, after⟩ := touchRoute_ok done
    rw [after]
    exact .of_stamped touched found rfl rfl rfl (.inl rfl)
  | allocates c R' touched allocating core done =>
    obtain ⟨_, _, -, absent, generated, after⟩ := allocateRoute_ok done
    cases generated
    rw [after]
    rw [lookup_insert_ite]
    split
    · rename_i same
      subst same
      exact .allocated c touched absent allocating core
    rename_i differ
    refine .kept ?_
    rw [touched]
    exact fun same => differ (Option.some.inj same).symm
  | opens c R' touched done =>
    obtain ⟨entry, found, -, -, after⟩ := openRouteLocked_ok done
    rw [after]
    exact .of_stamped touched found rfl rfl rfl (.inr rfl)
  | setsEndpoint c R' port touched done =>
    obtain ⟨entry, found, -, after⟩ := setRouteEndpointLocked_ok done
    rw [after]
    exact .of_stamped touched found rfl rfl rfl (.inl rfl)
  | closes c R' untouched out done =>
    obtain ⟨entry, found, mine, after⟩ := closeRoute_ok done
    rw [after]
    rw [lookup_erase_ite]
    refine .of_filtered untouched ?_
    rintro rfl
    exact out (routeRegistration_eq_some.mpr ⟨entry, found, mine⟩)
  | removes c untouched out =>
    rw [Registry.removeRegistration] at out ⊢
    split at out
    · exact .of_untouched untouched
    rw [lookup_eraseAll]
    exact .of_filtered untouched (out R)
  | expires sweep =>
    subst sweep
    rw [expireStale_lookup]
    exact .of_filtered rfl decide_eq_true

/-- A registration keeps its route through a step that does not take it out. -/
theorem owner_kept (stepped : step? cfg s a = some (t, es)) (owned : s.owner R = some c)
    (stays : ¬s.takesOut cfg R a) : t.owner R = some c := by
  obtain ⟨entry, found, mine⟩ := routeRegistration_eq_some.mp owned
  have move := step_route stepped R
  rw [State.owner, routeRegistration]
  generalize t.registry.routes.lookup R = after at move ⊢
  cases move with
  | kept => rw [found, Option.map_some, mine]
  | removed _ out => exact absurd out stays
  | refreshed _ before _ _ registration =>
    cases found.symm.trans before
    rw [Option.map_some, registration, mine]
  | allocated _ _ absent => cases found.symm.trans absent

end NeonDoll.Relay
