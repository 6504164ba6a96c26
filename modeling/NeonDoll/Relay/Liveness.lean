import NeonDoll.Relay.Isolation

/-!
# Which routes a liveness sweep keeps

A sweep looks at the timestamp of the route entry.  The timestamp is set by `RouteOpen` and by
the datagrams that arrive on the public endpoint; the frames of an attached Body and the frames
of the Core leave it alone.
-/

namespace NeonDoll.Relay

open Lib Transition List GoMap AList Nat

/-! ## One sweep -/

namespace Registry

/-- The table holds the entry, and its registration was last heard of at `heard`. -/
structure Holds (r : Registry) (R : RouteID) (entry : RouteEntry) (heard : Time) : Prop where
  consistent : r.Consistent
  found : r.routes.lookup R = some entry
  registered : ∃ reg, r.registrations.lookup entry.registrationID = some reg ∧
    reg.lastKeepalive = heard

variable {r : Registry} {now heard regTimeout routeTimeout : Time} {R : RouteID}
  {entry : RouteEntry} {id : RegistrationID} {acc : Registry × ExpireStaleResult}

/-- A consistent registration lists the route exactly if it is its owner. -/
theorem Holds.listed_iff (holds : acc.1.Holds R entry heard)
    (found : acc.1.registrations.lookup id = some reg) :
    R ∈ reg.routes ↔ entry.registrationID = id := by
  have owner := holds.consistent id R
  rw [routeRegistration, holds.found, lists] at owner
  simp only [found, Option.map_some, Option.some.injEq, exists_eq_left'] at owner
  exact owner.symm

theorem Holds.other (holds : acc.1.Holds R entry heard) (other : entry.registrationID ≠ id) :
    (expireRegistration now regTimeout routeTimeout acc id).1.Holds R entry heard := by
  refine ⟨expireRegistration_consistent holds.consistent, ?_, ?_⟩
  · rw [expireRegistration]
    split
    · exact holds.found
    rename_i reg found
    have unlisted : R ∉ reg.routes := fun listed => other ((holds.listed_iff found).mp listed)
    have unstale : R ∉ reg.routes.keys.filter (acc.1.routeStale now routeTimeout) :=
      fun member => unlisted (mem_filter.mp member).1
    split
    · have dead : R ∉ (GoMap.eraseAll reg.routes
          (reg.routes.keys.filter (acc.1.routeStale now routeTimeout))).keys := by
        intro member
        exact unlisted ((mem_eraseAll _ _ _).mp (mem_keys.mpr member)).2
      rw [lookup_eraseAll, if_neg dead, lookup_eraseAll, if_neg unstale]
      exact holds.found
    · grind [Holds]
  · grind [expireRegistration, Holds]

theorem mem_stale_iff (found : acc.1.routes.lookup R = some entry) (routes : GoMap RouteID Unit) :
    R ∈ routes.keys.filter (acc.1.routeStale now routeTimeout) ↔
      R ∈ routes ∧ routeTimeout < now - entry.updatedAt := by
  rw [List.mem_filter, routeStale, found, decide_eq_true_iff, ← AList.mem_keys]

/-- The iteration over its own registration keeps a fresh route. -/
theorem Holds.own (holds : acc.1.Holds R entry heard) (alive : now - heard ≤ regTimeout)
    (fresh : now - entry.updatedAt ≤ routeTimeout) :
    (expireRegistration now regTimeout routeTimeout acc entry.registrationID).1.Holds
      R entry heard := by
  obtain ⟨reg, registered, last⟩ := holds.registered
  have unstale : R ∉ reg.routes.keys.filter (acc.1.routeStale now routeTimeout) := by
    intro member
    exact absurd ((mem_stale_iff holds.found reg.routes).mp member).2 (not_lt.mpr fresh)
  have unexpired : ¬ regTimeout < now - reg.lastKeepalive := by
    rw [last]
    exact not_lt.mpr alive
  refine ⟨expireRegistration_consistent holds.consistent, ?_, ?_⟩
  all_goals grind [expireRegistration, Holds]

/-- The iteration over its own registration takes a stale route out. -/
theorem Holds.own_stale (holds : acc.1.Holds R entry heard)
    (stale : routeTimeout < now - entry.updatedAt) :
    (expireRegistration now regTimeout routeTimeout acc entry.registrationID).1.routes.lookup R =
      none := by
  obtain ⟨reg, registered, -⟩ := holds.registered
  have member : R ∈ reg.routes.keys.filter (acc.1.routeStale now routeTimeout) :=
    (mem_stale_iff holds.found reg.routes).mpr ⟨(holds.listed_iff registered).mpr rfl, stale⟩
  rw [expireRegistration, registered]
  dsimp only
  split
  · simp [lookup_eraseAll, member]
  · simp only [lookup_eraseAll, member, if_true]

/-- The whole sweep keeps a fresh route of a registration that is alive. -/
theorem Holds.foldl_fresh (alive : now - heard ≤ regTimeout)
    (fresh : now - entry.updatedAt ≤ routeTimeout) (ids : List RegistrationID)
    (holds : acc.1.Holds R entry heard) :
    (ids.foldl (expireRegistration now regTimeout routeTimeout) acc).1.Holds R entry heard := by
  induction ids generalizing acc with
  | nil => exact holds
  | cons id rest ih =>
    apply ih
    by_cases own : entry.registrationID = id
    · rw [← own]
      exact holds.own alive fresh
    · exact holds.other own

theorem foldl_absent (ids : List RegistrationID) (absent : acc.1.routes.lookup R = none) :
    (ids.foldl (expireRegistration now regTimeout routeTimeout) acc).1.routes.lookup R = none := by
  induction ids generalizing acc with
  | nil => exact absent
  | cons id rest ih =>
    apply ih
    grind [expireRegistration]

/-- The whole sweep takes a stale route out once it comes to its registration. -/
theorem Holds.foldl_stale (stale : routeTimeout < now - entry.updatedAt)
    (ids : List RegistrationID) (member : entry.registrationID ∈ ids)
    (holds : acc.1.Holds R entry heard) :
    (ids.foldl (expireRegistration now regTimeout routeTimeout) acc).1.routes.lookup R = none := by
  induction ids generalizing acc with
  | nil => cases member
  | cons id rest ih =>
    by_cases own : entry.registrationID = id
    · rw [foldl_cons, ← own]
      apply foldl_absent
      exact holds.own_stale stale
    · grind [Holds.other]

/-- Of a registration that is alive, a sweep keeps exactly the routes with a recent timestamp. -/
theorem expireStale_keeps_iff (holds : r.Holds R entry heard) (alive : now - heard ≤ regTimeout) :
    (r.expireStale now regTimeout routeTimeout).1.routes.lookup R = some entry ↔
      now - entry.updatedAt ≤ routeTimeout := by
  have start : (r, ({} : ExpireStaleResult)).1.Holds R entry heard := holds
  constructor
  · intro kept
    apply not_lt.mp
    intro stale
    obtain ⟨reg, registered, -⟩ := holds.registered
    have listed : entry.registrationID ∈ r.registrations.keys :=
      mem_keys.mp ((mem_iff_lookup _ _).mpr ⟨reg, registered⟩)
    have gone : (r.expireStale now regTimeout routeTimeout).1.routes.lookup R = none :=
      Holds.foldl_stale stale r.registrations.keys listed start
    rw [gone] at kept
    cases kept
  · intro fresh
    exact (Holds.foldl_fresh alive fresh r.registrations.keys start).found

end Registry

/-! ## Timestamps along a run -/

variable {cfg : Config} {s t : State} {a : Action} {es : List Event} {trace : List Event}
  {R : RouteID} {entry : RouteEntry}

@[simp] theorem detachBody_clock : (s.detachBody R).1.clock = s.clock := by
  rw [State.detachBody]
  split
  all_goals rfl

@[simp] theorem withRegistry_clock : (s.withRegistry result).clock = s.clock := by
  cases result with
  | ok registry => rfl
  | error err => rfl

@[simp] theorem setCore_clock : (s.setCore c core).clock = s.clock := rfl

@[simp] theorem setBody_clock : (s.setBody b conn).clock = s.clock := rfl

@[simp] theorem cancelBody_clock : (s.cancelBody b).clock = s.clock := rfl

theorem coreStep_clock (stepped : coreStep cfg s c core socket rand = some (t, es)) :
    t.clock = s.clock := by
  obtain ⟨_, pc⟩ := core
  cases pc <;>
    simp only [coreStep, forwardStep, openStep, closeStep, downStep] at stepped <;>
    (repeat' split at stepped) <;>
    first
    | cases stepped; done
    | (cases stepped; simp)

theorem bodyStep_clock
    (stepped : bodyStep s b conn = some (t, es)) : t.clock = s.clock := by
  obtain ⟨_, _, _, _, pc, _, _⟩ := conn
  cases pc <;>
    simp only [bodyStep] at stepped <;>
    (repeat' split at stepped) <;>
    first
    | cases stepped; done
    | (cases stepped; simp)

theorem connectStep_clock (cfg : Config) (s : State) (token : Token) (idGenerated : Bool) :
    (connectStep cfg s token idGenerated).1.clock = s.clock := by
  rw [connectStep]
  repeat' split
  all_goals rfl

theorem attachStep_clock (s : State) (message : BodyAttach) :
    (attachStep s message).1.clock = s.clock := by
  rw [attachStep]
  split
  all_goals rfl

theorem step_clock (stepped : step? cfg s a = some (t, es)) : s.clock ≤ t.clock := by
  cases a with
  | tick =>
    cases stepped
    exact le_succ _
  | core c socket rand => grind [coreStep_clock, step?]
  | body b => grind [bodyStep_clock, step?]
  | connect token idGenerated =>
    have same := connectStep_clock cfg s token idGenerated
    rw [Option.some.inj stepped] at same
    exact le_of_eq same.symm
  | attach message =>
    have same := attachStep_clock s message
    rw [Option.some.inj stepped] at same
    exact le_of_eq same.symm
  | receive c message | disconnect c | sweep | sweepClose | datagram R source
  | bodyReceive b frame | bodyDisconnect b | drainTake b | drainWrite b | drainStop b =>
    dsimp only [step?] at stepped
    repeat' split at stepped
    all_goals first
      | cases stepped; done
      | (cases stepped; exact le_refl _)

theorem updatedAt_of_touches (touched : s.touches a = some R)
    (stepped : step? cfg s a = some (t, es)) (found : t.registry.routes.lookup R = some entry) :
    entry.updatedAt = s.clock := by
  have move := step_route stepped R
  rw [found] at move
  generalize after : some entry = result at move
  cases move with
  | kept untouched => exact absurd touched untouched
  | removed => cases after
  | refreshed _ _ _ stamped =>
    cases after
    exact stamped
  | allocated =>
    cases after
    rfl

theorem found_of_untouched (untouched : s.touches a ≠ some R)
    (stepped : step? cfg s a = some (t, es)) (found : t.registry.routes.lookup R = some entry) :
    s.registry.routes.lookup R = some entry := by
  have move := step_route stepped R
  rw [found] at move
  generalize after : some entry = result at move
  cases move with
  | kept => rfl
  | removed => cases after
  | refreshed touched | allocated _ touched => exact absurd touched untouched

/-- What the timestamps of a reachable state say about its run. -/
structure Stamped (cfg : Config) (s : State) : Prop where
  consistent : s.registry.Consistent
  origin : ∀ {R entry}, s.registry.routes.lookup R = some entry →
    (system cfg).Past free (fun m a _ => m.touches a = some R ∧ m.clock = entry.updatedAt)
      (State.init cfg) s

theorem init_stamped : Stamped cfg (State.init cfg) where
  consistent := Registry.new_consistent _ _
  origin found := nomatch found

theorem run_stamped (run : (system cfg).Run free (State.init cfg) trace s) : Stamped cfg s := by
  induction run with
  | refl => exact init_stamped
  | @tail m t before events a run admitted stepped ih =>
    refine ⟨step_consistent ih.consistent stepped, ?_⟩
    intro R entry found
    by_cases touched : m.touches a = some R
    · exact .last run admitted stepped
        ⟨touched, (updatedAt_of_touches touched stepped found).symm⟩
    · exact (ih.origin (found_of_untouched touched stepped found)).tail admitted stepped

theorem run_clock (run : (system cfg).Run free m trace s) : m.clock ≤ s.clock :=
  run.invariant (P := fun x => m.clock ≤ x.clock) (le_refl _)
    fun sofar _ stepped => le_trans sofar (step_clock stepped)

theorem run_updatedAt (touched : m.touches a = some R)
    (stepped : step? cfg m a = some (n, es)) (run : (system cfg).Run free n trace s)
    (found : s.registry.routes.lookup R = some entry) : m.clock ≤ entry.updatedAt := by
  induction run generalizing entry with
  | refl => exact le_of_eq (updatedAt_of_touches touched stepped found).symm
  | @tail x y before events b run admitted later ih =>
    by_cases again : x.touches b = some R
    · rw [updatedAt_of_touches again later found]
      exact le_trans (step_clock stepped) (run_clock run)
    · exact ih (found_of_untouched again later found)

/-! ## The sweep -/

theorem sweep_registry (stepped : step? cfg s .sweep = some (t, es)) :
    t.registry = (s.registry.expireStale s.clock cfg.registrationTimeout cfg.routeTimeout).1 := by
  grind [step?]

/-- The registration of the entry was kept alive within its timeout. -/
def State.alive (cfg : Config) (s : State) (entry : RouteEntry) : Bool :=
  (s.registry.registrations.lookup entry.registrationID).any fun reg =>
    s.clock - reg.lastKeepalive ≤ cfg.registrationTimeout

theorem State.registered_of_alive (alive : s.alive cfg entry = true) :
    ∃ reg, s.registry.registrations.lookup entry.registrationID = some reg ∧
      s.clock - reg.lastKeepalive ≤ cfg.registrationTimeout := by
  rw [State.alive] at alive
  cases registered : s.registry.registrations.lookup entry.registrationID <;>
    rw [registered] at alive
  case none =>
    cases alive
  case some reg =>
    exact ⟨reg, rfl, of_decide_eq_true alive⟩

/-- Of a registration that is alive, a sweep keeps a route exactly if a datagram of the route was
accepted, or its `RouteOpen` was handled, within the route timeout. -/
theorem sweep_keeps_live_route_iff (run : (system cfg).Run free (State.init cfg) trace s)
    (found : s.registry.routes.lookup R = some entry) (alive : s.alive cfg entry = true)
    (stepped : (system cfg).step? s .sweep = some (t, es)) :
    t.registry.routes.lookup R = some entry ↔
      (system cfg).Past free
        (fun m a _ => m.touches a = some R ∧ s.clock - m.clock ≤ cfg.routeTimeout)
        (State.init cfg) s := by
  have stamped := run_stamped run
  obtain ⟨reg, registered, recent⟩ := State.registered_of_alive alive
  have holds : s.registry.Holds R entry reg.lastKeepalive :=
    ⟨stamped.consistent, found, reg, registered, rfl⟩
  rw [sweep_registry stepped, Registry.expireStale_keeps_iff holds recent]
  constructor
  · intro fresh
    obtain ⟨before, m, a, n, events, after, first, admitted, step, ⟨touched, time⟩, rest⟩ :=
      stamped.origin found
    refine ⟨before, m, a, n, events, after, first, admitted, step, ⟨touched, ?_⟩, rest⟩
    rw [time]
    exact fresh
  · rintro ⟨_, m, a, n, _, _, _, _, step, ⟨touched, recent⟩, rest⟩
    have later := run_updatedAt touched step rest found
    exact Nat.le_trans (Nat.sub_le_sub_left later _) recent

/-- The entry of route `7` after its `RouteOpen` by the Core `1`, with the given timestamp. -/
def sampleEntry (updatedAt : Time) : RouteEntry := ⟨.open, 1, 2, updatedAt, some 4000⟩

/-- A datagram at the sixth tick keeps the route over the sweep at the ninth. -/
theorem sweep_keeps_live_route_iff_datagram :
    ∃ trace s t es, (system sampleConfig).Run free (State.init sampleConfig) trace s ∧
      (system sampleConfig).step? s .sweep = some (t, es) ∧
      t.registry.routes.lookup 7 = some (sampleEntry 6) ∧
      (system sampleConfig).Past free
        (fun m a _ => m.touches a = some 7 ∧ s.clock - m.clock ≤ sampleConfig.routeTimeout)
        (State.init sampleConfig) s := by
  obtain ⟨trace, s, t, es, run, -, stepped, checked⟩ := System.reaches?_run
    (show (system sampleConfig).reaches? free
      (registerActions 1 ++ openActions 1 7 4000 ++ List.replicate 6 .tick ++
        [.datagram 7 ⟨"192.0.2.1", 9⟩] ++ List.replicate 3 .tick) .sweep
      (fun s t _ => s.registry.routes.lookup 7 = some (sampleEntry 6) ∧
        s.alive sampleConfig (sampleEntry 6) = true ∧
        t.registry.routes.lookup 7 = some (sampleEntry 6)) = true by decide)
  obtain ⟨found, alive, kept⟩ := of_decide_eq_true checked
  exact ⟨trace, s, t, es, run, stepped, kept,
    (sweep_keeps_live_route_iff run found alive stepped).mp kept⟩

/-- A frame of the attached Body is forwarded to the Core at the sixth tick.  The sweep at the
same tick takes the route out, although its registration is alive. -/
theorem forwarding_route_expired :
    ∃ trace m s t, (system sampleConfig).Run free (State.init sampleConfig) trace m ∧
      (system sampleConfig).step? m (.body 3) = some (s, [.forwarded 7 3 1]) ∧
      s.clock = m.clock ∧ s.registry.routes.lookup 7 = some (sampleEntry 0) ∧
      s.alive sampleConfig (sampleEntry 0) = true ∧
      (system sampleConfig).step? s .sweep = some (t, []) ∧
      t.registry.routes.lookup 7 = none := by
  obtain ⟨trace, m, s, es, run, -, stepped, checked⟩ := System.reaches?_run
    (show (system sampleConfig).reaches? free
      (registerActions 1 ++ openActions 1 7 4000 ++ attachActions 3 7 2 ++
        List.replicate 6 .tick ++
        [.bodyReceive 3 (some ⟨protocolVersion, 7, [1]⟩), .body 3, .body 3]) (.body 3)
      (fun m s es => es = [.forwarded 7 3 1] ∧ s.clock = m.clock ∧ s.sweeping = [] ∧
        s.registry.routes.lookup 7 = some (sampleEntry 0) ∧
        s.alive sampleConfig (sampleEntry 0) = true ∧
        (s.registry.expireStale s.clock sampleConfig.registrationTimeout
          sampleConfig.routeTimeout).1.routes.lookup 7 = none) = true by decide)
  obtain ⟨rfl, clock, quiet, found, alive, gone⟩ := of_decide_eq_true checked
  exact ⟨trace, m, s, _, run, stepped, clock, found, alive, if_pos quiet, gone⟩

end NeonDoll.Relay
