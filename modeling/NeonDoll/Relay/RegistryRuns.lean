import NeonDoll.Relay.Registry

/-!
# Sequences of registry operations

What holds of the registry after any operations in any order: both route tables agree, the limits
are kept, and a sweep reports exactly what it removes.
-/

namespace NeonDoll.Relay.Registry

open Lib List AList Nat ExpireStaleResult

/-- An operation with the clock reading it takes. -/
inductive Op where
  | addRegistration (now : Time) (id : RegistrationID)
  | removeRegistration (id : RegistrationID)
  | allocateRoute (now : Time) (regID : RegistrationID) (routeID : RouteID) (creds : Option Token)
  | openRoute (now : Time) (regID : RegistrationID) (routeID : RouteID)
  | closeRoute (regID : RegistrationID) (routeID : RouteID)
  | keepalive (now : Time) (id : RegistrationID)
  | touchRoute (now : Time) (routeID : RouteID)
  | expireStale (now regTimeout routeTimeout : Time)

/-- An error leaves the registry as it is. -/
def after (r : Registry) : Except RegistryError Registry → Registry
  | .ok r' => r'
  | .error _ => r

def perform (r : Registry) : Op → Registry
  | .addRegistration now id => r.after (r.addRegistration now id)
  | .removeRegistration id => (r.removeRegistration id).1
  | .allocateRoute now regID routeID creds => r.after (r.allocateRoute now regID routeID creds)
  | .openRoute now regID routeID =>
    r.after ((r.getOwnedRoute regID routeID).bind fun _ => r.openRouteLocked now regID routeID)
  | .closeRoute regID routeID => r.after (r.closeRoute regID routeID)
  | .keepalive now id => r.after (r.keepalive now id)
  | .touchRoute now routeID => r.after (r.touchRoute now routeID)
  | .expireStale now regTimeout routeTimeout => (r.expireStale now regTimeout routeTimeout).1

/-- The numbers of registrations and routes are within the limits. -/
structure Bounded (r : Registry) (maxRegistrations maxRoutes : Nat) : Prop where
  limits : r.maxRegistrations = maxRegistrations ∧ r.maxRoutes = maxRoutes
  registrations : r.registrations.keys.length ≤ maxRegistrations
  routes : r.routes.keys.length ≤ maxRoutes

/-- A sweep from `r` to `r'` reports what it removes, each once. -/
structure Reports (r r' : Registry) (result : ExpireStaleResult) : Prop where
  registrationsOnce : result.expiredRegistrations.Nodup
  routesOnce : result.allExpiredRoutes.Nodup
  registrations : ∀ id, id ∈ result.expiredRegistrations ↔
    id ∈ r.registrations ∧ id ∉ r'.registrations
  routes : ∀ R, R ∈ result.allExpiredRoutes ↔ R ∈ r.routes ∧ R ∉ r'.routes

/-! ## Limits -/

theorem length_keys_le {V : Type} {m m' : GoMap Nat V}
    (fewer : ∀ k, m.lookup k = none → m'.lookup k = none) : m'.keys.length ≤ m.keys.length := by
  refine (subperm_of_subset m'.keys_nodup fun k member => ?_).length_le
  by_contra absent
  exact lookup_eq_none.mp (fewer k (lookup_eq_none.mpr absent)) member

theorem length_keys_insert {V : Type} (m : GoMap Nat V) (v : V) :
    (m.insert k v).keys.length ≤ m.keys.length + 1 := by
  rw [keys_insert, length_cons]
  exact succ_le_succ (erase_sublist.length_le)

variable {r r' : Registry} {maxRegistrations maxRoutes : Nat}

theorem Bounded.fewer (bounded : r.Bounded maxRegistrations maxRoutes)
    (limits : r'.maxRegistrations = r.maxRegistrations ∧ r'.maxRoutes = r.maxRoutes)
    (registrations : ∀ id, r.registrations.lookup id = none → r'.registrations.lookup id = none)
    (routes : ∀ R, r.routes.lookup R = none → r'.routes.lookup R = none) :
    r'.Bounded maxRegistrations maxRoutes where
  limits := by rw [limits.1, limits.2]; exact bounded.limits
  registrations := le_trans (length_keys_le registrations) bounded.registrations
  routes := le_trans (length_keys_le routes) bounded.routes

/-! ## The sweep -/

variable {now regTimeout routeTimeout : Time} {id : RegistrationID}

/-- What holds between two iterations of the sweep of `r`. -/
@[grind] structure Sweeping (r : Registry) (acc : Registry × ExpireStaleResult) : Prop where
  consistent : acc.1.Consistent
  limits : acc.1.maxRegistrations = r.maxRegistrations ∧ acc.1.maxRoutes = r.maxRoutes
  lookup : ∀ R, acc.1.routes.lookup R =
    if R ∈ acc.2.allExpiredRoutes then none else r.routes.lookup R
  registrations : ∀ id, id ∈ acc.1.registrations ↔
    id ∈ r.registrations ∧ id ∉ acc.2.expiredRegistrations
  known : ∀ id ∈ acc.2.expiredRegistrations, id ∈ r.registrations
  routes : ∀ R ∈ acc.2.allExpiredRoutes, R ∈ r.routes
  once : acc.2.expiredRegistrations.Nodup ∧ acc.2.allExpiredRoutes.Nodup

/-- The routes that a registration lists are in the table, so they were not reported yet. -/
theorem Sweeping.listed (sweeping : Sweeping r acc)
    (found : acc.1.registrations.lookup id = some reg) (member : R ∈ reg.routes) :
    R ∉ acc.2.allExpiredRoutes ∧ R ∈ r.routes := by
  obtain ⟨entry, present, -⟩ :=
    routeRegistration_eq_some.mp ((sweeping.consistent id R).mpr ⟨reg, found, member⟩)
  have lookup := sweeping.lookup R
  rw [present] at lookup
  split at lookup
  · cases lookup
  · exact ⟨‹_›, (GoMap.mem_iff_lookup _ _).mpr ⟨entry, lookup.symm⟩⟩

theorem expireRegistration_sweeping (sweeping : Sweeping r acc) :
    Sweeping r (expireRegistration now regTimeout routeTimeout acc id) := by
  have consistent : (expireRegistration now regTimeout routeTimeout acc id).1.Consistent :=
    expireRegistration_consistent sweeping.consistent
  have lookup : ∀ R, (expireRegistration now regTimeout routeTimeout acc id).1.routes.lookup R =
      if R ∈ (expireRegistration now regTimeout routeTimeout acc id).2.allExpiredRoutes then none
      else r.routes.lookup R := fun R => expireRegistration_lookup R (sweeping.lookup R)
  cases found : acc.1.registrations.lookup id with
  | none =>
    have same : expireRegistration now regTimeout routeTimeout acc id = acc := by
      rw [expireRegistration, found]
    rw [same]
    exact sweeping
  | some reg =>
    have listed := fun R => sweeping.listed (R := R) found
    have member : id ∈ acc.1.registrations := (GoMap.mem_iff_lookup _ _).mpr ⟨reg, found⟩
    have keys := reg.routes.keys_nodup
    have stale : ∀ R, R ∈ reg.routes.keys.filter (acc.1.routeStale now routeTimeout) →
        R ∈ reg.routes := fun R taken => (mem_filter.mp taken).1
    have live := fun R => GoMap.mem_eraseAll reg.routes
      (reg.routes.keys.filter (acc.1.routeStale now routeTimeout)) R
    have nodup := (GoMap.eraseAll reg.routes
      (reg.routes.keys.filter (acc.1.routeStale now routeTimeout))).keys_nodup
    have once := keys.filter (acc.1.routeStale now routeTimeout)
    simp only [expireRegistration, found] at consistent lookup ⊢
    split at consistent
    · rename_i expired
      simp only [expired, if_true] at consistent lookup ⊢
      refine ⟨consistent, sweeping.limits, lookup, ?_, ?_, ?_, ?_⟩
      · grind [mem_erase]
      · grind
      · grind [allExpiredRoutes, AList.mem_keys]
      · grind [allExpiredRoutes, AList.mem_keys, nodup_append]
    · rename_i expired
      simp only [expired, if_false] at consistent lookup ⊢
      refine ⟨consistent, sweeping.limits, lookup, ?_, ?_, ?_, ?_⟩
      · grind [mem_insert]
      · grind
      · grind [allExpiredRoutes]
      · grind [allExpiredRoutes]

theorem expireStale_sweeping (ok : r.Consistent) :
    Sweeping r (r.expireStale now regTimeout routeTimeout) := by
  have start : Sweeping r (r, {}) := by
    refine ⟨ok, ⟨rfl, rfl⟩, ?_, ?_, ?_, ?_, ?_⟩ <;> simp [allExpiredRoutes]
  have loop : ∀ (ids : List RegistrationID) (acc : Registry × ExpireStaleResult), Sweeping r acc →
      Sweeping r (ids.foldl (expireRegistration now regTimeout routeTimeout) acc) := by
    intro ids
    induction ids with
    | nil => exact fun _ sofar => sofar
    | cons id rest ih => exact fun acc sofar => ih _ (expireRegistration_sweeping sofar)
  exact loop r.registrations.keys (r, {}) start

theorem expireStale_reports (ok : r.Consistent) :
    Reports r (r.expireStale now regTimeout routeTimeout).1
      (r.expireStale now regTimeout routeTimeout).2 := by
  have sweeping : Sweeping r (r.expireStale now regTimeout routeTimeout) := expireStale_sweeping ok
  refine ⟨sweeping.once.1, sweeping.once.2, ?_, ?_⟩
  · grind
  · grind [lookup_eq_none]

/-! ## Sequences -/

/-- What an operation keeps when it succeeds is kept. -/
theorem after_of_ok {P : Registry → Prop} (start : P r)
    (keeps : ∀ r', done = .ok r' → P r') : P (r.after done) := by
  cases done with
  | error _ => exact start
  | ok r' => exact keeps r' rfl

theorem openRoute_ok (done : ((r.getOwnedRoute regID routeID).bind fun _ =>
      r.openRouteLocked now regID routeID) = .ok r') :
    r.openRouteLocked now regID routeID = .ok r' := by
  cases owned : r.getOwnedRoute regID routeID <;> rw [owned] at done
  case error _ =>
    cases done
  case ok _ =>
    exact done

theorem perform_consistent (ok : r.Consistent) : (r.perform op).Consistent := by
  cases op with
  | addRegistration now id => exact after_of_ok ok fun _ => addRegistration_consistent ok
  | removeRegistration id => exact removeRegistration_consistent ok
  | allocateRoute now regID routeID creds =>
    exact after_of_ok ok fun _ => allocateRoute_consistent ok
  | openRoute now regID routeID =>
    exact after_of_ok ok fun _ done => openRouteLocked_consistent ok (openRoute_ok done)
  | closeRoute regID routeID => exact after_of_ok ok fun _ => closeRoute_consistent ok
  | keepalive now id => exact after_of_ok ok fun _ => keepalive_consistent ok
  | touchRoute now routeID => exact after_of_ok ok fun _ => touchRoute_consistent ok
  | expireStale now regTimeout routeTimeout => exact expireStale_consistent ok

theorem perform_bounded (ok : r.Consistent) (bounded : r.Bounded maxRegistrations maxRoutes) :
    (r.perform op).Bounded maxRegistrations maxRoutes := by
  have after : ∀ done, (∀ r', done = .ok r' → r'.Bounded maxRegistrations maxRoutes) →
      (r.after done).Bounded maxRegistrations maxRoutes := fun _ =>
    after_of_ok (P := (Bounded · maxRegistrations maxRoutes)) bounded
  cases op with
  | addRegistration now id =>
    refine after _ fun r' done => ?_
    grind [addRegistration, Bounded, length_keys_insert]
  | removeRegistration id =>
    change (r.removeRegistration id).1.Bounded _ _
    unfold removeRegistration
    split
    · exact bounded
    · exact bounded.fewer ⟨rfl, rfl⟩ (by grind) (by grind)
  | allocateRoute now regID routeID creds =>
    refine after _ fun r' done => ?_
    obtain ⟨reg, _, found, absent, -, rfl⟩ := allocateRoute_ok done
    have room : r.routes.keys.length < r.maxRoutes := by grind [allocateRoute]
    refine ⟨bounded.limits, le_trans (length_keys_le (by grind)) bounded.registrations, ?_⟩
    grind [Bounded, length_keys_insert]
  | openRoute now regID routeID =>
    refine after _ fun r' done => ?_
    obtain ⟨entry, found, -, -, rfl⟩ := openRouteLocked_ok (openRoute_ok done)
    exact bounded.fewer ⟨rfl, rfl⟩ (by grind) (by grind)
  | closeRoute regID routeID =>
    refine after _ fun r' done => ?_
    obtain ⟨entry, found, -, rfl⟩ := closeRoute_ok done
    exact bounded.fewer ⟨rfl, rfl⟩ (by grind) (by grind)
  | keepalive now id =>
    refine after _ fun r' done => ?_
    obtain ⟨_, found, rfl⟩ := keepalive_ok done
    exact bounded.fewer ⟨rfl, rfl⟩ (by grind) (by grind)
  | touchRoute now routeID =>
    refine after _ fun r' done => ?_
    obtain ⟨_, _, rfl⟩ := touchRoute_ok done
    exact bounded.fewer ⟨rfl, rfl⟩ (by grind) (by grind)
  | expireStale now regTimeout routeTimeout =>
    have sweeping : Sweeping r (r.expireStale now regTimeout routeTimeout) :=
      expireStale_sweeping ok
    refine bounded.fewer sweeping.limits (fun id absent => ?_) fun R absent => ?_
    · grind [perform, lookup_eq_none]
    · grind [perform]

/-- After any operations the tables agree, the limits are kept, and every sweep reports exactly
what it removes. -/
theorem registry_invariant (maxRegistrations maxRoutes : Nat) (ops : List Op) :
    let r := ops.foldl perform (new maxRegistrations maxRoutes)
    r.Consistent ∧ r.registrations.keys.length ≤ maxRegistrations ∧
      r.routes.keys.length ≤ maxRoutes ∧ ∀ now regTimeout routeTimeout,
        Reports r (r.expireStale now regTimeout routeTimeout).1
          (r.expireStale now regTimeout routeTimeout).2 := by
  have loop : ∀ (ops : List Op) (r : Registry),
      r.Consistent ∧ r.Bounded maxRegistrations maxRoutes →
      (ops.foldl perform r).Consistent ∧
        (ops.foldl perform r).Bounded maxRegistrations maxRoutes := by
    intro ops
    induction ops with
    | nil => exact fun _ start => start
    | cons op rest ih =>
      exact fun r start => ih _ ⟨perform_consistent start.1, perform_bounded start.1 start.2⟩
  have start : (new maxRegistrations maxRoutes).Bounded maxRegistrations maxRoutes :=
    ⟨⟨rfl, rfl⟩, zero_le _, zero_le _⟩
  obtain ⟨consistent, bounded⟩ := loop ops _ ⟨new_consistent maxRegistrations maxRoutes, start⟩
  exact ⟨consistent, bounded.registrations, bounded.routes, fun _ _ _ =>
    expireStale_reports consistent⟩

end NeonDoll.Relay.Registry
