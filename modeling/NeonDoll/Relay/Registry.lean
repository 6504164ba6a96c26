import NeonDoll.Lib.GoMap

/-!
# The Relay registry

Registrations, their routes and the operations of `registry.go`, each as one atomic function
because each runs under the registry mutex.  `OpenRoute` and `SetRouteEndpoint` first check
the owner under the read lock and then take the write lock; their locked halves are separate
functions here.
-/

namespace NeonDoll.Relay

open Lib List GoMap Option

/-- Route identifier of the wire protocol. -/
abbrev RouteID := Nat

/-- Opaque random identifier of a Core registration. -/
abbrev RegistrationID := Nat

/-- Opaque random route credential; `0` is the empty string. -/
abbrev Token := Nat

/-- Port of a public UDP endpoint; the listen address is fixed by the configuration. -/
abbrev UDPEndpoint := Nat

/-- Clock readings and durations. -/
abbrev Time := Nat

inductive RouteState where
  | allocated
  | opening
  | open
  | closing
  | closed
  deriving DecidableEq

inductive RegistryError where
  | registrationNotFound
  | registrationExists
  | registrationLimit
  | routeNotFound
  | tooManyRoutes
  | routeAlreadyExists
  | routeWrongOwner
  | routeStateTransition
  | routeCredentialsInvalid
  deriving DecidableEq

def RegistryError.message : RegistryError → String
  | .registrationNotFound => "relay: registration not found"
  | .registrationExists => "relay: registration already exists"
  | .registrationLimit => "relay: max registrations reached"
  | .routeNotFound => "relay: route not found"
  | .tooManyRoutes => "relay: max routes reached"
  | .routeAlreadyExists => "relay: route already exists"
  | .routeWrongOwner => "relay: route belongs to a different registration"
  | .routeStateTransition => "relay: invalid route state transition"
  | .routeCredentialsInvalid => "relay: route credentials are invalid"

structure RouteEntry where
  state : RouteState
  registrationID : RegistrationID
  credentials : Token
  updatedAt : Time
  endpoint : Option UDPEndpoint
  deriving DecidableEq

/-- A registration keeps the set of its route ids. -/
structure RegistrationEntry where
  lastKeepalive : Time
  routes : GoMap RouteID Unit

structure Registry where
  registrations : GoMap RegistrationID RegistrationEntry
  routes : GoMap RouteID RouteEntry
  maxRegistrations : Nat
  maxRoutes : Nat

namespace Registry

def new (maxRegistrations maxRoutes : Nat) : Registry :=
  ⟨∅, ∅, maxRegistrations, maxRoutes⟩

/-! ## Registrations -/

def addRegistration (r : Registry) (now : Time) (id : RegistrationID) :
    Except RegistryError Registry :=
  match r.registrations.lookup id with
  | some _ => .error .registrationExists
  | none =>
    if r.maxRegistrations ≤ r.registrations.keys.length then .error .registrationLimit
    else .ok { r with registrations := r.registrations.insert id ⟨now, ∅⟩ }

def removeRegistration (r : Registry) (id : RegistrationID) : Registry × List RouteID :=
  match r.registrations.lookup id with
  | none => (r, [])
  | some reg =>
    ({ r with
        routes := GoMap.eraseAll r.routes reg.routes.keys
        registrations := r.registrations.erase id },
      reg.routes.keys)

def keepalive (r : Registry) (now : Time) (id : RegistrationID) :
    Except RegistryError Registry :=
  match r.registrations.lookup id with
  | none => .error .registrationNotFound
  | some reg =>
    .ok { r with registrations := r.registrations.insert id { reg with lastKeepalive := now } }

/-! ## Routes -/

def touchRoute (r : Registry) (now : Time) (routeID : RouteID) : Except RegistryError Registry :=
  match r.routes.lookup routeID with
  | none => .error .routeNotFound
  | some entry =>
    .ok { r with routes := r.routes.insert routeID { entry with updatedAt := now } }

/-- `creds` is what `GenerateRouteCredentials` returned, `none` when the generator failed. -/
def allocateRoute (r : Registry) (now : Time) (regID : RegistrationID) (routeID : RouteID)
    (creds : Option Token) : Except RegistryError Registry :=
  match r.registrations.lookup regID with
  | none => .error .registrationNotFound
  | some reg =>
    match r.routes.lookup routeID with
    | some _ => .error .routeAlreadyExists
    | none =>
      if r.maxRoutes ≤ r.routes.keys.length then .error .tooManyRoutes
      else
        match creds with
        | none => .error .routeCredentialsInvalid
        | some token =>
          .ok { r with
            routes := r.routes.insert routeID ⟨.allocated, regID, token, now, none⟩
            registrations :=
              r.registrations.insert regID { reg with routes := reg.routes.insert routeID () } }

def getOwnedRoute (r : Registry) (regID : RegistrationID) (routeID : RouteID) :
    Except RegistryError RouteEntry :=
  match r.routes.lookup routeID with
  | none => .error .routeNotFound
  | some entry =>
    if entry.registrationID = regID then .ok entry else .error .routeWrongOwner

/-- The part of `OpenRoute` under the write lock. -/
def openRouteLocked (r : Registry) (now : Time) (regID : RegistrationID) (routeID : RouteID) :
    Except RegistryError Registry :=
  match r.routes.lookup routeID with
  | none => .error .routeNotFound
  | some entry =>
    if entry.registrationID = regID then
      match entry.state with
      | .allocated =>
        .ok { r with
          routes := r.routes.insert routeID { entry with state := .open, updatedAt := now } }
      | _ => .error .routeStateTransition
    else .error .routeNotFound

/-- The part of `SetRouteEndpoint` under the write lock. -/
def setRouteEndpointLocked (r : Registry) (now : Time) (regID : RegistrationID)
    (routeID : RouteID) (endpoint : UDPEndpoint) : Except RegistryError Registry :=
  match r.routes.lookup routeID with
  | none => .error .routeNotFound
  | some entry =>
    if entry.registrationID = regID then
      .ok { r with
        routes := r.routes.insert routeID
          { entry with endpoint := some endpoint, updatedAt := now } }
    else .error .routeNotFound

def closeRoute (r : Registry) (regID : RegistrationID) (routeID : RouteID) :
    Except RegistryError Registry :=
  match r.routes.lookup routeID with
  | none => .error .routeNotFound
  | some entry =>
    if entry.registrationID = regID then
      if entry.state = .closed then .error .routeStateTransition
      else
        .ok { r with
          routes := r.routes.erase routeID
          registrations := GoMap.modify r.registrations regID
            fun reg => { reg with routes := reg.routes.erase routeID } }
    else .error .routeWrongOwner

def route (r : Registry) (routeID : RouteID) : Option RouteEntry :=
  r.routes.lookup routeID

/-- `RouteRegistration`: the registration that owns the route. -/
def routeRegistration (r : Registry) (routeID : RouteID) : Option RegistrationID :=
  (r.routes.lookup routeID).map RouteEntry.registrationID

def routeCredentialsFromEntry (r : Registry) (routeID : RouteID) : Option Token :=
  (r.routes.lookup routeID).map RouteEntry.credentials

/-! ## Liveness -/

structure ExpireStaleResult where
  staleRoutes : List RouteID := []
  expiredRegistrations : List RegistrationID := []
  routesExpiredViaReg : List RouteID := []
  deriving DecidableEq

def ExpireStaleResult.allExpiredRoutes (result : ExpireStaleResult) : List RouteID :=
  result.staleRoutes ++ result.routesExpiredViaReg

def routeStale (r : Registry) (now routeTimeout : Time) (routeID : RouteID) : Bool :=
  match r.routes.lookup routeID with
  | none => false
  | some entry => decide (routeTimeout < now - entry.updatedAt)

/-- One iteration of the loop of `ExpireStale` over the registrations. -/
def expireRegistration (now regTimeout routeTimeout : Time)
    (acc : Registry × ExpireStaleResult) (id : RegistrationID) : Registry × ExpireStaleResult :=
  match acc.1.registrations.lookup id with
  | none => acc
  | some reg =>
    let stale := reg.routes.keys.filter (acc.1.routeStale now routeTimeout)
    let live := GoMap.eraseAll reg.routes stale
    let routes := GoMap.eraseAll acc.1.routes stale
    if regTimeout < now - reg.lastKeepalive then
      ({ acc.1 with
          routes := GoMap.eraseAll routes live.keys
          registrations := acc.1.registrations.erase id },
        { staleRoutes := acc.2.staleRoutes ++ stale
          expiredRegistrations := acc.2.expiredRegistrations ++ [id]
          routesExpiredViaReg := acc.2.routesExpiredViaReg ++ live.keys })
    else
      ({ acc.1 with
          routes := routes
          registrations := acc.1.registrations.insert id { reg with routes := live } },
        { acc.2 with staleRoutes := acc.2.staleRoutes ++ stale })

def expireStale (r : Registry) (now regTimeout routeTimeout : Time) :
    Registry × ExpireStaleResult :=
  r.registrations.keys.foldl (expireRegistration now regTimeout routeTimeout) (r, {})

/-! ## What each operation does to the route table -/

variable {r r' : Registry} {id regID : RegistrationID} {routeID : RouteID}

theorem addRegistration_ok (done : r.addRegistration now id = .ok r') :
    r.registrations.lookup id = none ∧
      r' = { r with registrations := r.registrations.insert id ⟨now, ∅⟩ } := by
  unfold addRegistration at done
  split at done
  · cases done
  rename_i fresh
  split at done
  · cases done
  · exact ⟨fresh, (Except.ok.inj done).symm⟩

theorem keepalive_ok (done : r.keepalive now id = .ok r') :
    ∃ reg, r.registrations.lookup id = some reg ∧
      r' = { r with
        registrations := r.registrations.insert id { reg with lastKeepalive := now } } := by
  unfold keepalive at done
  split at done
  · cases done
  · rename_i reg found
    exact ⟨reg, found, (Except.ok.inj done).symm⟩

theorem touchRoute_ok (done : r.touchRoute now routeID = .ok r') :
    ∃ entry, r.routes.lookup routeID = some entry ∧
      r' = { r with routes := r.routes.insert routeID { entry with updatedAt := now } } := by
  rw [touchRoute] at done
  split at done
  · cases done
  · rename_i entry found
    exact ⟨entry, found, (Except.ok.inj done).symm⟩

theorem allocateRoute_ok (done : r.allocateRoute now regID routeID creds = .ok r') :
    ∃ reg token, r.registrations.lookup regID = some reg ∧ r.routes.lookup routeID = none ∧
      creds = some token ∧
      r' = { r with
        routes := r.routes.insert routeID ⟨.allocated, regID, token, now, none⟩
        registrations :=
          r.registrations.insert regID { reg with routes := reg.routes.insert routeID () } } := by
  unfold allocateRoute at done
  split at done
  · cases done
  rename_i reg found
  split at done
  · cases done
  rename_i absent
  split at done
  · cases done
  split at done
  · cases done
  · rename_i token
    exact ⟨reg, token, found, absent, rfl, (Except.ok.inj done).symm⟩

theorem openRouteLocked_ok (done : r.openRouteLocked now regID routeID = .ok r') :
    ∃ entry, r.routes.lookup routeID = some entry ∧ entry.registrationID = regID ∧
      entry.state = .allocated ∧
      r' = { r with
        routes := r.routes.insert routeID { entry with state := .open, updatedAt := now } } := by
  rw [openRouteLocked] at done
  split at done
  · cases done
  · grind

variable {endpoint : UDPEndpoint}

theorem setRouteEndpointLocked_ok
    (done : r.setRouteEndpointLocked now regID routeID endpoint = .ok r') :
    ∃ entry, r.routes.lookup routeID = some entry ∧ entry.registrationID = regID ∧
      r' = { r with
        routes := r.routes.insert routeID
          { entry with endpoint := some endpoint, updatedAt := now } } := by
  rw [setRouteEndpointLocked] at done
  split at done
  · cases done
  · grind

theorem closeRoute_ok (done : r.closeRoute regID routeID = .ok r') :
    ∃ entry, r.routes.lookup routeID = some entry ∧ entry.registrationID = regID ∧
      r' = { r with
        routes := r.routes.erase routeID
        registrations := GoMap.modify r.registrations regID
          fun reg => { reg with routes := reg.routes.erase routeID } } := by
  rw [closeRoute] at done
  split at done
  · cases done
  · grind

/-! ## Owners -/

variable {R : RouteID}

theorem routeRegistration_eq_some : r.routeRegistration R = some id ↔
      ∃ entry, r.routes.lookup R = some entry ∧ entry.registrationID = id := by
  rw [routeRegistration, map_eq_some_iff]

theorem routeRegistration_eq_none : r.routeRegistration R = none ↔ r.routes.lookup R = none := by
  rw [routeRegistration, map_eq_none_iff]

theorem addRegistration_owner (done : r.addRegistration now id = .ok r') (R : RouteID) :
    r'.routeRegistration R = r.routeRegistration R := by
  obtain ⟨_, rfl⟩ := addRegistration_ok done
  rfl

theorem keepalive_owner (done : r.keepalive now id = .ok r') (R : RouteID) :
    r'.routeRegistration R = r.routeRegistration R := by
  obtain ⟨_, _, rfl⟩ := keepalive_ok done
  rfl

theorem touchRoute_owner (done : r.touchRoute now routeID = .ok r') (R : RouteID) :
    r'.routeRegistration R = r.routeRegistration R := by
  obtain ⟨_, _, rfl⟩ := touchRoute_ok done
  grind [routeRegistration]

theorem openRouteLocked_owner (done : r.openRouteLocked now regID routeID = .ok r') (R : RouteID) :
    r'.routeRegistration R = r.routeRegistration R := by
  obtain ⟨_, _, _, _, rfl⟩ := openRouteLocked_ok done
  grind [routeRegistration]

theorem setRouteEndpointLocked_owner
    (done : r.setRouteEndpointLocked now regID routeID endpoint = .ok r') (R : RouteID) :
    r'.routeRegistration R = r.routeRegistration R := by
  obtain ⟨_, _, _, rfl⟩ := setRouteEndpointLocked_ok done
  grind [routeRegistration]

theorem allocateRoute_owner
    (done : r.allocateRoute now regID routeID creds = .ok r') (R : RouteID) :
    r'.routeRegistration R = if R = routeID then some regID else r.routeRegistration R := by
  obtain ⟨_, _, _, _, _, rfl⟩ := allocateRoute_ok done
  rw [routeRegistration, lookup_insert_ite]
  split
  all_goals rfl

theorem closeRoute_owner (done : r.closeRoute regID routeID = .ok r') (R : RouteID) :
    r'.routeRegistration R = if R = routeID then none else r.routeRegistration R := by
  obtain ⟨_, _, _, rfl⟩ := closeRoute_ok done
  rw [routeRegistration, lookup_erase_ite]
  split
  all_goals rfl

/-! ## Consistency of the two route tables -/

def lists (r : Registry) (id : RegistrationID) (R : RouteID) : Prop :=
  ∃ reg, r.registrations.lookup id = some reg ∧ R ∈ reg.routes

/-- A registration lists exactly the routes that carry its identifier. -/
def Consistent (r : Registry) : Prop :=
  ∀ id R, r.routeRegistration R = some id ↔ r.lists id R

theorem new_consistent (maxRegistrations maxRoutes : Nat) :
    (new maxRegistrations maxRoutes).Consistent := by
  intro id R
  constructor
  · rintro owned
    cases owned
  · rintro ⟨_, found, _⟩
    cases found

section

variable (ok : r.Consistent)

include ok

/-- Consistency only depends on the owners and on the listed routes. -/
theorem Consistent.transfer (owners : ∀ R, r'.routeRegistration R = r.routeRegistration R)
    (listed : ∀ id R, r'.lists id R ↔ r.lists id R) : r'.Consistent := by
  intro id R
  rw [owners, listed]
  exact ok id R

theorem addRegistration_consistent
    (done : r.addRegistration now regID = .ok r') : r'.Consistent := by
  refine ok.transfer (addRegistration_owner done) ?_
  obtain ⟨absent, rfl⟩ := addRegistration_ok done
  intro id R
  rw [lists, lists, lookup_insert_ite]
  split
  · rename_i same
    subst same
    simp [absent]
  · exact Iff.rfl

theorem keepalive_consistent (done : r.keepalive now regID = .ok r') : r'.Consistent := by
  refine ok.transfer (keepalive_owner done) ?_
  obtain ⟨_, found, rfl⟩ := keepalive_ok done
  intro id R
  rw [lists, lists, lookup_insert_ite]
  split
  · rename_i same
    subst same
    simp [found]
  · exact Iff.rfl

theorem touchRoute_consistent (done : r.touchRoute now routeID = .ok r') : r'.Consistent := by
  refine ok.transfer (touchRoute_owner done) ?_
  obtain ⟨_, _, rfl⟩ := touchRoute_ok done
  exact fun _ _ => Iff.rfl

theorem openRouteLocked_consistent
    (done : r.openRouteLocked now regID routeID = .ok r') : r'.Consistent := by
  refine ok.transfer (openRouteLocked_owner done) ?_
  obtain ⟨_, _, _, _, rfl⟩ := openRouteLocked_ok done
  exact fun _ _ => Iff.rfl

theorem setRouteEndpointLocked_consistent
    (done : r.setRouteEndpointLocked now regID routeID endpoint = .ok r') : r'.Consistent := by
  refine ok.transfer (setRouteEndpointLocked_owner done) ?_
  obtain ⟨_, _, _, rfl⟩ := setRouteEndpointLocked_ok done
  exact fun _ _ => Iff.rfl

theorem allocateRoute_consistent
    (done : r.allocateRoute now regID routeID creds = .ok r') : r'.Consistent := by
  intro id R
  rw [allocateRoute_owner done]
  obtain ⟨_, _, found, absent, _, rfl⟩ := allocateRoute_ok done
  have unowned : r.routeRegistration routeID = none := routeRegistration_eq_none.mpr absent
  rw [lists, lookup_insert_ite]
  by_cases sameReg : id = regID
  · subst sameReg
    by_cases sameRoute : R = routeID
    · subst sameRoute
      simp
    · have old := ok id R
      simp only [lists, found, Option.some.injEq, exists_eq_left'] at old
      simp [sameRoute, old]
  · grind [lists, Consistent]

theorem closeRoute_consistent (done : r.closeRoute regID routeID = .ok r') : r'.Consistent := by
  intro id R
  rw [closeRoute_owner done]
  obtain ⟨entry, found, owned, rfl⟩ := closeRoute_ok done
  have owner : r.routeRegistration routeID = some regID :=
    routeRegistration_eq_some.mpr ⟨entry, found, owned⟩
  rw [lists, lookup_modify]
  by_cases sameReg : id = regID
  · subst sameReg
    obtain ⟨_, foundReg, _⟩ := (ok id routeID).mp owner
    have old := ok id R
    simp only [lists, foundReg, Option.some.injEq, exists_eq_left'] at old
    by_cases sameRoute : R = routeID
    · subst sameRoute
      simp [foundReg]
    · simp [foundReg, sameRoute, old]
  · grind [lists, Consistent]

/-- Erasing the routes a registration lists, together with the registration, keeps the
tables consistent and takes exactly its own routes. -/
theorem Consistent.drop_registration (found : r.registrations.lookup regID = some reg)
    (registrations : r'.registrations = r.registrations.erase regID)
    (routes : ∀ R, r'.routes.lookup R = if R ∈ reg.routes then none else r.routes.lookup R) :
    r'.Consistent := by
  intro id R
  have old := ok id R
  have own := ok regID R
  simp only [lists, found, Option.some.injEq, exists_eq_left'] at own
  rw [lists, registrations, lookup_erase_ite, routeRegistration, routes]
  by_cases sameReg : id = regID
  · grind [routeRegistration]
  rw [if_neg sameReg]
  by_cases listed : R ∈ reg.routes
  · grind [lists]
  · rw [if_neg listed, ← routeRegistration]
    exact old

theorem removeRegistration_consistent : (r.removeRegistration regID).1.Consistent := by
  rw [removeRegistration]
  split
  · exact ok
  · rename_i reg found
    exact ok.drop_registration found rfl (lookup_eraseAll_keys r.routes reg.routes)

end

/-! ## The expiry sweep -/

/-- One iteration reports exactly the routes it takes out of the table. -/
theorem expireRegistration_lookup (R : RouteID) (sofar : acc.1.routes.lookup R =
      if R ∈ acc.2.allExpiredRoutes then none else r.routes.lookup R) :
    let next := expireRegistration now regTimeout routeTimeout acc id
    next.1.routes.lookup R =
      if R ∈ next.2.allExpiredRoutes then none else r.routes.lookup R := by
  intro next
  simp only [ExpireStaleResult.allExpiredRoutes, mem_append] at sofar ⊢
  simp only [next, expireRegistration]
  split
  · exact sofar
  · grind

theorem expireRegistration_consistent (ok : acc.1.Consistent) :
    (expireRegistration now regTimeout routeTimeout acc id).1.Consistent := by
  rw [expireRegistration]
  split
  · exact ok
  rename_i reg found
  split
  · refine ok.drop_registration found rfl ?_
    intro R
    simp only [lookup_eraseAll, mem_eraseAll, mem_filter, ← AList.mem_keys]
    grind
  · -- the registration stays and loses its stale routes on both sides
    intro other R
    have old := ok other R
    have own := ok id R
    simp only [lists, found, Option.some.injEq, exists_eq_left'] at own
    simp only [lists] at old
    simp only [lists, routeRegistration, lookup_eraseAll, lookup_insert_ite]
    by_cases stale : R ∈ reg.routes.keys.filter (acc.1.routeStale now routeTimeout)
    · have listed : R ∈ reg.routes := (mem_filter.mp stale).1
      rw [if_pos stale]
      refine ⟨(nomatch ·), ?_⟩
      rintro ⟨_, _, _⟩
      by_cases same : other = id
      · grind [mem_eraseAll]
      · grind
    · rw [if_neg stale, ← routeRegistration]
      by_cases same : other = id
      · grind [mem_eraseAll]
      · simp only [same, ↓reduceIte]
        exact old

/-- The sweep takes out exactly the routes of its result. -/
theorem expireStale_lookup (r : Registry) (R : RouteID) :
    (r.expireStale now regTimeout routeTimeout).1.routes.lookup R =
      if R ∈ (r.expireStale now regTimeout routeTimeout).2.allExpiredRoutes then none
      else r.routes.lookup R := by
  have loop : ∀ (ids : List RegistrationID) (acc : Registry × ExpireStaleResult),
      acc.1.routes.lookup R = (if R ∈ acc.2.allExpiredRoutes then none else r.routes.lookup R) →
      (ids.foldl (expireRegistration now regTimeout routeTimeout) acc).1.routes.lookup R =
        if R ∈ (ids.foldl (expireRegistration now regTimeout routeTimeout) acc).2.allExpiredRoutes
        then none else r.routes.lookup R := by
    intro ids
    induction ids with
    | nil => exact fun _ sofar => sofar
    | cons id rest ih => exact fun acc sofar => ih _ (expireRegistration_lookup R sofar)
  exact loop r.registrations.keys (r, {}) (by simp [ExpireStaleResult.allExpiredRoutes])

theorem expireStale_consistent (ok : r.Consistent) :
    (r.expireStale now regTimeout routeTimeout).1.Consistent := by
  have loop : ∀ (ids : List RegistrationID) (acc : Registry × ExpireStaleResult), acc.1.Consistent →
      (ids.foldl (expireRegistration now regTimeout routeTimeout) acc).1.Consistent := by
    intro ids
    induction ids with
    | nil => exact fun _ sofar => sofar
    | cons id rest ih => exact fun acc sofar => ih _ (expireRegistration_consistent sofar)
  exact loop r.registrations.keys (r, {}) ok

end Registry

end NeonDoll.Relay
