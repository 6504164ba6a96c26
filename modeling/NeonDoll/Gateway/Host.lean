import NeonDoll.Lib.GoMap
import NeonDoll.Lib.Text
import NeonDoll.Lib.Transition

/-!
# The life of a gateway adapter

`Core/Gateway/host.go`: `Register`, `Unregister`, `DeliverSessionEvent` and `Shutdown` of a host,
as the sections under `Host.mu` and the waits between them.  Calls from inside a callback are
calls like any other: where the source hands the rest to a goroutine, the caller only returns
earlier.  Errors of `Stop` are handed on and nothing else, so they are left out.
-/

namespace NeonDoll.Gateway.Host

open Lib Text Transition Option AList

abbrev InstanceID := Text

/-- One registration, `managedAdapter`. -/
abbrev RegID := Nat

/-- A call, or goroutine, that is about to stop an adapter. -/
abbrev CallID := Nat

/-- Where the `Register` of a registration stands. -/
inductive RegisterPc where
  | factory
  | starting
  | started (ok : Bool)
  | replaying
  | returned (ok : Bool)
  deriving DecidableEq

/-- `startDone` is closed in the second section. -/
@[grind] def RegisterPc.startDone : RegisterPc → Bool
  | .factory | .starting | .started _ => false
  | .replaying | .returned _ => true

/-- A `sync.Once`. -/
inductive Once where
  | fresh
  | running
  | done
  deriving DecidableEq

/-- `managedAdapter`, with the number of calls of `Stop`, and whether an `Unregister` or a
`Shutdown` came after the start. -/
structure Managed where
  id : InstanceID
  version : Nat
  register : RegisterPc
  active : Bool
  deliveries : Nat
  once : Once
  stops : Nat
  ended : Bool

inductive StopPc where
  | awaitStart
  | draining
  | once
  | stopping
  | deleting
  deriving DecidableEq

/-- What a call does after `stop`. -/
inductive After where
  | register
  | unregister
  | shutdown (rest : List RegID)
  deriving DecidableEq

/-- A call on its way through `stop`: the end of a failed `Register`, `finishUnregister`, or
`finishShutdown` with the adapters that are left. -/
structure Closing where
  reg : RegID
  pc : StopPc
  after : After
  deriving DecidableEq

@[grind] def After.rest : After → List RegID
  | .shutdown rest => rest
  | _ => []

/-- The adapter is stopped by this call, now or later. -/
@[grind] def Closing.concerns (c : Closing) (m : RegID) : Prop := m = c.reg ∨ m ∈ c.after.rest

instance (c : Closing) (m : RegID) : Decidable (c.concerns m) :=
  inferInstanceAs (Decidable (_ ∨ _))

structure State where
  configured : Bool
  closed : Bool
  adapters : GoMap InstanceID RegID
  managed : GoMap RegID Managed
  closings : GoMap CallID Closing

namespace State

@[grind] def update (s : State) (m : RegID) (f : Managed → Managed) : State :=
  { s with managed := GoMap.modify s.managed m f }

/-- A call goes on at `stop`, under a new name. -/
def spawn (s : State) (call : CallID) (c : Closing) : Option State :=
  if call ∈ s.closings then none else some { s with closings := s.closings.insert call c }

def goto (s : State) (call : CallID) (c : Closing) : State :=
  { s with closings := s.closings.insert call c }

def leave (s : State) (call : CallID) (c : Closing) : State :=
  match c.after with
  | .unregister => s.goto call { c with pc := .deleting }
  | .shutdown (m :: rest) => s.goto call ⟨m, .awaitStart, .shutdown rest⟩
  | .register | .shutdown [] => { s with closings := s.closings.erase call }

/-- Deletion of the entry, if it is still the registration's own. -/
@[grind] def forget (s : State) (id : InstanceID) (m : RegID) : State :=
  if s.adapters.lookup id = some m then { s with adapters := s.adapters.erase id } else s

end State

def legacySessionEventVersion : Nat := 1
def structuredSessionEventVersion : Nat := 2

/-- `Register` up to the end of its first section. -/
def register (s : State) (m : RegID) (id : InstanceID) (version : Nat) : State :=
  if trimSpace id = [] ∨
      (version ≠ legacySessionEventVersion ∧ version ≠ structuredSessionEventVersion) then s
  else if s.closed = true ∨ s.configured = false then s
  else if id ∈ s.adapters then s
  else { s with
    adapters := s.adapters.insert id m
    managed := s.managed.insert m ⟨id, version, .factory, false, 0, .fresh, 0, false⟩ }

/-- The second section of `Register`, after the factory and `Start`. -/
def finishStart (s : State) (m : RegID) (r : Managed) (ok : Bool) (call : CallID) : Option State :=
  if ok = false ∨ s.closed = true ∨ s.adapters.lookup r.id ≠ some m then
    ((s.forget r.id m).update m fun r => { r with register := .returned false }).spawn call
      ⟨m, .draining, .register⟩
  else some (s.update m fun r => { r with register := .replaying, active := true })

/-- The adapter gets no more deliveries. -/
@[grind] def Managed.retire (r : Managed) : Managed :=
  { r with active := false, ended := r.ended || r.register.startDone }

/-- The first section of `unregister`. -/
def unregister (s : State) (id : InstanceID) (call : CallID) : Option State :=
  match s.adapters.lookup id with
  | none => some s
  | some m => (s.update m Managed.retire).spawn call ⟨m, .awaitStart, .unregister⟩

/-- `Register` after the replay; it takes back its own registration only. -/
def finishReplay (s : State) (m : RegID) (r : Managed) (ok : Bool) (call : CallID) :
    Option State :=
  let t := s.update m fun r => { r with register := .returned ok }
  if ok = false ∧ s.adapters.lookup r.id = some m then unregister t r.id call else some t

/-- The first section of `DeliverSessionEvent`: the delivery is counted and runs. -/
def deliver (s : State) (id : InstanceID) : State :=
  match s.adapters.lookup id with
  | none => s
  | some m => s.update m fun r =>
    if r.active = true ∧ structuredSessionEventVersion ≤ r.version then
      { r with deliveries := r.deliveries + 1 }
    else r

/-- The first section of `Shutdown`, which finds the adapters in any order.  An adapter that is no
longer in the map is not active anyway. -/
def shutdown (s : State) (call : CallID) (order : List RegID) : Option State :=
  if s.closed then some s
  else if order.Perm (s.adapters.entries.map Sigma.snd) then
    let t := { s with
      closed := true
      adapters := ∅
      managed := GoMap.mapValues s.managed Managed.retire }
    match order with
    | [] => some t
    | m :: rest => t.spawn call ⟨m, .awaitStart, .shutdown rest⟩
  else none

/-- The next step of a call on its way through `stop`. -/
def advance (s : State) (call : CallID) (c : Closing) (r : Managed) : Option State :=
  match c.pc with
  | .awaitStart =>
    if r.register.startDone then some (s.goto call { c with pc := .draining }) else none
  | .draining => if r.deliveries = 0 then some (s.goto call { c with pc := .once }) else none
  | .once =>
    match r.once with
    | .fresh =>
      some ((s.update c.reg fun r => { r with once := .running, stops := r.stops + 1 }).goto call
        { c with pc := .stopping })
    | .running => none
    | .done => some (s.leave call c)
  | .stopping => some ((s.update c.reg fun r => { r with once := .done }).leave call c)
  | .deleting => some { s.forget r.id c.reg with closings := s.closings.erase call }

inductive Action where
  | configure
  | register (m : RegID) (id : InstanceID) (version : Nat)
  | factoryReturned (m : RegID) (ok : Bool)
  | startReturned (m : RegID) (ok : Bool)
  | finishStart (m : RegID) (call : CallID)
  | replayReturned (m : RegID) (ok : Bool) (call : CallID)
  | unregister (id : InstanceID) (call : CallID)
  | deliver (id : InstanceID)
  | delivered (m : RegID)
  | shutdown (call : CallID) (order : List RegID)
  | advance (call : CallID)

def step (s : State) : Action → Option State
  | .configure =>
    some (if s.closed = true ∨ s.adapters.entries ≠ [] then s else { s with configured := true })
  | .register m id version => if m ∈ s.managed then none else some (register s m id version)
  | .factoryReturned m ok =>
    (s.managed.lookup m).bind fun r =>
      if r.register = .factory then
        some (s.update m fun r => { r with register := if ok then .starting else .started false })
      else none
  | .startReturned m ok =>
    (s.managed.lookup m).bind fun r =>
      if r.register = .starting then some (s.update m fun r => { r with register := .started ok })
      else none
  | .finishStart m call =>
    (s.managed.lookup m).bind fun r =>
      match r.register with
      | .started ok => finishStart s m r ok call
      | _ => none
  | .replayReturned m ok call =>
    (s.managed.lookup m).bind fun r =>
      if r.register = .replaying then finishReplay s m r ok call else none
  | .unregister id call => unregister s id call
  | .deliver id => some (deliver s id)
  | .delivered m =>
    (s.managed.lookup m).bind fun r =>
      if r.deliveries = 0 then none
      else some (s.update m fun r => { r with deliveries := r.deliveries - 1 })
  | .shutdown call order => shutdown s call order
  | .advance call =>
    (s.closings.lookup call).bind fun c => (s.managed.lookup c.reg).bind fun r => advance s call c r

def system : System State Action Empty where
  init := ⟨false, false, ∅, ∅, ∅⟩
  step? s a := (step s a).map fun t => (t, [])

/-! ## The lifecycle -/

/-- A call is about to stop the adapter. -/
def Doomed (closings : GoMap CallID Closing) (m : RegID) : Prop :=
  ∃ call c, closings.lookup call = some c ∧ c.concerns m

/-- A registration is over: the host has forgotten it and no call is about to stop it. -/
def State.Over (s : State) (m : RegID) (r : Managed) : Prop :=
  s.adapters.lookup r.id ≠ some m ∧ ¬Doomed s.closings m

/-- What the host promises about a registration: one `Stop` by its end, no delivery once `Stop` is
called, an active adapter after a successful `Register` unless it was ended later, and a free
instance id only when `Stop` has returned. -/
structure Kept (s : State) (m : RegID) (r : Managed) : Prop where
  atMostOnce : r.stops ≤ 1
  once : s.Over m r → r.stops = 1
  undelivered : r.stops ≠ 0 → r.deliveries = 0
  active : r.register = .returned true →
    r.ended = true ∨ r.active = true ∧ s.adapters.lookup r.id = some m
  reusable : s.adapters.lookup r.id ≠ some m → s.closed = true ∨ r.once = .done

/-- A start ends well, with nobody waiting to stop the adapter. -/
def undisturbed (s : State) : Action → Prop
  | .finishStart m _ => ∀ r ∈ s.managed.lookup m, s.adapters.lookup r.id = some m →
      r.register = .started true ∧ ¬Doomed s.closings m
  | _ => True

/-- What holds of the adapter where a call on its way through `stop` stands. -/
@[grind] def Closing.At (c : Closing) (r : Managed) : Prop :=
  match c.pc with
  | .awaitStart => True
  | .draining => r.register.startDone = true
  | .once => r.register.startDone = true ∧ r.deliveries = 0
  | .stopping => r.once ≠ .fresh
  | .deleting => r.once = .done ∧ c.after = .unregister

@[grind] structure Inv (s : State) : Prop where
  found : ∀ id m, s.adapters.lookup id = some m → (s.managed.lookup m).map Managed.id = some id
  closed : s.closed = true → ∀ id, s.adapters.lookup id = none
  known : ∀ m, Doomed s.closings m → s.managed.lookup m ≠ none
  stops : ∀ m r, s.managed.lookup m = some r → r.stops = if r.once = .fresh then 0 else 1
  active : ∀ m r, s.managed.lookup m = some r → r.active = true →
    s.adapters.lookup r.id = some m ∧ r.register.startDone = true ∧ r.once = .fresh ∧
      ¬Doomed s.closings m
  begun : ∀ m r, s.managed.lookup m = some r → r.once ≠ .fresh →
    r.deliveries = 0 ∧ r.register.startDone = true
  at_ : ∀ call c r, s.closings.lookup call = some c → s.managed.lookup c.reg = some r → c.At r
  left : ∀ m r, s.managed.lookup m = some r → s.adapters.lookup r.id ≠ some m →
    r.once = .done ∨ s.closed = true ∧ Doomed s.closings m
  kept : ∀ m r, s.managed.lookup m = some r →
    r.register = .replaying ∨ r.register = .returned true → r.active = true ∨ r.ended = true

variable {s t : State} {m : RegID} {r : Managed} {call : CallID} {c : Closing}

variable {id : InstanceID}

theorem Inv.row (inv : Inv s) (registered : s.adapters.lookup id = some m) :
    ∃ r, s.managed.lookup m = some r ∧ r.id = id :=
  map_eq_some_iff.mp (inv.found id m registered)

/-- A call moves on: it leaves an adapter only when `Stop` has returned. -/
theorem Inv.goto (inv : Inv s) (found : s.closings.lookup call = some c)
    (holds : ∀ r, s.managed.lookup c'.reg = some r → c'.At r)
    (fewer : ∀ m, c'.concerns m → c.concerns m)
    (rest : ∀ m r, c.concerns m → s.managed.lookup m = some r → c'.concerns m ∨ r.once = .done) :
    Inv (s.goto call c') := by
  have doomed : ∀ m, Doomed (s.closings.insert call c') m → Doomed s.closings m := by
    rintro m ⟨call', d, found', concerns⟩
    grind [Doomed]
  have left : ∀ m r, s.managed.lookup m = some r → Doomed s.closings m →
      Doomed (s.closings.insert call c') m ∨ r.once = .done := by
    rintro m r listed ⟨call', d, _, concerns⟩
    by_cases same : call' = call
    · exact (rest m r (by grind) listed).imp_left fun more => ⟨call, c', by grind, more⟩
    · exact .inl ⟨call', d, by grind, concerns⟩
  constructor <;> grind [State.goto]

theorem Inv.leave (inv : Inv s) (found : s.closings.lookup call = some c)
    (rest : ∀ m r, c.concerns m → s.managed.lookup m = some r → r.once = .done) :
    Inv { s with closings := s.closings.erase call } := by
  have doomed : ∀ m, Doomed (s.closings.erase call) m → Doomed s.closings m := by
    rintro m ⟨call', d, found', concerns⟩
    grind [Doomed]
  have left : ∀ m r, s.managed.lookup m = some r → Doomed s.closings m →
      Doomed (s.closings.erase call) m ∨ r.once = .done := by
    rintro m r _ ⟨call', d, _, concerns⟩
    by_cases same : call' = call
    · grind
    · exact .inl ⟨call', d, by grind, concerns⟩
  constructor <;> grind

theorem doomed_insert (fresh : call ∉ s.closings) :
    Doomed (s.closings.insert call c) m ↔ Doomed s.closings m ∨ c.concerns m := by
  have unused := lookup_eq_none.mpr fresh
  constructor
  · rintro ⟨call', d, found, concerns⟩
    grind [Doomed]
  · rintro (⟨call', d, found, concerns⟩ | concerns)
    · exact ⟨call', d, GoMap.lookup_insert_fresh unused found, concerns⟩
    · exact ⟨call, c, lookup_insert _, concerns⟩

section

variable (inv : Inv s)

include inv

/-- A new call is about to stop adapters that are no longer active. -/
theorem Inv.spawn (stepped : s.spawn call c = some t)
    (holds : ∀ r, s.managed.lookup c.reg = some r → c.At r)
    (known : ∀ m, c.concerns m → ∃ r, s.managed.lookup m = some r ∧ r.active = false) : Inv t := by
  unfold State.spawn at stepped
  split at stepped <;> cases stepped
  constructor <;> grind [doomed_insert]

section

variable (known : s.managed.lookup m = some r)

include known

theorem Inv.forget (done : r.once = .done) :
    Inv (s.forget r.id m) := by
  constructor <;> grind

/-- The call that finds the `Once` fresh begins `Stop`. -/
theorem Inv.begin (fresh : r.once = .fresh)
    (doomed : Doomed s.closings m) (waited : r.register.startDone = true)
    (drained : r.deliveries = 0) :
    Inv (s.update m fun r => { r with once := .running, stops := r.stops + 1 }) := by
  constructor <;> grind

theorem Inv.finish (begun : r.once ≠ .fresh)
    (doomed : Doomed s.closings m) : Inv (s.update m fun r => { r with once := .done }) := by
  constructor <;> grind

end

section

variable (found : s.closings.lookup call = some c) (known : s.managed.lookup c.reg = some r)

include found known

theorem Inv.returned (done : r.once = .done) : Inv (s.leave call c) := by
  unfold State.leave
  split
  · exact inv.goto found (by grind) (fun _ => id) (fun _ _ more _ => .inl more)
  · exact inv.goto found (by grind) (by grind)
      (by grind)
  all_goals exact inv.leave found (by grind)

theorem advance_inv (stepped : advance s call c r = some t) : Inv t := by
  have doomed : Doomed s.closings c.reg := ⟨call, c, found, .inl rfl⟩
  unfold advance at stepped
  split at stepped
  · split at stepped <;> cases stepped
    exact inv.goto found (by grind) (fun _ => id) (fun _ _ more _ => .inl more)
  · split at stepped <;> cases stepped
    exact inv.goto found (by grind) (fun _ => id) (fun _ _ more _ => .inl more)
  · split at stepped <;> cases stepped
    · have begun := inv.begin known ‹_› doomed (by grind) (by grind)
      exact begun.goto found (by grind) (fun _ => id)
        (fun _ _ more _ => .inl more)
    · exact inv.returned found known ‹_›
  · cases stepped
    have finished := inv.finish known (by grind) doomed
    exact finished.returned (r := { r with once := .done }) found (by grind) rfl
  · cases stepped
    have forgotten : Inv (s.forget r.id c.reg) := inv.forget known (by grind)
    have same : (s.forget r.id c.reg).closings = s.closings := by grind
    rw [← same]
    exact forgotten.leave (by rwa [same]) (by grind)

end

theorem unregister_inv (stepped : unregister s id call = some t) : Inv t := by
  unfold unregister at stepped
  split at stepped
  · cases stepped
    exact inv
  rename_i registered
  obtain ⟨r, _, -⟩ := inv.row registered
  refine Inv.spawn (s := s.update _ _) ?_ stepped (by grind) ?_
  · constructor <;> grind
  · grind

theorem finishStart_inv (found : s.managed.lookup m = some r) (started : r.register = .started ok)
    (quiet : s.adapters.lookup r.id = some m → r.register = .started true ∧ ¬Doomed s.closings m)
    (stepped : finishStart s m r ok call = some t) : Inv t := by
  unfold finishStart at stepped
  split at stepped
  · refine Inv.spawn (s := State.update _ _ _) ?_ stepped
      (by grind) ?_
    · constructor <;> grind
    · grind
  · cases stepped
    constructor <;> grind

theorem finishReplay_inv (found : s.managed.lookup m = some r)
    (replaying : r.register = .replaying) (stepped : finishReplay s m r ok call = some t) :
    Inv t := by
  have returned : Inv (s.update m fun r => { r with register := .returned ok }) := by
    constructor <;> grind
  unfold finishReplay at stepped
  split at stepped
  · exact unregister_inv returned stepped
  · cases stepped
    exact returned

theorem shutdown_inv (stepped : shutdown s call order = some t) : Inv t := by
  unfold shutdown at stepped
  split at stepped
  · cases stepped
    exact inv
  split at stepped
  swap
  · cases stepped
  rename_i perm
  have listed : ∀ id m, s.adapters.lookup id = some m → m ∈ order := by
    intro id m found
    exact perm.mem_iff.mpr (List.mem_map.mpr ⟨⟨id, m⟩, mem_lookup_iff.mp found, rfl⟩)
  have known : ∀ m ∈ order, s.managed.lookup m ≠ none := by
    intro m member
    obtain ⟨⟨id, _⟩, entry, rfl⟩ := List.mem_map.mp (perm.mem_iff.mp member)
    grind [inv.found id _ (mem_lookup_iff.mpr entry)]
  split at stepped
  · cases stepped
    constructor <;> grind [lookup_empty, map_eq_some_iff, map_eq_none_iff]
  dsimp only [State.spawn] at stepped
  split at stepped <;> cases stepped
  constructor <;> grind [lookup_empty, doomed_insert, map_eq_some_iff, map_eq_none_iff]

/-- A step that changes one registration, but not when it is stopped. -/
theorem Inv.change (listed : s.managed.lookup m = some r)
    (same : (f r).id = r.id ∧ (f r).once = r.once ∧ (f r).stops = r.stops ∧
      (f r).active = r.active)
    (begun : r.once ≠ .fresh → (f r).deliveries = 0 ∧ (f r).register.startDone = true)
    (done : r.active = true → (f r).register.startDone = true)
    (holds : ∀ call c, s.closings.lookup call = some c → c.reg = m → c.At (f r))
    (kept : (f r).register = .replaying ∨ (f r).register = .returned true →
      (f r).active = true ∨ (f r).ended = true) : Inv (s.update m f) := by
  obtain ⟨id, once, stops, active⟩ := same
  have rows : ∀ k r', (s.update m f).managed.lookup k = some r' →
      (k = m ∧ r' = f r) ∨ s.managed.lookup k = some r' := by
    intro k r' found
    grind
  constructor
  · intro k n registered
    have before := inv.found k n registered
    grind
  · exact inv.closed
  · intro k doomed
    grind
  · intro k r' found
    rcases rows k r' found with ⟨rfl, rfl⟩ | other
    · rw [stops, once]
      exact inv.stops k r listed
    · exact inv.stops k r' other
  · intro k r' found isActive
    rcases rows k r' found with ⟨rfl, rfl⟩ | other
    · rw [active] at isActive
      obtain ⟨registered, _, fresh, free⟩ := inv.active k r listed isActive
      rw [id, once]
      exact ⟨registered, done isActive, fresh, free⟩
    · exact inv.active k r' other isActive
  · intro k r' found stopped
    rcases rows k r' found with ⟨rfl, rfl⟩ | other
    · rw [once] at stopped
      exact begun stopped
    · exact inv.begun k r' other stopped
  · intro call c r' closing found
    rcases rows c.reg r' found with ⟨own, rfl⟩ | other
    · exact holds call c closing own
    · exact inv.at_ call c r' closing other
  · intro k r' found gone
    rcases rows k r' found with ⟨rfl, rfl⟩ | other
    · rw [id] at gone
      rw [once]
      exact inv.left k r listed gone
    · exact inv.left k r' other gone
  · intro k r' found returned
    rcases rows k r' found with ⟨rfl, rfl⟩ | other
    · exact kept returned
    · exact inv.kept k r' other returned

/-- Before `startDone` is closed nothing has been stopped or drained. -/
theorem Inv.starting (listed : s.managed.lookup m = some r)
    (before : r.register.startDone = false) (after : next.startDone = false) :
    Inv (s.update m fun r => { r with register := next }) := by
  refine inv.change listed ⟨rfl, rfl, rfl, rfl⟩ ?_ ?_ ?_ ?_
  · intro stopped
    rw [(inv.begun m r listed stopped).2] at before
    cases before
  · intro active
    rw [(inv.active m r listed active).2.1] at before
    cases before
  · intro call c closing own
    grind
  · grind

/-- Nothing is about to stop an active adapter, so that a delivery may begin. -/
theorem deliver_inv : Inv (deliver s id) := by
  unfold deliver
  split
  · exact inv
  rename_i m registered
  obtain ⟨r, listed, -⟩ := inv.row registered
  refine inv.change listed ?_ ?_ ?_ ?_ ?_
  · grind
  · have begun := inv.begun m r listed
    grind
  · grind
  · intro call c closing own
    have doomed : Doomed s.closings m := ⟨call, c, closing, .inl own.symm⟩
    grind
  · have kept := inv.kept m r listed
    grind

theorem register_inv (fresh : m ∉ s.managed) :
    Inv (register s m id version) := by
  have doomed : ∀ call c, s.closings.lookup call = some c → Doomed s.closings c.reg :=
    fun call c found => ⟨call, c, found, .inl rfl⟩
  have unknown := lookup_eq_none.mpr fresh
  unfold register
  repeat' split
  all_goals try exact inv
  rename_i free
  have unused := lookup_eq_none.mpr free
  constructor <;> grind

theorem step_inv (quiet : undisturbed s a) (stepped : step s a = some t) : Inv t := by
  cases a with
  | configure =>
    cases stepped
    split
    · exact inv
    · exact { inv with }
  | register m id version =>
    rw [step] at stepped
    split at stepped
    · cases stepped
    cases stepped
    exact register_inv inv ‹_›
  | factoryReturned m ok | startReturned m ok =>
    obtain ⟨r, found, stepped⟩ := bind_eq_some_iff.mp stepped
    split at stepped <;> cases stepped
    exact inv.starting found (by grind) (by grind)
  | finishStart m call =>
    obtain ⟨r, found, stepped⟩ := bind_eq_some_iff.mp stepped
    split at stepped
    · exact finishStart_inv inv found ‹_› (quiet r found) stepped
    · cases stepped
  | replayReturned m ok call =>
    obtain ⟨r, found, stepped⟩ := bind_eq_some_iff.mp stepped
    split at stepped
    · exact finishReplay_inv inv found ‹_› stepped
    · cases stepped
  | unregister id call => exact unregister_inv inv stepped
  | deliver id =>
    cases stepped
    exact deliver_inv inv
  | delivered m =>
    obtain ⟨r, found, stepped⟩ := bind_eq_some_iff.mp stepped
    split at stepped <;> cases stepped
    refine inv.change found ⟨rfl, rfl, rfl, rfl⟩ ?_
      (fun active => (inv.active m r found active).2.1)
      ?_ (inv.kept m r found)
    · have begun := inv.begun m r found
      grind
    · intro call c closing own
      grind
  | shutdown call order => exact shutdown_inv inv stepped
  | advance call =>
    obtain ⟨c, found, stepped⟩ := bind_eq_some_iff.mp stepped
    obtain ⟨r, known, stepped⟩ := bind_eq_some_iff.mp stepped
    exact advance_inv inv found known stepped

end

theorem init_inv : Inv system.init := by
  have empty : ∀ m, ¬Doomed (∅ : GoMap CallID Closing) m := by
    rintro m ⟨_, c, found, -⟩
    cases found
  constructor <;> grind [system, lookup_empty]

theorem run_inv (run : system.Run undisturbed system.init trace s) : Inv s := by
  refine run.invariant init_inv fun inv quiet stepped => ?_
  obtain ⟨t, next, reached⟩ := map_eq_some_iff.mp stepped
  cases reached
  exact step_inv inv quiet next

/-- In every run whose starts end well and undisturbed the host keeps its promises. -/
theorem adapter_lifecycle_kept {trace : List Empty}
    (run : system.Run undisturbed system.init trace s) (listed : s.managed.lookup m = some r) :
    Kept s m r := by
  have inv := run_inv run
  constructor <;> grind [State.Over]

instance (closings : GoMap CallID Closing) (m : RegID) : Decidable (Doomed closings m) :=
  decidable_of_iff (∃ e ∈ closings.entries, e.2.concerns m)
    ⟨fun ⟨e, listed, concerns⟩ => ⟨e.1, e.2, AList.mem_lookup_iff.mpr listed, concerns⟩,
      fun ⟨call, c, found, concerns⟩ => ⟨⟨call, c⟩, AList.mem_lookup_iff.mp found, concerns⟩⟩

instance (s : State) (a : Action) : Decidable (undisturbed s a) := by
  unfold undisturbed
  split <;> infer_instance

/-- An adapter is registered, gets a delivery and is unregistered after it. -/
def oneLife : List Action :=
  [.configure, .register 0 "a".toList 2, .factoryReturned 0 true, .startReturned 0 true,
    .finishStart 0 0, .replayReturned 0 true 0, .deliver "a".toList, .unregister "a".toList 1,
    .advance 1, .delivered 0, .advance 1, .advance 1, .advance 1, .advance 1]

theorem adapter_lifecycle_kept_over : ∃ trace s r, system.Run undisturbed system.init trace s ∧
    s.managed.lookup 0 = some r ∧ s.Over 0 r ∧ Kept s 0 r := by
  obtain ⟨trace, s, run, replayed⟩ := System.replays?_run
    (show system.replays? undisturbed oneLife (fun _ s => (s.managed.lookup 0).any fun r =>
      s.adapters.lookup r.id ≠ some 0 ∧ ¬Doomed s.closings 0) = true by decide +kernel)
  obtain ⟨r, listed, quiet⟩ := (any_eq_true _ _).mp replayed
  have ended : s.adapters.lookup r.id ≠ some 0 ∧ ¬Doomed s.closings 0 := of_decide_eq_true quiet
  exact ⟨trace, s, r, run, listed, ended, adapter_lifecycle_kept run listed⟩

/-- `Unregister` finds an adapter in its start, and a delivery runs beside its `Stop`; a failed
start frees the instance id before `Stop` is called. -/
theorem disturbed_start_breaks_lifecycle :
    (∃ trace s r, system.Run free system.init trace s ∧ s.managed.lookup 0 = some r ∧
      r.stops = 1 ∧ r.deliveries = 1) ∧
    ∃ trace s r, system.Run free system.init trace s ∧ s.managed.lookup 0 = some r ∧
      r.stops = 0 ∧ s.adapters.lookup r.id = some 1 := by
  constructor
  · obtain ⟨trace, s, run, both⟩ := System.replays?_run
      (show system.replays? free [.configure, .register 0 "a".toList 2, .factoryReturned 0 true,
          .unregister "a".toList 1, .startReturned 0 true, .finishStart 0 0, .advance 1, .advance 1,
          .advance 1, .deliver "a".toList]
        (fun _ s => (s.managed.lookup 0).any fun r => r.stops = 1 ∧ r.deliveries = 1) = true by
        decide +kernel)
    obtain ⟨r, listed, both⟩ := (any_eq_true _ _).mp both
    exact ⟨trace, s, r, run, listed, of_decide_eq_true both⟩
  · obtain ⟨trace, s, run, both⟩ := System.replays?_run
      (show system.replays? free [.configure, .register 0 "a".toList 2, .factoryReturned 0 true,
          .startReturned 0 false, .finishStart 0 0, .register 1 "a".toList 2]
        (fun _ s => (s.managed.lookup 0).any fun r =>
          r.stops = 0 ∧ s.adapters.lookup r.id = some 1) = true by decide +kernel)
    obtain ⟨r, listed, both⟩ := (any_eq_true _ _).mp both
    exact ⟨trace, s, r, run, listed, of_decide_eq_true both⟩

end NeonDoll.Gateway.Host
