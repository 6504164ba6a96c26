import NeonDoll.Permission.Effect

/-!
# Claims of continuations

A decision is final.  A handler that holds a claim finds its request decided, and taken if it
is approved; an approved request has at most one holder.
-/

namespace NeonDoll.Permission

open Lib Transition DollMind GoMap

variable {cfg : ExecutorConfig} {s t : State} {a : Action} {es : List Event}

variable {r : Request} {id : RequestID}

/-! ## Rows that stay -/

/-- What one step leaves of a row. -/
theorem effect_row (effect : Effect cfg s a es t) (found : s.requests.lookup id = some r) :
    ∃ r', t.requests.lookup id = some r' ∧ r'.ownerID = r.ownerID ∧ r'.expiresAt = r.expiresAt ∧
      (r'.status = r.status ∨ r.status = .pending ∧ Timely s.now s.requests id r'.status) := by
  have replaced : ∀ {id' : RequestID} {r₀ r₁ : Request}, s.requests.lookup id' = some r₀ →
      t.requests = s.requests.insert id' r₁ → r₁.ownerID = r₀.ownerID →
      r₁.expiresAt = r₀.expiresAt → r₁.status = r₀.status →
      ∃ r', t.requests.lookup id = some r' ∧ r'.ownerID = r.ownerID ∧
        r'.expiresAt = r.expiresAt ∧
        (r'.status = r.status ∨ r.status = .pending ∧ Timely s.now s.requests id r'.status) := by
    intro id' r₀ r₁ old requests owner expiry status
    rw [requests, lookup_insert_ite]
    split
    · rename_i here
      rw [here, old] at found
      cases found
      exact ⟨r₁, rfl, owner, expiry, .inl status⟩
    · exact ⟨r, found, rfl, rfl, .inl rfl⟩
  cases effect with
  | quiet requests | restarted _ requests | executed _ _ _ _ _ _ _ _ requests =>
    rw [requests]
    exact ⟨r, found, rfl, rfl, .inl rfl⟩
  | created r' fresh _ requests =>
    rw [requests]
    exact ⟨r, lookup_insert_fresh fresh found, rfl, rfl, .inl rfl⟩
  | decided rows =>
    obtain ⟨r', found', same | ⟨pending, _, _, _, timely, eq⟩⟩ := rows.2 id r found
    · rw [same] at found'
      exact ⟨r, found', rfl, rfl, .inl rfl⟩
    · rw [eq] at found'
      exact ⟨_, found', rfl, rfl, .inr ⟨pending, timely⟩⟩
  | claimed h id' r' old _ requests | released h id' r' _ old _ _ requests
  | completed h id' outcome r' _ old _ requests => exact replaced old requests rfl rfl rfl
  | recovered requests =>
    rw [requests, Requests.recover, lookup_mapValues, found]
    refine ⟨_, rfl, ?_⟩
    rw [Requests.recovered]
    split
    · exact ⟨rfl, rfl, .inl rfl⟩
    · split <;> exact ⟨rfl, rfl, .inl rfl⟩

theorem status_final (effect : Effect cfg s a es t)
    (found : s.requests.lookup id = some r) (final : r.status ≠ .pending) :
    ∃ r', t.requests.lookup id = some r' ∧ r'.status = r.status := by
  obtain ⟨r', found', _, _, same | ⟨pending, _⟩⟩ := effect_row effect found
  · exact ⟨r', found', same⟩
  · exact absurd pending final

/-- A request keeps its Owner and its expiry, and a decided or overdue one is not decided anew. -/
structure RowKept (now : Time) (r r' : Request) : Prop where
  owner : r'.ownerID = r.ownerID
  expiry : r'.expiresAt = r.expiresAt
  final : r.status ≠ .pending → r'.status = r.status
  overdue : r.expiresAt ≤ now → r'.status = r.status ∨ r'.status = .expired

/-- The clock goes forward, and the requests are kept. -/
structure RequestsKept (s t : State) : Prop where
  clock : s.now ≤ t.now
  rows : ∀ id r, s.requests.lookup id = some r →
    ∃ r', t.requests.lookup id = some r' ∧ RowKept s.now r r'

theorem RowKept.trans {r' r'' : Request} (forward : now ≤ now') (first : RowKept now r r')
    (second : RowKept now' r' r'') : RowKept now r r'' where
  owner := second.owner.trans first.owner
  expiry := second.expiry.trans first.expiry
  final := by
    intro decided
    have same := first.final decided
    rw [← same] at decided
    exact (second.final decided).trans same
  overdue := by
    intro late
    have late' : r'.expiresAt ≤ now' := by
      rw [first.expiry]
      exact late.trans forward
    rcases second.overdue late' with same | expired
    · rw [same]
      exact first.overdue late
    · exact .inr expired

theorem RequestsKept.refl (s : State) : RequestsKept s s :=
  ⟨le_refl _, fun _ r found => ⟨r, found, rfl, rfl, fun _ => rfl, fun _ => .inl rfl⟩⟩

theorem RequestsKept.trans (first : RequestsKept s t) (second : RequestsKept t u) :
    RequestsKept s u := by
  refine ⟨first.clock.trans second.clock, fun id r found => ?_⟩
  obtain ⟨r', found', kept⟩ := first.rows id r found
  obtain ⟨r'', found'', kept'⟩ := second.rows id r' found'
  exact ⟨r'', found'', kept.trans first.clock kept'⟩

theorem createStep_now : (createStep manager s input ok).1.now = s.now := by
  unfold createStep
  split <;> rfl

theorem callStep_now :
    (callStep cfg s correlation call tool world).1.now = s.now := by
  unfold callStep
  split
  · split
    · rfl
    · exact createStep_now
  · rfl

theorem claimStep_now : (claimStep s h id calls).1.now = s.now := by
  unfold claimStep
  split <;> rfl

theorem executeStep_now : (executeStep cfg s h r world).1.now = s.now := by
  unfold executeStep
  split <;> rfl

theorem step_clock (stepped : step? cfg s a = some (t, es)) : s.now ≤ t.now := by
  have same : ∀ {u : State × List Event}, some u = some (t, es) →
      u.1.now = s.now → s.now ≤ t.now := by
    intro u ended now
    cases ended
    exact now.ge
  cases a with
  | tick elapsed =>
    cases stepped
    exact Nat.le_add_right _ _
  | call | create | get | listPending | approve | deny | cancel | expire | recover | restart =>
    first | exact same stepped rfl | exact same stepped callStep_now |
      exact same stepped createStep_now
  | handle id status =>
    simp only [step?] at stepped
    split at stepped <;> exact same stepped rfl
  | claim h calls | execute h world | settle h calls =>
    simp only [step?] at stepped
    split at stepped <;> first | exact same stepped rfl | exact same stepped claimStep_now |
      exact same stepped executeStep_now | cases stepped

theorem step_kept (keyed : Keyed s.requests) (stepped : step? cfg s a = some (t, es)) :
    RequestsKept s t := by
  refine ⟨step_clock stepped, fun id r found => ?_⟩
  obtain ⟨r', found', owner, expiry, change⟩ := effect_row (step_effect stepped) found
  refine ⟨r', found', owner, expiry, fun decided => ?_, fun late => ?_⟩
  · rcases change with same | ⟨pending, _⟩
    · exact same
    · exact absurd pending decided
  · rcases change with same | ⟨_, timely⟩
    · exact .inl same
    · exact .inr (timely.2 keyed r found late)

/-- Only a creation fills an identifier that is not in use. -/
theorem effect_absent (effect : Effect cfg s a es t)
    (absent : s.requests.lookup id = none) (never : .created id ∉ es) :
    t.requests.lookup id = none := by
  have replaced : ∀ {id' : RequestID} {r r' : Request}, s.requests.lookup id' = some r →
      t.requests = s.requests.insert id' r' → t.requests.lookup id = none := by
    intro id' r r' old requests
    have other : id ≠ id' := by
      rintro rfl
      rw [old] at absent
      cases absent
    rw [requests, lookup_insert_ite, if_neg other]
    exact absent
  cases effect with
  | quiet requests | restarted _ requests | executed _ _ _ _ _ _ _ _ requests =>
    rw [requests]
    exact absent
  | created r _ _ requests _ _ announced =>
    have other : id ≠ r.id := by
      rintro rfl
      exact never announced
    rw [requests, lookup_insert_ite, if_neg other]
    exact absent
  | decided rows => exact rows.1 id absent
  | claimed h id' r old _ requests | released h id' r _ old _ _ requests
  | completed h id' outcome r _ old _ requests => exact replaced old requests
  | recovered requests =>
    rw [requests, Requests.recover, lookup_mapValues, absent]
    rfl

/-! ## Holders -/

/-- The continuation has been claimed and not been released since. -/
def Taken (r : Request) : Prop :=
  r.continuationStatus = .running ∨ r.continuationStatus = .succeeded ∨
    r.continuationStatus = .failed

theorem taken_outcomeStatus :
    outcomeStatus outcome = .succeeded ∨ outcomeStatus outcome = .failed := by
  grind [outcomeStatus]

/-- A taken continuation of an approved request stays taken until its holder releases it. -/
theorem taken_kept (effect : Effect cfg s a es t)
    (found : s.requests.lookup id = some r) (approved : r.status = .approved) (taken : Taken r) :
    (∃ r', t.requests.lookup id = some r' ∧ r'.status = .approved ∧ Taken r') ∨
      ∃ h, es = [.released h id] ∧ s.handlers.lookup h = some (.releasing id) := by
  have replaced : ∀ {id' : RequestID} {r₀ r₁ : Request}, s.requests.lookup id' = some r₀ →
      t.requests = s.requests.insert id' r₁ → (id = id' → r₁.status = r₀.status ∧ Taken r₁) →
      ∃ r', t.requests.lookup id = some r' ∧ r'.status = .approved ∧ Taken r' := by grind
  cases effect with
  | quiet requests | restarted _ requests | executed _ _ _ _ _ _ _ _ requests =>
    rw [requests]
    exact .inl ⟨r, found, approved, taken⟩
  | created r' fresh _ requests =>
    rw [requests]
    exact .inl ⟨r, lookup_insert_fresh fresh found, approved, taken⟩
  | decided rows =>
    refine .inl ?_
    obtain ⟨r', found', same | ⟨pending, _⟩⟩ := rows.2 id r found
    · rw [same] at found'
      exact ⟨r, found', approved, taken⟩
    · rw [approved] at pending
      cases pending
  | claimed h id' r' old claimable requests =>
    refine .inl (replaced old requests ?_)
    rintro rfl
    exact ⟨rfl, .inl rfl⟩
  | released h id' r' holder old _ _ requests _ events => grind
  | completed h id' outcome r' _ old _ requests =>
    refine .inl (replaced old requests ?_)
    intro _
    exact ⟨rfl, .inr (taken_outcomeStatus)⟩
  | recovered requests =>
    refine .inl ?_
    rw [requests, Requests.recover, lookup_mapValues, found]
    refine ⟨_, rfl, ?_⟩
    rw [Requests.recovered]
    split
    · exact ⟨approved, .inr (.inr rfl)⟩
    · grind

/-- What the handlers hold. -/
structure Claimed (s : State) : Prop where
  keyed : Keyed s.requests
  held : ∀ h pc id, s.handlers.lookup h = some pc → pc.holds = some id →
    ∃ r, s.requests.lookup id = some r ∧ r.status ≠ .pending ∧ (r.status = .approved → Taken r)
  single : ∀ h h' pc pc' id r, s.handlers.lookup h = some pc → s.handlers.lookup h' = some pc' →
    pc.holds = some id → pc'.holds = some id → s.requests.lookup id = some r →
    r.status = .approved → h = h'
  executing : ∀ h r, s.handlers.lookup h = some (.executing r) →
    ∃ r', s.requests.lookup r.id = some r' ∧ r'.status = .approved

theorem claimed_init : Claimed State.init := by
  constructor
  case keyed => exact fun id r found => nomatch found
  case held => exact fun h pc id found => nomatch found
  case single => exact fun h h' pc pc' id r found => nomatch found
  case executing => exact fun h r found => nomatch found

theorem keyed_kept (keyed : Keyed s.requests) (effect : Effect cfg s a es t) :
    Keyed t.requests := by
  intro id r after
  have replaced : ∀ {id' : RequestID} {r₀ r₁ : Request}, s.requests.lookup id' = some r₀ →
      t.requests = s.requests.insert id' r₁ → r₁.id = r₀.id → r.id = id := by grind
  cases effect with
  | quiet requests | restarted _ requests | executed _ _ _ _ _ _ _ _ requests =>
    rw [requests] at after
    exact keyed id r after
  | created r' _ _ requests => grind
  | decided rows =>
    cases before : s.requests.lookup id with
    | none =>
      rw [rows.1 id before] at after
      cases after
    | some r₀ =>
      obtain ⟨r', found', change⟩ := rows.2 id r₀ before
      rw [found'] at after
      cases after
      rcases change with same | ⟨_, _, now, _, _, eq⟩
      · rw [same]
        exact keyed id r₀ before
      · rw [eq]
        exact keyed id r₀ before
  | claimed h id' r' old _ requests | released h id' r' _ old _ _ requests
  | completed h id' outcome r' _ old _ requests => exact replaced old requests rfl
  | recovered requests =>
    rw [requests, Requests.recover, lookup_mapValues, Option.map_eq_some_iff] at after
    obtain ⟨r₀, before, rfl⟩ := after
    have same : (Requests.recovered ambiguousOutcome s.now r₀).id = r₀.id := by
      rw [Requests.recovered]
      split
      · rfl
      · split <;> rfl
    rw [same]
    exact keyed id r₀ before

variable {h : HandlerID} {pc : HandlerPc}

/-- A handler that held its claim before the step, and still does, finds its request as the
invariant says. -/
theorem held_kept (inv : Claimed s) (effect : Effect cfg s a es t)
    (before : s.handlers.lookup h = some pc) (holds : pc.holds = some id)
    (kept : ∀ h', .released h' id ∈ es → h' ≠ h) :
    ∃ r, t.requests.lookup id = some r ∧ r.status ≠ .pending ∧
      (r.status = .approved → Taken r) := by
  obtain ⟨r, found, final, taken⟩ := inv.held h pc id before holds
  obtain ⟨r', found', same⟩ := status_final effect found final
  refine ⟨r', found', by rw [same]; exact final, ?_⟩
  intro approved
  rw [same] at approved
  rcases taken_kept effect found approved (taken approved) with ⟨_, _, _, _⟩ | released
  · grind
  · obtain ⟨h', events, holder⟩ := released
    have eq := inv.single h h' pc _ id r before holder holds rfl found approved
    exact absurd eq.symm (kept h' (by rw [events]; exact List.mem_singleton_self _))

/-- The step is the claim by which the handler has come to hold the request. -/
def NewClaim (s : State) (es : List Event) (t : State) (h : HandlerID) (pc : HandlerPc)
    (id : RequestID) : Prop :=
  ∃ r, s.requests.lookup id = some r ∧ Requests.claimable r = true ∧
    es = [.claimed h id r.status] ∧ t.requests.lookup id = some (claimedRow s.now r) ∧
    ∀ r', pc = .executing r' → r.status = .approved

/-- The handler held the request before the step, and the step is not its release. -/
@[grind] def OldClaim (s : State) (es : List Event) (h : HandlerID) (pc : HandlerPc)
    (id : RequestID) :
    Prop :=
  ∃ pc', s.handlers.lookup h = some pc' ∧ pc'.holds = some id ∧
    (pc' = pc ∨ (∃ r, pc' = .executing r) ∧ ∀ r, pc ≠ .executing r) ∧
    ∀ h' id', .released h' id' ∈ es → h' ≠ h

theorem not_released_of_silent (silent : ∀ e ∈ es, e.silent = true) (h : HandlerID)
    (id : RequestID) : .released h id ∉ es := by
  intro member
  cases silent _ member

theorem holder_origin (inv : Claimed s) (effect : Effect cfg s a es t)
    (after : t.handlers.lookup h = some pc)
    (holds : pc.holds = some id) : OldClaim s es h pc id ∨ NewClaim s es t h pc id := by
  have same : t.handlers = s.handlers → (∀ h' id', .released h' id' ∉ es) →
      OldClaim s es h pc id := by grind
  cases effect with
  | quiet requests handlers events =>
    rcases handlers h pc after with ⟨id', rfl⟩ | before
    · cases holds
    · exact .inl ⟨pc, before, holds, .inl rfl,
        fun h' id' member => absurd member (not_released_of_silent events h' id')⟩
  | restarted _ _ handlers _ =>
    rw [handlers] at after
    cases after
  | created r _ _ _ handlers events | decided _ handlers events =>
    exact .inl (same handlers (not_released_of_silent events))
  | recovered _ handlers events => grind
  | executed h₀ r world result calls _ holder _ _ handlers events =>
    refine .inl ?_
    rw [handlers, lookup_insert_ite] at after
    rw [events]
    split at after
    · rename_i mine
      subst mine
      cases after
      refine ⟨.executing r, holder, ?_, .inr ⟨⟨r, rfl⟩, ?_⟩, ?_⟩
      · split at holds <;> exact holds
      · intro r' eq
        split at eq <;> cases eq
      · intro h' id' member
        cases List.mem_singleton.mp member
    · grind
  | released h₀ id₀ r _ _ _ _ _ handlers events => grind
  | completed h₀ id₀ outcome r _ _ _ _ handlers events => grind
  | claimed h₀ id₀ r found claimable requests handlers holder events =>
    by_cases mine : h = h₀
    · subst mine
      have row : t.requests.lookup id₀ = some (claimedRow s.now r) := by
        rw [requests, AList.lookup_insert]
      rcases holder pc after with ⟨_, rfl⟩ | ⟨rfl, approved⟩
      · cases holds
        exact .inr ⟨r, found, claimable, events, row, fun _ eq => nomatch eq⟩
      have key : (claimedRow s.now r).id = id₀ := inv.keyed id₀ r found
      have here : id = id₀ := by
        rw [← key]
        exact (Option.some.inj holds).symm
      subst here
      exact .inr ⟨r, found, claimable, events, row, fun _ _ => approved⟩
    · grind

theorem not_taken_of_claimable (claimable : Requests.claimable r = true)
    (approved : r.status = .approved) : ¬ Taken r := by
  intro taken
  rcases of_decide_eq_true claimable with ⟨_, ready⟩ | ⟨denied, _⟩
  · rw [Taken, ready] at taken
    simp at taken
  · rw [approved] at denied
    cases denied

theorem claimed_kept (inv : Claimed s) (effect : Effect cfg s a es t) : Claimed t := by
  constructor
  case keyed => exact keyed_kept inv.keyed effect
  case held =>
    intro h pc id after holds
    rcases holder_origin inv effect after holds with
      ⟨pc', before, held, _, other⟩ | ⟨r, _, claimable, _, row, _⟩
    · exact held_kept inv effect before held (fun h' eq => other h' id eq)
    refine ⟨_, row, ?_, fun _ => .inl rfl⟩
    rcases of_decide_eq_true claimable with ⟨status, _⟩ | ⟨status, _⟩
    all_goals
      change r.status ≠ .pending
      rw [status]
      decide
  case single =>
    -- A new claim finds its request untaken, so it has no earlier holder.
    have fresh : ∀ {h h' pc pc' id r}, NewClaim s es t h pc id →
        s.handlers.lookup h' = some pc' → pc'.holds = some id →
        t.requests.lookup id = some r → r.status = .approved → False := by
      rintro h h' pc pc' id r ⟨r₀, found, claimable, _, row, _⟩ before held after approved
      rw [row] at after
      cases after
      obtain ⟨_, found₁, _, taken⟩ := inv.held h' pc' id before held
      rw [found] at found₁
      cases found₁
      exact not_taken_of_claimable claimable approved (taken approved)
    intro h h' pc pc' id r after after' holds holds' found approved
    rcases holder_origin inv effect after holds with ⟨_, before, held, _, _⟩ | new
    · rcases holder_origin inv effect after' holds' with ⟨pc₁, before', held', _, _⟩ | new'
      · grind [Claimed, status_final]
      · exact (fresh new' before held found approved).elim
    · rcases holder_origin inv effect after' holds' with ⟨_, before', held', _, _⟩ | _
      · exact (fresh new before' held' found approved).elim
      · grind [NewClaim]
  case executing =>
    intro h r after
    rcases holder_origin inv effect after rfl with
      ⟨_, _, _, rfl | ⟨_, done⟩, _⟩ | ⟨_, _, _, _, row, approved⟩
    · grind [Claimed, status_final]
    · exact absurd rfl (done r)
    · exact ⟨_, row, approved r rfl⟩

end NeonDoll.Permission
