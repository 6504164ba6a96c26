import NeonDoll.DollMind.Authority

/-!
# Bodies tried in vain

A claim is released after the last Body only if all of them were tried in vain and the last one
was unavailable.  This is decided by the answers that the Guard gets, and so is the question
whether a Body was invoked before.
-/

namespace NeonDoll.DollMind

open Lib ActionPolicy Body BodyResolver List

/-- How an attempt ends with these answers: the status and the scope of a denial. -/
def ending (answers : GuardCalls) : ExecutionStatus × AuthorityScope :=
  if answers.registered = false then (.invalid, .unset)
  else
    match answers.resolution with
    | some failure =>
      match failure.error with
      | .unsupportedCapability | .unsupportedOperation => (.unsupported, .unset)
      | .unavailable => (.unavailable, .unset)
      | .other => (.failed, .unset)
    | none =>
      if answers.authority.isDeny then (.denied, answers.authority.scope)
      else
        match answers.invocation with
        | .error _ | .ok none => (.failed, .unset)
        | .ok (some result) => (result.status, result.denialScope)

/-- The next Body is tried after such an end. -/
def inVain : ExecutionStatus × AuthorityScope → Bool
  | (.unavailable, _) | (.failed, _) | (.denied, .unset) | (.denied, .body) => true
  | _ => false

/-- The attempt is made, ends in vain, and its context is live before and after it. -/
def AttemptCalls.leadsOn (answers : AttemptCalls) : Prop :=
  answers.before = none ∧ answers.after = none ∧ inVain (ending answers.guard) = true

instance (answers : AttemptCalls) : Decidable (AttemptCalls.leadsOn answers) :=
  inferInstanceAs (Decidable (_ ∧ _))

variable {request : Body.ExecutionRequest}

theorem executeContext_ending (complete : request.incomplete = false) :
    ((executeContext answers request).1.status, (executeContext answers request).1.denialScope) =
      ending answers := by
  rw [executeContext, ending, if_neg (by rw [complete]; decide)]
  cases answers.registered with
  | false => rfl
  | true =>
    cases answers.resolution with
    | some failure =>
      obtain ⟨kind, _⟩ := failure
      cases kind <;> rfl
    | none =>
      cases answers.authority.isDeny with
      | true => rfl
      | false =>
        cases answers.invocation with
        | error message => rfl
        | ok returned => cases returned <;> rfl

theorem afterAttempt_continue :
    afterAttempt result = .continue ↔ inVain (result.status, result.denialScope) = true := by
  rw [afterAttempt]
  cases result.status with
  | denied => cases result.denialScope <;> simp [inVain]
  | _ => simp [inVain]

theorem executeContext_invokes (complete : request.incomplete = false)
    (passed : answers.refuses = false) : .invoke request ∈ (executeContext answers request).2 := by
  simp only [GuardCalls.refuses, decide_eq_false_iff_not, not_or, Bool.not_eq_false,
    ne_eq, not_not, Bool.not_eq_true] at passed
  obtain ⟨registered, resolved, allowed⟩ := passed
  rw [executeContext, if_neg (by rw [complete]; decide), if_neg (by rw [registered]; decide),
    resolved]
  rw [if_neg (by rw [allowed]; decide)]
  exact mem_cons_of_mem _ (mem_singleton_self _)

/-! ## The loop of the coordinator -/

section Loop

variable {world : Nat → AttemptCalls} {request : BodyResolver.ExecutionRequest}

theorem executeFrom_exhausted_iff (world : Nat → AttemptCalls) (index : Nat)
    (outcome : ExecutionOutcome) (calls : List Call) (complete : ∀ i, ∀ candidate ∈ candidates,
      (attemptRequest requirement request i candidate).incomplete = false) :
    (executeFrom world requirement request index outcome calls candidates).error =
        some .candidatesExhausted ↔
      ∀ i < candidates.length, AttemptCalls.leadsOn (world (index + i)) := by
  induction candidates generalizing index outcome calls with
  | nil => exact ⟨fun _ i bound => absurd bound (Nat.not_lt_zero i), fun _ => rfl⟩
  | cons candidate rest ih =>
    have here : ∀ {P : Nat → Prop}, (∀ i < (candidate :: rest).length, P i) ↔
        P 0 ∧ ∀ i < rest.length, P (i + 1) := by
      intro P
      rw [length_cons, Nat.forall_lt_succ_left]
    rw [here, Nat.add_zero, executeFrom, AttemptCalls.leadsOn,
      ← executeContext_ending (complete index candidate mem_cons_self), ← afterAttempt_continue]
    cases (world index).before with
    | some error => simp
    | none => grind [afterAttempt_stop]

theorem executeFrom_exhausted_invokes (complete : ∀ i, ∀ candidate ∈ candidates,
      (attemptRequest requirement request i candidate).incomplete = false)
    (exhausted : (executeFrom world requirement request index outcome calls candidates).error =
      some .candidatesExhausted) (bound : i < candidates.length)
    (passed : (world (index + i)).guard.refuses = false) : ∃ invoked, .invoke invoked ∈
      (executeFrom world requirement request index outcome calls candidates).calls := by
  induction candidates generalizing index outcome calls i with
  | nil => exact absurd bound (Nat.not_lt_zero i)
  | cons candidate rest ih =>
    rw [executeFrom] at exhausted ⊢
    split at exhausted
    · cases exhausted
    dsimp only at exhausted ⊢
    split at exhausted
    · cases exhausted
    split at exhausted
    · rename_i _ stopped
      exact absurd exhausted (afterAttempt_stop stopped)
    cases i with
    | zero =>
      -- The first Body is invoked, and the later calls follow that one.
      grind [executeContext_invokes, executeFrom_keeps]
    | succ i =>
      refine ih (fun j other member => complete j other (mem_cons_of_mem _ member))
        exhausted (Nat.lt_of_succ_lt_succ bound) ?_
      rw [Nat.add_assoc, Nat.add_comm 1]
      exact passed

end Loop

/-! ## Released claims -/

variable {cfg : ExecutorConfig} {world : World} {tool : Tool}

/-- The continued tool call gets as far as the resolution of Bodies. -/
def reachesBodies (cfg : ExecutorConfig) (world : World) (tool : Tool) : Prop :=
  world.ctx = none ∧ ¬(cfg.composed = false ∨ cfg.dollID = []) ∧
    (world.policy.decision = .allow ∨ world.policy.decision = .requireApproval) ∧
    ¬(tool.capabilityID = communicationCapability ∧ tool.operationID = operationSendText) ∧
    ¬(tool.capabilityID = communicationCapability ∧ tool.operationID = operationListPeers)

/-- Every eligible Body is tried in vain, and the last one ends as unavailable. -/
def triedInVain (cfg : ExecutorConfig) (world : World) (tool : Tool) : Prop :=
  (∀ i < (resolveTool cfg world tool).1.eligible.length,
      AttemptCalls.leadsOn (world.attempts i)) ∧
    (ending (world.attempts ((resolveTool cfg world tool).1.eligible.length - 1)).guard).1 =
      .unavailable

/-- If the Bodies are tried in vain up to one that is unavailable, the Guard has refused each of
them. -/
def refusedAll (cfg : ExecutorConfig) (world : World) (tool : Tool) : Prop :=
  reachesBodies cfg world tool → (resolveTool cfg world tool).2 = none →
    triedInVain cfg world tool →
      ∀ i < (resolveTool cfg world tool).1.eligible.length,
        (world.attempts i).guard.refuses = true

instance : Decidable (reachesBodies cfg world tool) := inferInstanceAs (Decidable (_ ∧ _))

instance : Decidable (triedInVain cfg world tool) := inferInstanceAs (Decidable (_ ∧ _))

instance : Decidable (refusedAll cfg world tool) := inferInstanceAs (Decidable (_ → _))

theorem releases_toolOutcome_iff : releases (toolOutcome callID outcome rejected error) = true ↔
      error = some .candidatesExhausted ∧
        ∃ result, outcome.result = some result ∧ result.status = .unavailable := by
  refine ⟨releases_toolOutcome, ?_⟩
  rintro ⟨rfl, _, last, unavailable⟩
  have code : (executionError outcome (some .candidatesExhausted)).1 = "unavailable".toList := by
    change (exhaustedToolError outcome).1 = _
    rw [exhaustedToolError, last]
    dsimp only
    rw [unavailable]
  have failed : toolOutcome callID outcome rejected (some .candidatesExhausted) =
      toolFailure callID outcome rejected (some .candidatesExhausted) := by
    rw [toolOutcome, last]
    exact if_neg (by simp)
  rw [failed]
  change releaseCode (executionError outcome (some .candidatesExhausted)).1 = true
  rw [code]
  decide

theorem attempts_complete (call : ToolCall) (named : cfg.dollID ≠ [])
    (found : resolveTool cfg world tool = (resolved, none)) :
    ∀ i, ∀ candidate ∈ resolved.eligible, (attemptRequest resolved.requirement
      ⟨toolExecutionID call, cfg.dollID, call.arguments⟩ i candidate).incomplete = false := by
  intro i candidate member
  obtain ⟨capability, operation, _, known⟩ := resolve_eligible found
  rw [resolve_requirement found]
  have identified := known candidate member
  have id : attemptID (toolExecutionID call) i ≠ [] := by
    have tool : toolExecutionID call ≠ [] := cons_ne_nil _ _
    exact append_ne_nil_of_left_ne_nil (append_ne_nil_of_left_ne_nil tool _) _
  refine decide_eq_false ?_
  simp only [attemptRequest, not_or]
  exact ⟨id, named, identified, capability, operation⟩

theorem executeOnBodies_resolved (named : cfg.dollID ≠ [])
    (found : resolveTool cfg world tool = (resolved, none)) :
    let executed := executeFrom world.attempts resolved.requirement
      ⟨toolExecutionID call, cfg.dollID, call.arguments⟩ 0 ⟨none, []⟩ [] resolved.eligible
    executeOnBodies cfg world call tool =
      (toolOutcome call.id executed.outcome resolved.rejected executed.error,
        executed.calls.map .body) := by
  obtain ⟨capability, operation, some_left, _⟩ := resolve_eligible found
  have complete : ¬(toolExecutionID call = [] ∨ cfg.dollID = [] ∨
      resolved.requirement.capability = [] ∨ resolved.requirement.operation = []) := by
    rw [resolve_requirement found]
    simp only [not_or]
    exact ⟨nofun, named, capability, operation⟩
  rw [executeOnBodies, found]
  dsimp only
  rw [execute, if_neg complete, if_neg some_left]

theorem releases_executeOnBodies_iff (call : ToolCall) (named : cfg.dollID ≠ [])
    (found : resolveTool cfg world tool = (resolved, none)) :
    releases (executeOnBodies cfg world call tool).1 = true ↔ triedInVain cfg world tool := by
  have complete := attempts_complete call named found
  obtain ⟨_, _, some_left, _⟩ := resolve_eligible found
  have exhausted_iff := executeFrom_exhausted_iff world.attempts 0 ⟨none, []⟩ [] complete
  simp only [Nat.zero_add] at exhausted_iff
  rw [executeOnBodies_resolved named found, releases_toolOutcome_iff, triedInVain, found,
    ← exhausted_iff]
  refine and_congr_right fun exhausted => ?_
  obtain ⟨candidate, member, i, last⟩ := executeFrom_exhausted some_left exhausted
  rw [Nat.zero_add] at last
  rw [last, ← executeContext_ending (complete i candidate member)]
  exact ⟨fun ⟨_, same, unavailable⟩ => by cases same; exact unavailable,
    fun unavailable => ⟨_, rfl, unavailable⟩⟩

theorem invoke_mem_executeOnBodies (named : cfg.dollID ≠ [])
    (found : resolveTool cfg world tool = (resolved, none)) (vain : triedInVain cfg world tool) :
    (∀ request, .body (.invoke request) ∉ (executeOnBodies cfg world call tool).2) ↔
      ∀ i < resolved.eligible.length, (world.attempts i).guard.refuses = true := by
  have complete := attempts_complete call named found
  rw [triedInVain, found] at vain
  have exhausted := (executeFrom_exhausted_iff world.attempts 0 ⟨none, []⟩ [] complete).mpr
    (by simpa only [Nat.zero_add] using vain.1)
  rw [executeOnBodies_resolved named found]
  constructor
  · grind [executeFrom_exhausted_invokes]
  · intro refused request member
    obtain ⟨_, member, eq⟩ := mem_map.mp member
    cases eq
    rcases executeFrom_invokes member with earlier | ⟨i, _, _⟩
    · cases earlier
    · grind

theorem executeApproved_reached (reached : reachesBodies cfg world (continuedTool claimed)) :
    ∃ asked decision, executeApproved cfg world claimed =
      (.result (executeOnBodies cfg world (continuedCall cfg claimed) (continuedTool claimed)).1,
        .policy asked decision ::
          (executeOnBodies cfg world (continuedCall cfg claimed) (continuedTool claimed)).2) := by
  obtain ⟨live, composed, consent, sends, lists⟩ := reached
  have performed : perform cfg world (continuedCorrelation claimed) (continuedCall cfg claimed)
      (continuedTool claimed) =
        executeOnBodies cfg world (continuedCall cfg claimed) (continuedTool claimed) := by
    rw [perform, if_neg sends, if_neg lists]
  refine ⟨askedFor cfg (continuedCall cfg claimed) (continuedTool claimed),
    world.policy.decision, ?_⟩
  rw [executeApproved, executeCall, live]
  rw [if_neg composed, performed]
  rcases consent with allowed | required
  · rw [allowed]
    rfl
  · rw [required]
    rfl

theorem releases_listCommunicationPeers :
    releases (listCommunicationPeers cfg world call) = false := by
  rw [listCommunicationPeers]
  split
  · rfl
  · split <;> rfl

variable {result : ToolResult}

theorem releases_unreached (unreached : ¬reachesBodies cfg world (continuedTool claimed))
    (executed : (executeApproved cfg world claimed).1 = .result result) :
    releases result = false := by
  have aside : world.ctx = none → ¬(cfg.composed = false ∨ cfg.dollID = []) →
      (world.policy.decision = .allow ∨ world.policy.decision = .requireApproval) →
      releases (perform cfg world (continuedCorrelation claimed) (continuedCall cfg claimed)
        (continuedTool claimed)).1 = false := by
    intro live composed consent
    rw [perform]
    split
    · exact releases_sendCommunication
    split
    · exact releases_listCommunicationPeers
    · rename_i sends lists
      exact absurd ⟨live, composed, consent, sends, lists⟩ unreached
  rw [executeApproved, executeCall] at executed
  split at executed
  · cases executed
    rfl
  rename_i live
  split at executed
  · cases executed
    rfl
  rename_i composed
  split at executed
  · cases executed
    exact aside live composed (.inl ‹_›)
  · cases executed
    rfl
  · cases executed
    exact aside live composed (.inr ‹_›)
  · cases executed
    rfl

/-- The execution of an approved request that releases its claim has invoked no Body. -/
def quietRelease (cfg : ExecutorConfig) (world : World) (claimed : Permission.Request) : Prop :=
  ∀ result, (executeApproved cfg world claimed).1 = .result result → releases result = true →
    ∀ request, .body (.invoke request) ∉ (executeApproved cfg world claimed).2

/-- For every registry and all answers of the Guard. -/
theorem quietRelease_iff (cfg : ExecutorConfig) (world : World) (claimed : Permission.Request) :
    quietRelease cfg world claimed ↔ refusedAll cfg world (continuedTool claimed) := by
  by_cases reached : reachesBodies cfg world (continuedTool claimed)
  · have named : cfg.dollID ≠ [] := fun blank => reached.2.1 (.inr blank)
    obtain ⟨_, _, executed⟩ := executeApproved_reached reached
    have calls : ∀ request, .body (.invoke request) ∉ (executeApproved cfg world claimed).2 ↔
        .body (.invoke request) ∉
          (executeOnBodies cfg world (continuedCall cfg claimed) (continuedTool claimed)).2 := by
      grind
    simp only [quietRelease, calls]
    rw [executed, refusedAll]
    cases found : resolveTool cfg world (continuedTool claimed) with
    | mk resolved error =>
      cases error with
      | some error =>
        have none : (executeOnBodies cfg world (continuedCall cfg claimed)
            (continuedTool claimed)).2 = [] := by
          rw [executeOnBodies, found]
        rw [none]
        exact ⟨by simp, fun _ _ _ _ _ => not_mem_nil⟩
      | none =>
        constructor
        · intro quiet _ _ vain
          have released :=
            (releases_executeOnBodies_iff (continuedCall cfg claimed) named found).mpr vain
          exact (invoke_mem_executeOnBodies named found vain).mp (quiet _ rfl released)
        · intro refused result same released
          cases same
          have vain :=
            (releases_executeOnBodies_iff (continuedCall cfg claimed) named found).mp released
          exact (invoke_mem_executeOnBodies named found vain).mpr (refused reached rfl vain)
  · grind [refusedAll, quietRelease, releases_unreached]

theorem quietRelease.silent (quiet : quietRelease cfg world claimed)
    (executed : executeApproved cfg world claimed = (.result result, calls))
    (released : releases result = true) : ∀ made ∈ calls, made.acts = false := by
  by_cases reached : reachesBodies cfg world (continuedTool claimed)
  · have uninvoked := quiet result (by rw [executed]) released
    rw [executed] at uninvoked
    obtain ⟨_, _, same⟩ := executeApproved_reached reached
    rw [executed] at same
    obtain ⟨_, same⟩ := Prod.mk.inj same
    obtain ⟨_, _, _⟩ := executeOnBodies_rounds cfg world (continuedCall cfg claimed)
      (continuedTool claimed)
    intro call member
    cases call with
    | policy => rfl
    | body inner =>
      cases inner with
      | evaluate => rfl
      | invoke request => exact absurd member (uninvoked request)
    | sendText message => grind
  · rw [releases_unreached reached (by rw [executed])] at released
    cases released

end NeonDoll.DollMind
