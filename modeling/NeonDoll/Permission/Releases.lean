import NeonDoll.Permission.AtMostOnce

/-!
# Released claims

A claim is released because of the last Body that was tried.  Whether an earlier one was invoked
is a matter of all the answers that the Guard got.  If each execution that is released was refused
by the Guard at every Body, then no action is invoked on Bodies under two claims.
-/

namespace NeonDoll.Permission

open Lib Transition DollMind

/-- The event is an execution of the request in which a Body was invoked. -/
def Event.invokesFor (id : RequestID) : Event → Bool
  | .executed _ r calls => r.id = id ∧ (invocations calls ≠ [])
  | _ => false

theorem acted_of_invocations (invoked : invocations calls ≠ []) : acted calls = true := by
  obtain ⟨entry, member⟩ := List.exists_mem_of_ne_nil _ invoked
  obtain ⟨call, member, eq⟩ := List.mem_filterMap.mp member
  refine List.any_eq_true.mpr ⟨call, member, ?_⟩
  split at eq
  · rfl
  · cases eq

theorem invokesFor_actsOn {id : RequestID} {e : Event} (invokes : e.invokesFor id = true) :
    e.actsOn id = true := by
  cases e with
  | executed h r calls =>
    obtain ⟨same, invoked⟩ := of_decide_eq_true invokes
    exact decide_eq_true ⟨same, acted_of_invocations invoked⟩
  | created | approved | called | claimed | released | completed | recovered | restarted =>
    cases invokes

/-- For all eligible Bodies and all answers of the Guard, the execution of an approved request
releases its claim only if no Body was invoked, exactly if the Guard has refused every Body when
all are tried in vain and the last one is unavailable; and in every run of such executions an
approved action is invoked on Bodies under at most one claim. -/
theorem released_claims_uninvoked (cfg : ExecutorConfig) :
    (∀ world claimed, quietRelease cfg world claimed ↔
      refusedAll cfg world (continuedTool claimed)) ∧
    ∀ trace s, (system cfg).Run (releasesRefused cfg) State.init trace s →
      ∀ id, trace.countP (Event.invokesFor id) ≤ 1 := by
  refine ⟨quietRelease_iff cfg, ?_⟩
  intro trace s run id
  have counted : trace.countP (Event.invokesFor id) ≤ trace.countP (Event.actsOn id) :=
    List.countP_mono_left fun _ _ => invokesFor_actsOn
  exact counted.trans (run_acts_once id run)

/-- A first execution finds no Body and is released, and a second one invokes a Body. -/
theorem released_claims_uninvoked_retry :
    ∃ trace s, (system sampleExecutor).Run (releasesRefused sampleExecutor) State.init trace s ∧
      .released 2 1 ∈ trace ∧ 0 < trace.countP (Event.invokesFor 1) ∧
      trace.countP (Event.invokesFor 1) ≤ 1 := by
  obtain ⟨trace, s, run, facts⟩ := System.replays?_run
    (show (system sampleExecutor).replays? (releasesRefused sampleExecutor)
      (sampleApproval ++ sampleRound 2 { succeeds with bodies := [] } ++ sampleRound 3 succeeds)
      (fun trace _ => decide (.released 2 1 ∈ trace ∧
        0 < trace.countP (Event.invokesFor 1))) = true by decide)
  obtain ⟨released, invoked⟩ := of_decide_eq_true facts
  exact ⟨trace, s, run, released, invoked,
    (released_claims_uninvoked sampleExecutor).2 trace s run 1⟩

/-- The first of two Bodies is invoked and fails, the second is unavailable: the claim is released,
and under the next claim a Body is invoked again. -/
theorem released_after_invocation : ¬quietRelease sampleExecutor failThenUnavailable
        (newRequest ⟨['d'], ['o'], .policyRequired, ['t'], [], ['c'], ['p'], [], 1,
          ⟨[], [], [], [], []⟩⟩ 1 0) ∧
      ∃ trace s, (system sampleExecutor).Run free State.init trace s ∧
        .released 2 1 ∈ trace ∧ trace.countP (Event.invokesFor 1) = 2 := by
  constructor
  · rw [quietRelease_iff]
    decide
  obtain ⟨trace, s, run, facts⟩ := System.replays?_run
    (show (system sampleExecutor).replays? free
      (sampleApproval ++ sampleRound 2 failThenUnavailable ++ sampleRound 3 succeeds)
      (fun trace _ => decide (.released 2 1 ∈ trace ∧
        trace.countP (Event.invokesFor 1) = 2)) = true by decide)
  exact ⟨trace, s, run, of_decide_eq_true facts⟩

end NeonDoll.Permission
