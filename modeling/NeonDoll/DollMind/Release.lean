import NeonDoll.DollMind.ToolExecutor

/-!
# When a claim is released

A claimed request is released when the last Body that was tried is unavailable.  An earlier Body
may have acted then.
-/

namespace NeonDoll.DollMind

open Lib ActionPolicy Body BodyResolver

/-- The call reaches a Body or a recipient. -/
def ExternalCall.acts : ExternalCall → Bool
  | .body (.invoke _) | .sendText _ => true
  | .policy _ _ | .body (.evaluate _ _) => false

variable {correlation : ToolCorrelation} {call : ToolCall}

theorem releaseCode_deliveryError : releaseCode (deliveryError status error).code = false := by
  cases status with
  | pending => rfl
  | accepted | failed =>
    cases error with
    | none => rfl
    | some error => cases error <;> rfl

theorem releases_sendCommunication :
    releases (sendCommunication cfg world correlation call).1 = false := by
  rw [sendCommunication]
  split
  · rfl
  split
  · rfl
  dsimp only [deliveryResult]
  split
  · rfl
  · exact releaseCode_deliveryError

theorem releases_toolOutcome
    (released : releases (toolOutcome callID outcome rejected error) = true) :
    error = some .candidatesExhausted ∧
      ∃ result, outcome.result = some result ∧ result.status = .unavailable := by
  have failed : releaseCode (executionError outcome error).1 = true := by
    rw [toolOutcome] at released
    split at released
    · split at released
      · cases released
      · exact released
    · exact released
  cases error with
  | none => cases failed
  | some error =>
    cases error with
    | candidatesExhausted =>
      refine ⟨rfl, ?_⟩
      change releaseCode (exhaustedToolError outcome).1 = true at failed
      rw [exhaustedToolError] at failed
      split at failed
      · cases failed
      rename_i result found
      refine ⟨result, found, ?_⟩
      split at failed
      · cases failed
      · rename_i unavailable
        exact unavailable
      all_goals cases failed
    | invalidRequest | noExecutionCandidates | globalProhibition | terminalExecution =>
      cases failed
    | context error => cases failed

theorem executeApproved_result (cfg : ExecutorConfig) (world : World)
    (claimed : Permission.Request) :
    ∃ result calls, executeApproved cfg world claimed = (.result result, calls) := by
  rw [executeApproved, executeCall]
  split
  · exact ⟨_, _, rfl⟩
  split
  · exact ⟨_, _, rfl⟩
  split
  all_goals exact ⟨_, _, rfl⟩

end NeonDoll.DollMind
