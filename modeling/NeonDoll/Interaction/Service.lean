import NeonDoll.Lib.Text

/-!
# The interaction service

The course of `Service.HandleInteraction` in `Core/Interaction/service.go`: which of its calls
fail decides whether the turn is stored in the session history and what the caller gets.  The
memories of the Doll that the service writes are the subject of `Daemon/Memory`.
-/

namespace NeonDoll.Interaction

open Lib Text

/-- What the service answers: the text of the model, or an error event with its message. -/
inductive Response where
  | message (text : Text)
  | error (text : Text)
  deriving DecidableEq

inductive LoadResult where
  | found
  | notFound
  | failed
  deriving DecidableEq

/-- The outcome of each call of the service; `execution` is the text of the model. -/
structure ServiceCalls where
  acquireSession : Bool
  load : LoadResult
  modelValid : Bool
  execution : Option Text
  append : Bool
  acquireDoll : Bool
  reload : Bool
  save : Bool
  deriving DecidableEq

def errorResponse (text : String) : Option Response := some (.error text.toList)

/-- The rest of `HandleInteraction` once the turn is stored: the memories of the Doll are
written. -/
def answerStored (content : Text) (calls : ServiceCalls) : Option Response :=
  if calls.acquireDoll = false then none
  else if calls.reload = false then none
  else if calls.save = false then errorResponse "failed to persist interaction"
  else some (.message content)

/-- `HandleInteraction`: whether the turn was stored, and the response unless there was an
error. -/
def handleInteraction (dollID text : Text) (calls : ServiceCalls) : Bool × Option Response :=
  if calls.acquireSession = false then (false, none)
  else if dollID = [] then (false, errorResponse "doll_id is required")
  else if trimSpace text = [] then (false, errorResponse "valid message payload required")
  else
    match calls.load with
    | .failed => (false, none)
    | .notFound => (false, errorResponse "doll not found")
    | .found =>
      if calls.modelValid = false then (false, errorResponse "interaction context unavailable")
      else
        match calls.execution with
        | none => (false, errorResponse "inference failed")
        | some content =>
          if calls.append = false then (false, errorResponse "failed to persist interaction")
          else (true, answerStored content calls)

theorem handleInteraction_stored
    (stored : (handleInteraction dollID text calls).1 = true) :
    ∃ content, calls.execution = some content ∧
      handleInteraction dollID text calls = (true, answerStored content calls) := by
  unfold handleInteraction at stored ⊢
  split at stored
  · cases stored
  split at stored
  · cases stored
  split at stored
  · cases stored
  split at stored
  · cases stored
  · cases stored
  split at stored
  · cases stored
  split at stored
  · cases stored
  split at stored
  · cases stored
  rename_i session named spoken _ loaded valid _ content answered appended
  refine ⟨content, answered, ?_⟩
  rw [if_neg session, if_neg named, if_neg spoken, if_neg valid, if_neg appended]

end NeonDoll.Interaction
