import NeonDoll.DollMind.Release
import NeonDoll.Lib.Trace

/-!
# The authority of an action

Every tool call is put to the action policy first.  What reaches a Body or a recipient is the
action that the policy was asked about, and a Body is reached only through the Guard, once for
each recorded attempt.
-/

namespace NeonDoll.DollMind

open Lib ActionPolicy Body BodyResolver List

/-- The call carries out the action that the policy was asked about. -/
def ExternalCall.carriesOut (asked : ActionPolicy.Request) : ExternalCall → Prop
  | .body (.invoke request) =>
    asked = ⟨request.doll, request.capability, request.operation, request.arguments⟩
  | .sendText message =>
    asked.capability = communicationCapability ∧ asked.operation = operationSendText ∧
      messageArguments asked.arguments = some (message.recipientPrincipalID, message.text)
  | .policy _ _ | .body (.evaluate _ _) => False

/-- The policy has been asked about the action, and has allowed it or has required an approval
that it has. -/
def PolicyPassed (approved : ActionPolicy.Request → Prop) (before : List ExternalCall)
    (made : ExternalCall) : Prop :=
  ∃ asked decision, .policy asked decision ∈ before ∧ made.carriesOut asked ∧
    (decision = .allow ∨ decision = .requireApproval ∧ approved asked)

/-- The call right before the invocation of a Body is the evaluator's permission of exactly
that invocation. -/
def GuardPassed (before : List ExternalCall) (made : ExternalCall) : Prop :=
  ∀ request, made = .body (.invoke request) →
    ∃ earlier, before = earlier ++ [.body (.evaluate request.authority .allow)]

/-- Whatever reaches a Body or a recipient has passed the policy, and the Guard. -/
def Authorised (approved : ActionPolicy.Request → Prop) (calls : List ExternalCall) : Prop :=
  Throughout (fun before made => made.acts = true →
    PolicyPassed approved before made ∧ GuardPassed before made) calls

/-- The Body and the execution identifier of every invocation. -/
def invocations (calls : List ExternalCall) : List (Body.BodyID × Text) :=
  calls.filterMap fun
    | .body (.invoke request) => some (request.body, request.executionID)
    | _ => none

def Reply.attempts : Reply → List (Body.BodyID × Text)
  | .result made => made.attempts.map fun attempt => (attempt.bodyID, attempt.executionID)
  | .approval _ => []

/-! ## Rounds of the coordinator -/

/-- One round of the loop of `Execute`: the recorded attempt, the request that the Guard got, and
the calls that the Guard made. -/
structure Round (asked : ActionPolicy.Request) where
  attempt : Attempt
  request : Body.ExecutionRequest
  calls : List Call
  recorded : attempt.bodyID = request.body ∧ attempt.executionID = request.executionID
  asks : asked = ⟨request.doll, request.capability, request.operation, request.arguments⟩
  guarded : calls = [] ∨ (∃ decision, calls = [.evaluate request.authority decision]) ∨
    calls = [.evaluate request.authority .allow, .invoke request]

variable {asked : ActionPolicy.Request}

def Round.of (answers : GuardCalls) (request : Body.ExecutionRequest) :
    Round ⟨request.doll, request.capability, request.operation, request.arguments⟩ where
  attempt := ⟨request.body, request.executionID, (executeContext answers request).1⟩
  request := request
  calls := (executeContext answers request).2
  recorded := ⟨rfl, rfl⟩
  asks := rfl
  guarded := by
    rcases executeContext_calls answers request with none | ⟨decision, _, one⟩ | ⟨_, both⟩
    · exact .inl none
    · exact .inr (.inl ⟨decision, one⟩)
    · exact .inr (.inr both)

theorem executeFrom_rounds (world : Nat → AttemptCalls)
    (request : BodyResolver.ExecutionRequest) (index : Nat) (outcome : ExecutionOutcome)
    (calls : List Call) (candidates : List ExecutionCandidate) : ∃ rounds : List (Round
        ⟨request.doll, requirement.capability, requirement.operation, request.arguments⟩),
      (executeFrom world requirement request index outcome calls candidates).outcome.attempts =
        outcome.attempts ++ rounds.map Round.attempt ∧
      (executeFrom world requirement request index outcome calls candidates).calls =
        calls ++ rounds.flatMap Round.calls := by
  induction candidates generalizing index outcome calls with
  | nil => exact ⟨[], (append_nil _).symm, (append_nil _).symm⟩
  | cons candidate rest ih =>
    let round := Round.of (world index).guard
      (attemptRequest requirement request index candidate)
    have single : [round].flatMap Round.calls = round.calls := append_nil _
    rw [executeFrom]
    split
    · exact ⟨[], (append_nil _).symm, (append_nil _).symm⟩
    dsimp only
    split
    · exact ⟨[round], rfl, congrArg (calls ++ ·) single.symm⟩
    split
    · exact ⟨[round], rfl, congrArg (calls ++ ·) single.symm⟩
    obtain ⟨rounds, attempts, made⟩ := ih _ _ _
    refine ⟨round :: rounds, ?_, ?_⟩
    · rw [attempts, append_assoc]
      rfl
    · rw [made, append_assoc]
      rfl

theorem executeFrom_keeps (member : made ∈ calls) :
    made ∈ (executeFrom world requirement request index outcome calls candidates).calls := by
  obtain ⟨_, _, all⟩ :=
    executeFrom_rounds world request index outcome calls candidates
  rw [all]
  exact mem_append_left _ member

theorem execute_rounds
    (answers : resolved.requirement = requirement) (world : Nat → AttemptCalls)
    (request : BodyResolver.ExecutionRequest) : ∃ rounds : List (Round
        ⟨request.doll, requirement.capability, requirement.operation, request.arguments⟩),
      (execute world resolved request).outcome.attempts = rounds.map Round.attempt ∧
      (execute world resolved request).calls = rounds.flatMap Round.calls := by
  subst answers
  rw [execute]
  split
  · exact ⟨[], rfl, rfl⟩
  · split
    · exact ⟨[], rfl, rfl⟩
    · exact executeFrom_rounds world request 0 _ _ resolved.eligible

theorem Round.guardPassed (round : Round asked) : Throughout (fun before made => made.acts = true →
      made.carriesOut asked ∧ GuardPassed before made) (round.calls.map ExternalCall.body) := by
  have quiet : ∀ {before : List ExternalCall} {request decision},
      (ExternalCall.body (.evaluate request decision)).acts = true →
        ExternalCall.carriesOut asked (.body (.evaluate request decision)) ∧
          GuardPassed before (.body (.evaluate request decision)) := nofun
  rcases round.guarded with none | ⟨_, one⟩ | both
  · rw [none]
    exact .nil
  · rw [one]
    exact .cons quiet .nil
  rw [both]
  refine .cons quiet (.cons ?_ .nil)
  intro _
  refine ⟨round.asks, ?_⟩
  intro request eq
  cases eq
  exact ⟨[], rfl⟩

/-- The Body and the execution identifier of the attempt of a round. -/
def Round.recordedAs (round : Round asked) : Body.BodyID × Text :=
  (round.attempt.bodyID, round.attempt.executionID)

theorem Round.invocations (round : Round asked) :
    (invocations (round.calls.map ExternalCall.body)).Sublist [round.recordedAs] := by
  rcases round.guarded with none | ⟨_, one⟩ | both
  · rw [none]
    exact nil_sublist _
  · rw [one]
    exact nil_sublist _
  · rw [both, Round.recordedAs, round.recorded.1, round.recorded.2]
    exact List.Sublist.refl _

theorem invocations_append :
    DollMind.invocations (l ++ l') = DollMind.invocations l ++ DollMind.invocations l' :=
  filterMap_append

theorem rounds_invocations (rounds : List (Round asked)) :
    (invocations ((rounds.flatMap Round.calls).map ExternalCall.body)).Sublist
      (rounds.map Round.recordedAs) := by
  induction rounds with
  | nil => exact List.Sublist.refl _
  | cons round rest ih =>
    rw [flatMap_cons, map_append, invocations_append]
    exact round.invocations.append ih

/-! ## Tool calls -/

/-- What the action policy is asked about a tool call. -/
def askedFor (cfg : ExecutorConfig) (call : ToolCall) (tool : Tool) : ActionPolicy.Request :=
  ⟨cfg.dollID, tool.capabilityID, tool.operationID, call.arguments⟩

theorem toolOutcome_attempts :
    (toolOutcome callID outcome rejected error).attempts = toolAttempts outcome := by
  rw [toolOutcome]
  split
  · split <;> rfl
  · rfl

theorem executeOnBodies_rounds (cfg : ExecutorConfig) (world : World) (call : ToolCall)
    (tool : Tool) : ∃ rounds : List (Round (askedFor cfg call tool)),
      Reply.attempts (.result (executeOnBodies cfg world call tool).1) =
        rounds.map Round.recordedAs ∧
      (executeOnBodies cfg world call tool).2 =
        (rounds.flatMap Round.calls).map ExternalCall.body := by
  rw [executeOnBodies]
  split
  · exact ⟨[], rfl, rfl⟩
  rename_i _ found
  obtain ⟨rounds, attempts, made⟩ := execute_rounds (resolve_requirement found) world.attempts
    ⟨toolExecutionID call, cfg.dollID, call.arguments⟩
  refine ⟨rounds, ?_, congrArg (List.map ExternalCall.body) made⟩
  dsimp only [Reply.attempts]
  rw [toolOutcome_attempts, toolAttempts, attempts, map_map, map_map]
  rfl

/-- What the policy lets pass is the action that it was asked about. -/
theorem perform_carriesOut : Throughout (fun before made => made.acts = true →
        made.carriesOut (askedFor cfg call tool) ∧ GuardPassed before made)
      (perform cfg world correlation call tool).2 := by
  rw [perform]
  split
  · rename_i sends
    rw [sendCommunication]
    split
    · exact .nil
    split
    · exact .nil
    · rename_i _ _ found
      exact .cons (fun _ => ⟨⟨sends.1, sends.2, found⟩, by rintro _ ⟨⟩⟩) .nil
  · split
    · exact .nil
    · obtain ⟨_, _, made⟩ := executeOnBodies_rounds cfg world call tool
      rw [made, map_flatMap]
      refine .flatMap ?_ fun round _ => round.guardPassed
      intro past before e holds acts
      refine ⟨(holds acts).1, ?_⟩
      intro request invoked
      obtain ⟨earlier, ends⟩ := (holds acts).2 request invoked
      exact ⟨past ++ earlier, by rw [ends, append_assoc]⟩

theorem perform_attempts : (invocations (perform cfg world correlation call tool).2).Sublist
      (Reply.attempts (.result (perform cfg world correlation call tool).1)) := by
  rw [perform]
  split
  · rw [sendCommunication]
    split
    · exact nil_sublist _
    · split <;> exact nil_sublist _
  · split
    · exact nil_sublist _
    · obtain ⟨rounds, attempts, made⟩ := executeOnBodies_rounds cfg world call tool
      rw [made, attempts]
      exact rounds_invocations rounds

/-- A tool call acts only with the consent of the policy, and of the Guard. -/
theorem executeCall_authorised (permitted : ∀ definition, tool = some definition → approved = true →
      may (askedFor cfg call definition)) :
    Authorised may (executeCall cfg world correlation call tool approved).2 := by
  cases tool with
  | none => exact .nil
  | some definition =>
    have passed : ∀ {decision}, (decision = Decision.allow ∨ decision = .requireApproval ∧
        approved = true) →
        Authorised may (.policy (askedFor cfg call definition) decision ::
          (perform cfg world correlation call definition).2) := by
      intro decision consent
      refine .cons nofun ((perform_carriesOut).mono ?_)
      intro before made holds acts
      obtain ⟨carries, guarded⟩ := holds acts
      refine ⟨⟨_, decision, mem_cons_self, carries, ?_⟩, ?_⟩
      · exact consent.imp_right fun ⟨required, yes⟩ => ⟨required, permitted definition rfl yes⟩
      · intro request invoked
        obtain ⟨earlier, ends⟩ := guarded request invoked
        exact ⟨_ :: earlier, by rw [ends]; rfl⟩
    have stopped : ∀ decision, Authorised may [.policy (askedFor cfg call definition) decision] :=
      fun _ => .cons nofun .nil
    rw [executeCall]
    split
    · exact .nil
    split
    · exact .nil
    split
    · exact passed (.inl ‹_›)
    · exact stopped _
    · split
      · exact passed (.inr ⟨‹_›, ‹_›⟩)
      · exact stopped _
    · exact stopped _

theorem executeCall_attempts (tool : Option Tool) (approved : Bool) :
    (invocations (executeCall cfg world correlation call tool approved).2).Sublist
      (executeCall cfg world correlation call tool approved).1.attempts := by
  cases tool with
  | none => exact nil_sublist _
  | some definition =>
    rw [executeCall]
    split
    · exact nil_sublist _
    split
    · exact nil_sublist _
    split
    · exact perform_attempts
    · exact nil_sublist _
    · split
      · exact perform_attempts
      · exact nil_sublist _
    · exact nil_sublist _

end NeonDoll.DollMind
