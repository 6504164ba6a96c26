import NeonDoll.Daemon.Memory

/-!
# The entry of cognition

`Enter`, `EnterWake` and `EnterPulseWake` of `Core/DollMind/types.go` with the effects of a plan
(`Core/DollMind/plan.go`) on the Doll's state in memory and on the store, and the scan for due
intentions (`Core/DollMind/due.go`).  What the models answer and which calls fail is given; how
`time.Parse` reads a wake time is a parameter.
-/

namespace NeonDoll.DollMind

open Lib DollState Persistence

/-- The parts of a plan that change the Doll or lead to a message. -/
structure Plan where
  retainExperience : List Text
  requestFutureCognition : Bool
  future : Daemon.Future
  /-- There is an outbound action. -/
  outboundAction : Bool
  deriving DecidableEq

/-- The Doll in memory and in the store. -/
structure Mind where
  state : DollState
  store : DollStore

def Mind.save (m : Mind) (calls : SaveCalls) : Mind × Bool :=
  match saveDoll m.store m.state calls with
  | (store, error?) => ({ m with store := store }, error?.isNone)

def Mind.edit (m : Mind) (edit : Daemon.MindEdit) : Mind := { m with state := edit.apply m.state }

inductive EventType where
  | message
  | command
  | internalWake
  | pulseSpontaneous
  | other
  deriving DecidableEq

inductive MindPath where
  | sleep
  | orient
  deriving DecidableEq

def l0Reflex : EventType → MindPath
  | .message | .command | .internalWake | .pulseSpontaneous => .orient
  | .other => .sleep

inductive EnterError where
  | run
  | orient
  | plan
  | intentionRejected
  | persistIntention
  | dispatch
  deriving DecidableEq

/-- What a plan makes and how its save goes. -/
structure PlanCalls where
  now : Int
  intentionID : Text
  save : SaveCalls
  experienceID : Nat → Text
  experienceTime : Text

structure EnterCalls where
  run : Bool
  /-- Whether the event matters, unless the orientation fails. -/
  orient : Option Bool
  /-- The parsed plan, unless its execution fails. -/
  plan : Option Plan
  steps : PlanCalls
  dispatcher : Bool
  dispatch : Bool

structure Result where
  plan : Option Plan
  stateDirty : Bool
  deriving DecidableEq

section

variable (parseTime : Text → Option Int)

def validateFutureCognition (now : Int) (plan : Plan) : Bool :=
  if plan.future.subject = [] then false
  else
    match parseTime plan.future.wakeTime with
    | none => false
    | some wake => now < wake

/-- A new intention is saved at once; if the save fails it stays in memory. -/
def materialiseIntention (m : Mind) (plan : Plan) (calls : PlanCalls) :
    Mind × Except EnterError Bool :=
  if plan.requestFutureCognition = false then (m, .ok false)
  else if validateFutureCognition parseTime calls.now plan = false then
    (m, .error .intentionRejected)
  else
    match (m.edit (.intend calls.intentionID plan.future)).save calls.save with
    | (m, false) => (m, .error .persistIntention)
    | (m, true) => (m, .ok true)

/-- The retained texts with the ids that are made for them. -/
def retained (plan : Plan) (calls : PlanCalls) : List (Text × Text) :=
  plan.retainExperience.mapIdx fun i text => (calls.experienceID i, text)

/-- Nothing is saved here. -/
def materialiseExperience (m : Mind) (plan : Plan) (calls : PlanCalls) : Mind × Bool :=
  if plan.retainExperience = [] then (m, false)
  else (m.edit (.retain (retained plan calls) calls.experienceTime), true)

/-- What `Plan` does once the plan is parsed. -/
def applyPlan (kind : EventType) (m : Mind) (plan : Plan) (calls : PlanCalls) :
    Mind × Except EnterError Bool :=
  if kind = .internalWake then
    -- The originating intention is changed by `EnterWake`.
    if plan.requestFutureCognition ∧ validateFutureCognition parseTime calls.now plan = false then
      (m, .error .intentionRejected)
    else
      let (m, dirty) := materialiseExperience m plan calls
      (m, .ok dirty)
  else
    match materialiseIntention parseTime m plan calls with
    | (m, .error e) => (m, .error e)
    | (m, .ok dirty) =>
      let (m, more) := materialiseExperience m plan calls
      (m, .ok (dirty || more))

def enter (kind : EventType) (m : Mind) (calls : EnterCalls) : Mind × Except EnterError Result :=
  match l0Reflex kind with
  | .sleep => (m, .ok ⟨none, false⟩)
  | .orient =>
    if calls.run = false then (m, .error .run)
    else
      match calls.orient with
      | none => (m, .error .orient)
      | some false => (m, .ok ⟨none, false⟩)
      | some true =>
        match calls.plan with
        | none => (m, .error .plan)
        | some plan =>
          match applyPlan parseTime kind m plan calls.steps with
          | (m, .error e) => (m, .error e)
          | (m, .ok dirty) =>
            if plan.outboundAction ∧ calls.dispatcher ∧ calls.dispatch = false then
              (m, .error .dispatch)
            else (m, .ok ⟨some plan, dirty⟩)

def enterPulseWake (m : Mind) (run : Bool) (calls : EnterCalls) : Mind × Option EnterError :=
  if run = false then (m, some .run)
  else
    match enter parseTime .pulseSpontaneous m calls with
    | (m, .error e) => (m, some e)
    | (m, .ok _) => (m, none)

inductive WakeError where
  | notFound
  | notPending
  | run
  | cognition (e : EnterError)
  | permissionState
  | reschedule
  | persist
  deriving DecidableEq

structure WakeCalls where
  run : Bool
  enter : EnterCalls
  /-- Whether the intention awaits a permission, unless the query fails. -/
  waiting : Option Bool
  /-- The time when the plan is checked again. -/
  now : Int
  save : SaveCalls

def findIntention (id : Text) (items : List IntentionItem) : Option IntentionItem :=
  items.find? fun item => item.id = id

def intentions (state : DollState) : List IntentionItem := state.intentions.items.getD []

def requestsFuture (result : Result) : Option Plan :=
  match result.plan with
  | none => none
  | some plan => if plan.requestFutureCognition then some plan else none

def rescheduleIntention (m : Mind) (id : Text) (plan : Plan) (now : Int) : Option Mind :=
  if validateFutureCognition parseTime now plan = false then none
  else
    match findIntention id (intentions m.state) with
    | none => none
    | some _ => some (m.edit (.reschedule id plan.future))

/-- The change of the originating intention after cognition, before the save. -/
def settleIntention (m : Mind) (id : Text) (result : Result) (waiting : Bool) (now : Int) :
    Option (Mind × Result) :=
  if waiting then some (m, result)
  else
    match requestsFuture result with
    | some plan =>
      (rescheduleIntention parseTime m id plan now).map fun m =>
        (m, { result with stateDirty := true })
    | none => some (m.edit (.complete id), result)

def enterWake (m : Mind) (id : Text) (calls : WakeCalls) : Mind × Except WakeError Result :=
  match findIntention id (intentions m.state) with
  | none => (m, .error .notFound)
  | some item =>
    if item.state ≠ Daemon.statePending then (m, .error .notPending)
    else if calls.run = false then (m, .error .run)
    else
      match enter parseTime .internalWake m calls.enter with
      | (m, .error e) => (m, .error (.cognition e))
      | (m, .ok result) =>
        match calls.waiting with
        | none => (m, .error .permissionState)
        | some waiting =>
          match settleIntention parseTime m id result waiting calls.now with
          | none => (m, .error .reschedule)
          | some (m, result) =>
            match m.save calls.save with
            | (m, false) => (m, .error .persist)
            | (m, true) => (m, .ok result)

/-- The pending intentions whose wake time has come; `waiting` is the query for permissions. -/
def dueIntentions (waiting : Text → Option Bool) (now : Int) :
    List IntentionItem → Option (List IntentionItem)
  | [] => some []
  | item :: rest =>
    if item.state ≠ Daemon.statePending then dueIntentions waiting now rest
    else
      match waiting item.id with
      | none => none
      | some true => dueIntentions waiting now rest
      | some false =>
        match parseTime item.wakeTime with
        | none => none
        | some wake =>
          (dueIntentions waiting now rest).map fun due =>
            if wake ≤ now then item :: due else due

end

end NeonDoll.DollMind
