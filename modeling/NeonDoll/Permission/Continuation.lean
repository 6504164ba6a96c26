import NeonDoll.DollMind.ToolExecutor
import NeonDoll.Lib.Transition

/-!
# Tool calls and continuations of permission requests

The manager's table together with the goroutines that run `ExecuteCall` and
`HandlePermissionResolution` of `Core/DollMind/tool_executor.go`.  A handler claims a
continuation, runs the action when the request is approved, and then releases or completes its
claim; nobody else does.  A restart ends every handler; one that cuts an execution short is a
restart after an execution whose context has ended.
-/

namespace NeonDoll.Permission

open Lib Transition DollMind

abbrev HandlerID := Nat

/-- Where a handler stands. -/
inductive HandlerPc where
  | claiming (id : RequestID)
  | executing (claimed : Request)
  | releasing (id : RequestID)
  | completing (id : RequestID) (outcome : ContinuationOutcome)
  deriving DecidableEq

def HandlerPc.holds : HandlerPc → Option RequestID
  | .claiming _ => none
  | .executing r => some r.id
  | .releasing id | .completing id _ => some id

structure State where
  now : Time
  nextID : Nat
  requests : Requests
  handlers : GoMap HandlerID HandlerPc

inductive Event where
  | created (id : RequestID)
  /-- After an approval the row is approved. -/
  | approved (request : Request) (authority : Text)
  /-- A tool call that continues no request. -/
  | called (calls : List ExternalCall)
  /-- The tool call that continues a claimed request. -/
  | executed (handler : HandlerID) (claimed : Request) (calls : List ExternalCall)
  /-- The conditional update of a claim has changed the row of a request with this status. -/
  | claimed (handler : HandlerID) (id : RequestID) (status : Status)
  | released (handler : HandlerID) (id : RequestID)
  | completed (handler : HandlerID) (id : RequestID)
  | recovered
  | restarted
  deriving DecidableEq

inductive Action where
  | tick (elapsed : Time)
  /-- `ExecuteCall` or `ExecuteCorrelatedCall`. -/
  | call (correlation : ToolCorrelation) (call : ToolCall) (tool : Option Tool) (world : World)
  | create (input : CreateRequest) (ok : Bool)
  | get (id : RequestID) (calls : Calls)
  | listPending (calls : List Calls)
  | approve (id : RequestID) (authority : Text) (calls : Calls)
  | deny (id : RequestID) (authority : Text) (calls : Calls)
  | cancel (id : RequestID) (calls : Calls)
  | expire (id : RequestID) (calls : Calls)
  /-- A call of `HandlePermissionResolution` with a request value of the given status. -/
  | handle (id : RequestID) (status : Status)
  | claim (handler : HandlerID) (calls : Calls)
  | execute (handler : HandlerID) (world : World)
  | settle (handler : HandlerID) (calls : Calls)
  | recover (ok : Bool)
  | restart

def deniedOutcome : ContinuationOutcome :=
  { success := false
    executionID := []
    output := []
    errorCode := "owner_denied".toList
    error := "Owner denied the requested action".toList }

def State.init : State := ⟨0, 1, ∅, ∅⟩

def State.withRequests (s : State) (t : Requests) : State := { s with requests := t }

def State.without (s : State) (h : HandlerID) : State := { s with handlers := s.handlers.erase h }

def State.at_ (s : State) (h : HandlerID) (pc : HandlerPc) : State :=
  { s with handlers := s.handlers.insert h pc }

/-- The pending rows, as the query of `ListPending` returns them. -/
def State.pendingRows (s : State) : List Request :=
  (s.requests.entries.map Sigma.snd).filter fun r => r.status = .pending

/-- The event of a claim: the row was claimable before it. -/
def claimEvents (s : State) (h : HandlerID) (id : RequestID) (calls : Calls) : List Event :=
  match s.requests.lookup id with
  | none => []
  | some r => if calls.update ∧ Requests.claimable r then [.claimed h id r.status] else []

def claimStep (s : State) (h : HandlerID) (id : RequestID) (calls : Calls) : State × List Event :=
  match claimContinuation s.requests id s.now calls with
  | (t, .claimed r) =>
    ((s.withRequests t).at_ h
      (if r.status = .denied then .completing id deniedOutcome else .executing r),
      claimEvents s h id calls)
  | (t, .alreadyClaimed _) => ((s.withRequests t).without h, claimEvents s h id calls)
  | (t, .failed _) => ((s.withRequests t).without h, claimEvents s h id calls)

/-- Whether the update of a release or completion has changed the row. -/
def settled (s : State) (id : RequestID) (calls : Calls) (p : Request → Bool) : Bool :=
  match s.requests.lookup id with
  | none => false
  | some r => calls.update ∧ p r

def releaseStep (s : State) (h : HandlerID) (id : RequestID) (calls : Calls) :
    State × List Event :=
  let (t, _) := releaseContinuation s.requests id s.now calls
  ((s.withRequests t).without h,
    if settled s id calls (fun r => r.status = .approved ∧ r.continuationStatus = .running) then
      [.released h id]
    else [])

def completeStep (s : State) (h : HandlerID) (id : RequestID) (outcome : ContinuationOutcome)
    (calls : Calls) : State × List Event :=
  let (t, _) := completeContinuation s.requests id outcome s.now calls
  ((s.withRequests t).without h,
    if settled s id calls (fun r => r.continuationStatus = .running) then [.completed h id]
    else [])

/-- `Create` with a fresh identifier. -/
def createStep (cfg : ManagerConfig) (s : State) (input : CreateRequest) (ok : Bool) :
    State × List Event :=
  match create cfg s.requests input s.nextID s.now ok with
  | (t, .ok r) => ({ s with requests := t, nextID := s.nextID + 1 }, [.created r.id])
  | (t, .error _) => ({ s with requests := t, nextID := s.nextID + 1 }, [])

/-- A tool call; the policy may turn it into a permission request. -/
def callStep (cfg : ExecutorConfig) (s : State) (correlation : ToolCorrelation) (call : ToolCall)
    (tool : Option Tool) (world : World) : State × List Event :=
  match executeCall cfg world correlation call tool false, tool with
  | (.approval decision, calls), some tool =>
    match requestApproval cfg s.now correlation call tool decision with
    | .error _ => (s, [.called calls])
    | .ok input =>
      let (t, events) := createStep cfg.manager s input world.createError.isNone
      (t, .called calls :: events)
  | (_, calls), _ => (s, [.called calls])

/-- The execution of a claimed request, and what its handler does next. -/
def executeStep (cfg : ExecutorConfig) (s : State) (h : HandlerID) (r : Request) (world : World) :
    State × List Event :=
  match executeApproved cfg world r with
  | (.result result, calls) =>
    (s.at_ h (if releases result then .releasing r.id
      else .completing r.id (outcomeOf cfg result)), [.executed h r calls])
  | (.approval _, calls) => (s, [.executed h r calls])

/-- The event of an approval, if the row is approved after it. -/
def approvedEvents (t : Requests) (id : RequestID) (authority : Text) : List Event :=
  match t.lookup id with
  | none => []
  | some r => if r.status = .approved then [.approved r authority] else []

def step? (cfg : ExecutorConfig) (s : State) : Action → Option (State × List Event)
  | .tick elapsed => some ({ s with now := s.now + elapsed }, [])
  | .call correlation call tool world => some (callStep cfg s correlation call tool world)
  | .create input ok => some (createStep cfg.manager s input ok)
  | .get id calls => some (s.withRequests (get s.requests id s.now calls).1, [])
  | .listPending calls =>
    some (s.withRequests (listPending s.requests s.now (s.pendingRows.zip calls)).1, [])
  | .approve id authority calls =>
    let t := (approve s.requests id authority s.now calls).1
    some (s.withRequests t, approvedEvents t id authority)
  | .deny id authority calls =>
    some (s.withRequests (deny s.requests id authority s.now calls).1, [])
  | .cancel id calls => some (s.withRequests (cancel s.requests id s.now calls).1, [])
  | .expire id calls => some (s.withRequests (expire s.requests id s.now calls).1, [])
  | .handle id status =>
    if status = .approved ∨ status = .denied then
      some (({ s with nextID := s.nextID + 1 }).at_ s.nextID (.claiming id), [])
    else some (s, [])
  | .claim h calls =>
    match s.handlers.lookup h with
    | some (.claiming id) => some (claimStep s h id calls)
    | _ => none
  | .execute h world =>
    match s.handlers.lookup h with
    | some (.executing r) => some (executeStep cfg s h r world)
    | _ => none
  | .settle h calls =>
    match s.handlers.lookup h with
    | some (.releasing id) => some (releaseStep s h id calls)
    | some (.completing id outcome) => some (completeStep s h id outcome calls)
    | _ => none
  | .recover ok =>
    some (s.withRequests (recoverInterruptedContinuations s.requests s.now ok),
      if ok then [.recovered] else [])
  | .restart => some ({ s with handlers := ∅ }, [.restarted])

def system (cfg : ExecutorConfig) : System State Action Event := ⟨State.init, step? cfg⟩

end NeonDoll.Permission
