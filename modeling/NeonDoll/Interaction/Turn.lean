import NeonDoll.Daemon.Memory
import NeonDoll.Interaction.Service
import NeonDoll.Lib.KeyedLock
import NeonDoll.Persistence.SessionMessages

/-!
# Interaction turns that run side by side

`Service.HandleInteraction` of `Core/Interaction/service.go` with the stores that it writes and
the two kinds of locks of `Core/Interaction/locks.go`: one for each session, which a turn holds
from the beginning to the end, and one for each Doll, which it holds while it writes the Doll's
memories.  A step is one call of a turn; the steps of different turns interleave.
-/

namespace NeonDoll.Interaction.Turns

open Lib Text Transition KeyedLock Session Inference ContextBuilder DollState Persistence

abbrev TurnID := Text

/-- The event of a turn: the Doll, and the text if the payload is a message. -/
structure Incoming where
  dollID : Text
  text : Option Text
  deriving DecidableEq

structure Request where
  sessionID : SessionID
  event : Option Incoming
  deriving DecidableEq

/-- `interactionMessageText`. -/
def Incoming.messageText (event : Incoming) : Option Text :=
  match event.text with
  | none => none
  | some text => if trimSpace text = [] then none else some text

inductive TurnError where
  | sessionUnavailable
  | acquireSession
  | nilEvent
  | loadDoll
  | acquireDoll
  | reloadDoll
  deriving DecidableEq

/-- What the caller gets: the response of the model, an error response with its text, or an
error. -/
inductive Reply where
  | message (content : Text)
  | refusal (text : Text)
  | error (e : TurnError)
  deriving DecidableEq

/-- What the turn is about to store. -/
structure Exchange where
  dollID : Text
  input : Text
  content : Text
  deriving DecidableEq

inductive TurnPhase where
  /-- It waits for its session. -/
  | waiting
  | admitted
  /-- The Doll is loaded and the message is valid. -/
  | loaded (dollID input : Text)
  | executed (x : Exchange)
  /-- The history is written. -/
  | appended (x : Exchange)
  /-- It waits for its Doll. -/
  | queued (x : Exchange)
  | locked (x : Exchange)
  | reloaded (x : Exchange) (state : DollState)
  | ended (reply : Reply)
  deriving DecidableEq

structure Turn where
  request : Request
  phase : TurnPhase
  deriving DecidableEq

/-- How `cognitiveexecution.Execute` ends. -/
inductive Execution where
  | contextFailed
  | inferenceFailed
  | done (content : Text)
  deriving DecidableEq

/-- The ids and times that are made for the memories. -/
structure MemoryStamp where
  interactionID : Text
  humanID : Text
  dollID : Text
  humanTime : Text
  dollTime : Text
  deriving DecidableEq

def Exchange.memory (x : Exchange) (stamp : MemoryStamp) : Daemon.TurnMemory :=
  ⟨stamp.interactionID, stamp.humanID, stamp.dollID, x.input, x.content, stamp.humanTime,
    stamp.dollTime⟩

def Exchange.messages (x : Exchange) (t : TurnID) (ids : Text × Text) :
    List (Text × NewHistoryMessage) :=
  [(ids.1, ⟨t, .user, x.input⟩), (ids.2, ⟨t, .assistant, x.content⟩)]

structure State where
  history : HistoryStore
  store : DollStore
  sessions : Locks SessionID TurnID
  dolls : Locks Text TurnID
  turns : GoMap TurnID Turn

inductive Event where
  /-- The turn has written these rows of the history. -/
  | appended (t : TurnID) (rows : List HistoryMessage)
  /-- The turn has written these memories of the Doll. -/
  | saved (t : TurnID) (dollID : Text) (items : List MemoryItem)
  deriving DecidableEq

inductive Action where
  | arrive (t : TurnID) (request : Request)
  | accept (t : TurnID)
  /-- The context ends while the turn waits for its session. -/
  | abandon (t : TurnID)
  | begin (t : TurnID) (calls : LoadCalls)
  | execute (t : TurnID) (result : Execution)
  | append (t : TurnID) (ids : Text × Text) (calls : AppendCalls)
  | queue (t : TurnID)
  | lock (t : TurnID)
  /-- The context ends while the turn waits for its Doll. -/
  | giveUp (t : TurnID)
  | reload (t : TurnID) (calls : LoadCalls)
  | save (t : TurnID) (stamp : MemoryStamp) (calls : SaveCalls)
  /-- The deferred releases. -/
  | unlockDoll (t : TurnID)
  | dropDoll (t : TurnID)
  | unlockSession (t : TurnID)
  | dropSession (t : TurnID)

def State.at_ (s : State) (t : TurnID) (request : Request) (phase : TurnPhase) : State :=
  { s with turns := s.turns.insert t ⟨request, phase⟩ }

def State.lockSession? (s : State) (t : TurnID) (op : Op SessionID) : Option State :=
  (s.sessions.step? t op).map fun l => { s with sessions := l }

def State.lockDoll? (s : State) (t : TurnID) (op : Op Text) : Option State :=
  (s.dolls.step? t op).map fun l => { s with dolls := l }

/-- The checks of the event, the load of the Doll and the check of the model. -/
def beginPhase (modelValid : Bool) (store : DollStore) (request : Request) (calls : LoadCalls) :
    TurnPhase :=
  match request.event with
  | none => .ended (.error .nilEvent)
  | some event =>
    if event.dollID = [] then .ended (.refusal "doll_id is required".toList)
    else
      match event.messageText with
      | none => .ended (.refusal "valid message payload required".toList)
      | some input =>
        match loadDoll store event.dollID calls with
        | .error .notFound => .ended (.refusal "doll not found".toList)
        | .error _ => .ended (.error .loadDoll)
        | .ok _ =>
          if modelValid then .loaded event.dollID input
          else .ended (.refusal "interaction context unavailable".toList)

def failedToPersist : TurnPhase := .ended (.refusal "failed to persist interaction".toList)

def appendStep (s : State) (t : TurnID) (request : Request) (x : Exchange) (ids : Text × Text)
    (calls : AppendCalls) : State × List Event :=
  let messages := x.messages t ids
  match appendSessionMessages s.history request.sessionID messages calls with
  | (_, some _) => (s.at_ t request failedToPersist, [])
  | (history, none) =>
    ({ s.at_ t request (.appended x) with history := history },
      [.appended t (numbered request.sessionID (s.history.nextSequence request.sessionID)
        messages)])

def saveStep (s : State) (t : TurnID) (request : Request) (x : Exchange) (state : DollState)
    (stamp : MemoryStamp) (calls : SaveCalls) : State × List Event :=
  let next := Daemon.appendTurn state (x.memory stamp)
  match saveDoll s.store next calls with
  | (_, some _) => (s.at_ t request failedToPersist, [])
  | (store, none) =>
    ({ s.at_ t request (.ended (.message x.content)) with store := store },
      [.saved t next.identity.dollID
        (Daemon.turnItems (Daemon.nextSequence (Daemon.items state)) (x.memory stamp))])

def quiet (s : State) : State × List Event := (s, [])

def step? (modelValid : Bool) (s : State) : Action → Option (State × List Event)
  | .arrive t request =>
    -- Turn ids are new and not empty.
    match s.turns.lookup t with
    | some _ => none
    | none =>
      if t = [] then none
      else if request.sessionID = [] then
        some (quiet (s.at_ t request (.ended (.error .sessionUnavailable))))
      else
        ((s.at_ t request .waiting).lockSession? t (.request request.sessionID)).map quiet
  | .accept t =>
    match s.turns.lookup t with
    | some ⟨request, .waiting⟩ =>
      ((s.at_ t request .admitted).lockSession? t .take).map quiet
    | _ => none
  | .abandon t =>
    match s.turns.lookup t with
    | some ⟨request, .waiting⟩ =>
      ((s.at_ t request (.ended (.error .acquireSession))).lockSession? t .cancel).map quiet
    | _ => none
  | .begin t calls =>
    match s.turns.lookup t with
    | some ⟨request, .admitted⟩ =>
      some (quiet (s.at_ t request (beginPhase modelValid s.store request calls)))
    | _ => none
  | .execute t result =>
    match s.turns.lookup t with
    | some ⟨request, .loaded dollID input⟩ =>
      match result with
      | .done content => some (quiet (s.at_ t request (.executed ⟨dollID, input, content⟩)))
      | _ => some (quiet (s.at_ t request (.ended (.refusal "inference failed".toList))))
    | _ => none
  | .append t ids calls =>
    match s.turns.lookup t with
    | some ⟨request, .executed x⟩ => some (appendStep s t request x ids calls)
    | _ => none
  | .queue t =>
    match s.turns.lookup t with
    | some ⟨request, .appended x⟩ =>
      ((s.at_ t request (.queued x)).lockDoll? t (.request x.dollID)).map quiet
    | _ => none
  | .lock t =>
    match s.turns.lookup t with
    | some ⟨request, .queued x⟩ =>
      ((s.at_ t request (.locked x)).lockDoll? t .take).map quiet
    | _ => none
  | .giveUp t =>
    match s.turns.lookup t with
    | some ⟨request, .queued _⟩ =>
      ((s.at_ t request (.ended (.error .acquireDoll))).lockDoll? t .cancel).map quiet
    | _ => none
  | .reload t calls =>
    match s.turns.lookup t with
    | some ⟨request, .locked x⟩ =>
      match loadDoll s.store x.dollID calls with
      | .ok state => some (quiet (s.at_ t request (.reloaded x state)))
      | .error _ => some (quiet (s.at_ t request (.ended (.error .reloadDoll))))
    | _ => none
  | .save t stamp calls =>
    match s.turns.lookup t with
    | some ⟨request, .reloaded x state⟩ => some (saveStep s t request x state stamp calls)
    | _ => none
  | .unlockDoll t =>
    match s.turns.lookup t with
    | some ⟨_, .ended _⟩ => (s.lockDoll? t .put).map quiet
    | _ => none
  | .dropDoll t =>
    match s.turns.lookup t with
    | some ⟨_, .ended _⟩ => (s.lockDoll? t .drop).map quiet
    | _ => none
  | .unlockSession t =>
    match s.turns.lookup t with
    | some ⟨_, .ended _⟩ =>
      -- The Doll is released before the session.
      if s.dolls.held t = none then (s.lockSession? t .put).map quiet else none
    | _ => none
  | .dropSession t =>
    match s.turns.lookup t with
    | some ⟨_, .ended _⟩ => (s.lockSession? t .drop).map quiet
    | _ => none

/-- The service over stores that it finds; the model is configured once. -/
def system (modelValid : Bool) (history : HistoryStore) (db : Daemon.Database) :
    System State Action Event where
  init := ⟨history, db.store, .empty, .empty, ∅⟩
  step? := step? modelValid

end NeonDoll.Interaction.Turns
