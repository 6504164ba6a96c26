import NeonDoll.Lib.Transition
import NeonDoll.Persistence.Doll

/-!
# Who writes the memories of a Doll

Interaction turns (`Core/Interaction/service.go`) load the Doll, add the two sides of the
interaction and save it, under a lock for each Doll.  The daemon's mind
(`productionMindAPI` of `cmd/neondolld/main.go`) holds the state that was loaded when the daemon
started; cognition changes that copy (`Core/DollMind/plan.go`, `Core/DollMind/types.go`) and
saves it, without the lock.  A step is one call of the store, or one change of the copy.
-/

namespace NeonDoll.Daemon

open Lib Transition DollState Persistence

/-! ## Turns -/

/-- The sequence for the next item: one more than the largest, from zero. -/
def nextSequence (items : List MemoryItem) : Int64 :=
  items.foldl (fun largest m => if largest < m.sequence then m.sequence else largest) (-1) + 1

/-- What a turn adds, besides the sequences. -/
structure TurnMemory where
  interactionID : Text
  humanID : Text
  dollID : Text
  input : Text
  reply : Text
  humanTime : Text
  dollTime : Text
  deriving DecidableEq

def turnItems (next : Int64) (m : TurnMemory) : List MemoryItem :=
  [ ⟨m.humanID, m.interactionID, "human_message".toList, m.input, next, m.humanTime⟩,
    ⟨m.dollID, m.interactionID, "doll_response".toList, m.reply, next + 1, m.dollTime⟩ ]

def appendTurn (state : DollState) (m : TurnMemory) : DollState :=
  let items := state.memories.items.getD []
  { state with memories := ⟨some (items ++ turnItems (nextSequence items) m)⟩ }

inductive TurnPhase where
  | waiting
  | locked
  | loaded (state : DollState)
  deriving DecidableEq

structure Turn where
  dollID : Text
  phase : TurnPhase
  deriving DecidableEq

/-! ## The mind -/

/-- The part of a plan that asks for later cognition. -/
structure Future where
  subject : Text
  reason : Text
  wakeTime : Text
  deriving DecidableEq

def statePending : Text := "pending".toList

def stateCompleted : Text := "completed".toList

/-- The observations that a plan retains are numbered from the length of the list. -/
def observations (now : Text) : Nat → List (Text × Text) → List MemoryItem
  | _, [] => []
  | next, (id, content) :: rest =>
    ⟨id, [], "observation".toList, content, Int64.ofNat next, now⟩ ::
      observations now (next + 1) rest

def changeIntention (id : Text) (change : IntentionItem → IntentionItem) :
    List IntentionItem → List IntentionItem
  | [] => []
  | item :: rest =>
    if item.id = id then change item :: rest else item :: changeIntention id change rest

/-- What cognition does to the copy. -/
inductive MindEdit where
  /-- `materialiseExperience`. -/
  | retain (experience : List (Text × Text)) (now : Text)
  /-- `materialiseIntention`, before it saves. -/
  | intend (id : Text) (future : Future)
  /-- `completeIntention`. -/
  | complete (id : Text)
  /-- `rescheduleIntention`. -/
  | reschedule (id : Text) (future : Future)
  deriving DecidableEq

def MindEdit.apply (state : DollState) : MindEdit → DollState
  | .retain experience now =>
    if experience = [] then state
    else
      let items := state.memories.items.getD []
      { state with
        memories := ⟨some (items ++ observations now items.length experience)⟩ }
  | .intend id future =>
    let items := state.intentions.items.getD []
    { state with
      intentions :=
        ⟨some (items ++ [⟨id, future.subject, future.reason, future.wakeTime, statePending⟩])⟩ }
  | .complete id =>
    { state with
      intentions :=
        ⟨state.intentions.items.map
          (changeIntention id fun item => { item with state := stateCompleted })⟩ }
  | .reschedule id future =>
    { state with
      intentions :=
        ⟨state.intentions.items.map
          (changeIntention id fun item =>
            { item with
              subject := future.subject
              description := future.reason
              wakeTime := future.wakeTime
              state := statePending })⟩ }

/-! ## The daemon -/

abbrev TurnID := Nat

structure State where
  store : DollStore
  /-- The copy that the mind holds, once the daemon has started. -/
  mind : Option DollState
  turns : GoMap TurnID Turn
  locks : GoMap Text TurnID
  /-- A turn has saved the mind's Doll since the mind's copy was loaded.  No step reads this; it
  records what has happened. -/
  turnSaved : Bool

inductive Event where
  /-- A save that has succeeded, with the memories it contained. -/
  | saved (dollID : Text) (items : List MemoryItem)
  /-- A load that has succeeded, with the memories it returned. -/
  | loaded (dollID : Text) (items : List MemoryItem)
  deriving DecidableEq

inductive Action where
  /-- A load that nothing is saved from, such as the first one of a turn. -/
  | peek (dollID : Text) (calls : LoadCalls)
  /-- A turn comes to its memories. -/
  | request (t : TurnID) (dollID : Text)
  | acquire (t : TurnID)
  /-- The context of a waiting turn ends. -/
  | cancel (t : TurnID)
  | load (t : TurnID) (calls : LoadCalls)
  | save (t : TurnID) (memory : TurnMemory) (calls : SaveCalls)
  | think (edit : MindEdit)
  | mindSave (calls : SaveCalls)
  /-- The daemon starts again with this Doll. -/
  | start (dollID : Text) (load : LoadCalls) (save : SaveCalls)

def items (state : DollState) : List MemoryItem := state.memories.items.getD []

def saveEvents (state : DollState) (error? : Option SaveError) : List Event :=
  match error? with
  | none => [.saved state.identity.dollID (items state)]
  | some _ => []

def loadEvents (dollID : Text) (result : Except LoadError DollState) : List Event :=
  match result with
  | .ok state => [.loaded dollID (items state)]
  | .error _ => []

def State.at_ (s : State) (t : TurnID) (turn : Turn) : State :=
  { s with turns := s.turns.insert t turn }

def State.release (s : State) (t : TurnID) (dollID : Text) : State :=
  { s with turns := s.turns.erase t, locks := s.locks.erase dollID }

def isMindOf (mind : Option DollState) (dollID : Text) : Bool :=
  match mind with
  | none => false
  | some held => held.identity.dollID = dollID

def loadStep (s : State) (t : TurnID) (dollID : Text) (calls : LoadCalls) : State × List Event :=
  let result := loadDoll s.store dollID calls
  match result with
  | .ok state => (s.at_ t ⟨dollID, .loaded state⟩, loadEvents dollID result)
  | .error _ => (s.release t dollID, [])

def saveStep (s : State) (t : TurnID) (dollID : Text) (state : DollState) (memory : TurnMemory)
    (calls : SaveCalls) : State × List Event :=
  let next := appendTurn state memory
  match saveDoll s.store next calls with
  | (store, none) =>
    ({ s.release t dollID with
        store := store
        turnSaved := s.turnSaved || isMindOf s.mind next.identity.dollID },
      saveEvents next none)
  | (store, some _) => ({ s.release t dollID with store := store }, [])

/-- The daemon has this copy; turns and locks are gone. -/
def State.started (store : DollStore) (mind : Option DollState) : State :=
  ⟨store, mind, ∅, ∅, false⟩

/-- The Doll that is made for a new id. -/
def createdDoll (dollID : Text) : DollState :=
  { newDollState with identity := ⟨dollID, dollID, []⟩ }

/-- `loadProductionDoll`. -/
def startStep (s : State) (dollID : Text) (load : LoadCalls) (save : SaveCalls) :
    State × List Event :=
  match loadDoll s.store dollID load with
  | .ok state => (State.started s.store (some state), [.loaded dollID (items state)])
  | .error .notFound =>
    match saveDoll s.store (createdDoll dollID) save with
    | (store, none) =>
      (State.started store (some (createdDoll dollID)), saveEvents (createdDoll dollID) none)
    | (store, some _) => (State.started store none, [])
  | .error _ => (State.started s.store none, [])

def step? (s : State) : Action → Option (State × List Event)
  | .peek dollID calls => some (s, loadEvents dollID (loadDoll s.store dollID calls))
  | .request t dollID =>
    match s.turns.lookup t with
    | some _ => none
    | none => some (s.at_ t ⟨dollID, .waiting⟩, [])
  | .acquire t =>
    match s.turns.lookup t with
    | some ⟨dollID, .waiting⟩ =>
      match s.locks.lookup dollID with
      | some _ => none
      | none =>
        some ({ s.at_ t ⟨dollID, .locked⟩ with locks := s.locks.insert dollID t }, [])
    | _ => none
  | .cancel t =>
    match s.turns.lookup t with
    | some ⟨_, .waiting⟩ => some ({ s with turns := s.turns.erase t }, [])
    | _ => none
  | .load t calls =>
    match s.turns.lookup t with
    | some ⟨dollID, .locked⟩ => some (loadStep s t dollID calls)
    | _ => none
  | .save t memory calls =>
    match s.turns.lookup t with
    | some ⟨dollID, .loaded state⟩ => some (saveStep s t dollID state memory calls)
    | _ => none
  | .think edit => s.mind.map fun held => ({ s with mind := some (edit.apply held) }, [])
  | .mindSave calls =>
    match s.mind with
    | none => none
    | some held =>
      match saveDoll s.store held calls with
      | (store, error?) => some ({ s with store := store }, saveEvents held error?)
  | .start dollID load save => some (startStep s dollID load save)

/-- A database as the store writes it. -/
structure Database where
  store : DollStore
  keyed : store.Keyed

def system (db : Database) : System State Action Event where
  init := State.started db.store none
  step? := step?

end NeonDoll.Daemon
