import NeonDoll.ContextBuilder.Builder
import NeonDoll.DollState.Types
import NeonDoll.Session.Store

/-!
# The sources of a context

The resolver of interaction sessions (`Core/ContextBuilder/source.go`) and the one of a
cognition run (`Core/ContextBuilder/cognition_source.go`).
-/

namespace NeonDoll.ContextBuilder

open Lib Text Json Inference DollState

/-! ## Interaction sessions -/

structure HistoryMessage where
  id : Text
  sessionID : Session.SessionID
  turnID : Text
  sequence : Int
  role : Role
  content : Text
  deriving DecidableEq

structure TurnSelection where
  group : Text
  omitReason : Option OmitReason
  deriving DecidableEq

/-- A record from before turns had identifiers. -/
def isLegacy (role : Role) (message : HistoryMessage) : Bool :=
  message.turnID = [] ∧ message.role = role

/-- `interactionTurnGroups`.  `seenUser` holds the turns whose user has spoken, and `paired` is
the group that a legacy user shares with the assistant right after it. -/
def interactionTurnGroups (seenUser : List Text) (paired : Text) :
    List HistoryMessage → List TurnSelection
  | [] => []
  | message :: history =>
    if message.turnID ≠ [] then
      let orphan := (message.role = .assistant ∨ message.role = .tool) ∧ message.turnID ∉ seenUser
      ⟨"turn:".toList ++ message.turnID, if orphan then some .incompleteTurn else none⟩ ::
        interactionTurnGroups
          (if message.role = .user then message.turnID :: seenUser else seenUser) [] history
    else
      match message.role with
      | .user =>
        if history.head?.any (isLegacy .assistant) then
          let group := "turn:".toList ++ message.id
          ⟨group, none⟩ :: interactionTurnGroups seenUser group history
        else
          ⟨"message:".toList ++ message.id, none⟩ :: interactionTurnGroups seenUser [] history
      | .assistant =>
        ⟨paired, if paired = [] then some .incompleteTurn else none⟩ ::
          interactionTurnGroups seenUser [] history
      | _ => ⟨[], none⟩ :: interactionTurnGroups seenUser [] history

def historyRecord (source : ContextSource) (message : HistoryMessage) (turn : TurnSelection) :
    ContextRecord where
  id := message.id
  source := source
  sequence := message.sequence
  role := message.role
  content := message.content
  provenance := []
  required := message.role = .system
  windowGroup := turn.group
  omitReason := turn.omitReason

def sessionError : Session.SessionError → BuildError
  | .notFound => .sourceNotFound
  | _ => .store

/-- The session service and the history as a build reads them. -/
structure SessionView where
  sessions : Session.Store
  readable : Bool
  history : Session.SessionID → Except Session.SessionError (List HistoryMessage)

/-- `interactionSessionSourceResolver.Resolve`. -/
def resolveSession (view : SessionView) (source : ContextSource) :
    Except BuildError ResolvedSource :=
  if source.kind ≠ .interactionSession then .error .sourceUnsupported
  else if trimSpace source.id = [] then .error .invalidSource
  else
    match Session.lookup view.sessions source.id view.readable with
    | .error e => .error (sessionError e)
    | .ok _ =>
      match view.history source.id with
      | .error e => .error (sessionError e)
      | .ok history =>
        if history.all fun message => message.sessionID = source.id then
          .ok ⟨source,
            List.zipWith (historyRecord source) history (interactionTurnGroups [] [] history)⟩
        else .error .sourceIsolation

/-! ## Cognition runs -/

structure CognitionRun where
  id : Text
  objective : Text
  wakeEvidence : Text
  deriving DecidableEq

structure CognitionWorkingRecord where
  role : Role
  content : Text
  provenance : Text
  required : Bool
  deriving DecidableEq

def CognitionRun.source (run : CognitionRun) : ContextSource := ⟨.cognitionRun, run.id⟩

def validateCognitionWorking (records : List CognitionWorkingRecord) : Bool :=
  records.all fun record =>
    validRole record.role ∧ record.role ≠ .system ∧ trimSpace record.content ≠ []

def recentCognitionMemories : Nat := 5

def recentMemories (state : DollState) : Option (List MemoryItem) :=
  state.memories.items.map fun items => items.drop (items.length - recentCognitionMemories)

def mindValue (state : DollState) : Value :=
  .obj
    [ ("soul".toList, Soul.record.toValue state.soul),
      ("owner".toList, Owner.record.toValue state.owner),
      ("self".toList, Self.record.toValue state.self),
      ("drives".toList, Drives.record.toValue state.drives) ]

def memoriesValue : Option (List MemoryItem) → Value
  | none => .null
  | some items => .arr (items.map MemoryItem.record.toValue)

def stateRecord (run : CognitionRun) (sequence : Int) (id content provenance : Text)
    (required : Bool) : ContextRecord where
  id := run.id ++ '/' :: id
  source := run.source
  sequence := sequence
  role := .system
  content := content
  provenance := provenance
  required := required
  windowGroup := []
  omitReason := none

def stateRecords (run : CognitionRun) (state : DollState) : List ContextRecord :=
  [ stateRecord run 0 "identity".toList
      ("Doll identity:\n".toList ++ write (.obj
        [ ("doll_id".toList, .str state.identity.dollID),
          ("canonical_name".toList, .str state.identity.canonicalName) ]))
      "doll.identity".toList true,
    stateRecord run 1 "mind".toList
      ("Context data — authoritative Doll Mind state:\n".toList ++ write (mindValue state))
      "doll_mind.state".toList false,
    stateRecord run 2 "goals".toList
      ("Context data — authoritative Goals:\n".toList ++ Goals.record.marshal state.goals)
      "doll_mind.goals".toList false,
    stateRecord run 3 "intentions".toList
      ("Context data — authoritative Intentions:\n".toList ++
        Intentions.record.marshal state.intentions)
      "doll_mind.intentions".toList false,
    stateRecord run 4 "memory".toList
      ("Context data — recent Memory references:\n".toList ++
        write (memoriesValue (recentMemories state)))
      "doll_mind.memory".toList false,
    stateRecord run 5 "objective".toList
      ("Cognition Run objective:\n".toList ++ run.objective)
      "cognition_run.objective".toList true ] ++
    if run.wakeEvidence = [] then []
    else
      [ stateRecord run 6 "wake".toList
          ("Context data — Cognition Run wake evidence:\n".toList ++ run.wakeEvidence)
          "cognition_run.wake_evidence".toList false ]

def workingRecord (run : CognitionRun) (index : Nat) (working : CognitionWorkingRecord) :
    ContextRecord where
  id := run.id ++ "/working/".toList ++ Nat.toDigits 10 index
  source := run.source
  sequence := index
  role := working.role
  content := working.content
  provenance :=
    if working.provenance = [] then "cognition_run.working".toList else working.provenance
  required := working.required
  windowGroup := []
  omitReason := none

/-- `CognitionRunResolver.Resolve` for the working records of the run and the current state. -/
def resolveCognition (run : CognitionRun) (working : List CognitionWorkingRecord)
    (state : Option DollState) (source : ContextSource) : Except BuildError ResolvedSource :=
  if source.kind ≠ .cognitionRun then .error .sourceUnsupported
  else if source ≠ run.source then .error .sourceNotFound
  else
    match state with
    | none => .error .sourceNotFound
    | some state =>
      let records := stateRecords run state
      .ok ⟨source, records ++
        working.mapIdx fun index record => workingRecord run (records.length + index) record⟩

end NeonDoll.ContextBuilder
