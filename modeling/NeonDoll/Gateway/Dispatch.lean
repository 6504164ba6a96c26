import NeonDoll.Lib.GoMap
import NeonDoll.Lib.Transition

/-!
# Who waits for whom in the gateways

The replay mutex of `Core/Runtime/gateway.go` and the run loops of the adapters of
`Core/Extension/gateway.go`.  Those that replay are the retry loop, the callers of `Register`,
and the adapter loops while they handle an inbound event.  `Deliver` is executed at once if the
context says that it is called from the adapter's own loop.  From outside it offers a command to
the loop, which takes it only at its `select`, and waits for the result.
-/

namespace NeonDoll.Gateway

open Lib Transition GoMap Option

/-- An adapter object; one that is registered again after a stop is another. -/
abbrev AdapterID := Nat

/-- A goroutine that delivers or replays. -/
inductive Party where
  | retryLoop
  /-- A caller of `Register`, or of anything else that delivers or replays. -/
  | caller (n : Nat)
  /-- The loop of an adapter, in `handleInbound`. -/
  | adapter (id : AdapterID)
  deriving DecidableEq

/-- Where a party stands; one that delivers returns to code with or without the mutex. -/
inductive PartyPc where
  | outside
  /-- At `replayMu.Lock`. -/
  | locking
  /-- In `replay`. -/
  | replaying
  /-- At the first `select` of `Deliver`. -/
  | offering (adapter : AdapterID) (replaying : Bool)
  /-- At the second `select` of `Deliver`. -/
  | awaiting (adapter : AdapterID) (replaying : Bool)
  deriving DecidableEq

/-- Where the loop of an adapter stands. -/
inductive LoopPc where
  /-- At the `select` of `run`. -/
  | selecting
  /-- In `executeDelivery` for the command of a party. -/
  | executing (command : Party)
  /-- In `handleInbound`. -/
  | handling
  | stopped
  deriving DecidableEq

/-- The host delivers to an adapter only while it is active. -/
inductive Phase where
  | starting
  | active
  | unregistered
  deriving DecidableEq

structure Loop where
  pc : LoopPc
  phase : Phase
  deriving DecidableEq

structure State where
  replayMu : Option Party
  parties : GoMap Party PartyPc
  loops : GoMap AdapterID Loop
  /-- The parties whose context is cancelled; that of an adapter is the one of its `run`. -/
  cancelled : List Party

inductive Action where
  /-- `Register` has started the loop of an adapter. -/
  | start (id : AdapterID)
  | activate (id : AdapterID)
  | unregister (id : AdapterID)
  /-- A tick of the retry loop, or a call. -/
  | enter (p : Party)
  /-- The loop has a staged inbound event. -/
  | handleInbound (id : AdapterID)
  | replay (p : Party)
  | lock (p : Party)
  | deliver (p : Party) (id : AdapterID)
  | takeCommand (id : AdapterID) (p : Party)
  | sendResult (id : AdapterID)
  /-- A waiting party sees that its context is cancelled or that the loop is done. -/
  | giveUp (p : Party)
  | unlock (p : Party)
  /-- The party returns; the loop of an adapter is at its `select` again. -/
  | leave (p : Party)
  | cancel (p : Party)
  /-- The loop sees at its `select` that its context is cancelled. -/
  | stop (id : AdapterID)
  deriving DecidableEq

def State.setParty (s : State) (p : Party) (pc : PartyPc) : State :=
  { s with parties := s.parties.insert p pc }

def State.setReplayMu (s : State) (holder : Option Party) : State :=
  { s with replayMu := holder }

def State.addLoop (s : State) (id : AdapterID) : State :=
  { s with loops := s.loops.insert id ⟨.selecting, .starting⟩ }

def State.cancel (s : State) (p : Party) : State := { s with cancelled := p :: s.cancelled }

def State.setLoop (s : State) (id : AdapterID) (pc : LoopPc) : State :=
  { s with loops := GoMap.modify s.loops id fun loop => { loop with pc := pc } }

def State.setPhase (s : State) (id : AdapterID) (phase : Phase) : State :=
  { s with loops := GoMap.modify s.loops id fun loop => { loop with phase := phase } }

def State.loopPc (s : State) (id : AdapterID) : Option LoopPc := (s.loops.lookup id).map Loop.pc

def State.loopPhase (s : State) (id : AdapterID) : Option Phase :=
  (s.loops.lookup id).map Loop.phase

def returnPc (replaying : Bool) : PartyPc := if replaying then .replaying else .outside

/-- `DeliverSessionEvent` and the beginning of `Deliver`. -/
def deliver (s : State) (p : Party) (id : AdapterID) (replaying : Bool) : State :=
  if s.loopPhase id = some .active ∧ p ≠ .adapter id then s.setParty p (.offering id replaying)
  else s

/-- The loop sends into a buffered channel, so it does not matter if the party has gone. -/
def sendResult (s : State) (id : AdapterID) (p : Party) : State :=
  match s.parties.lookup p with
  | some (.awaiting adapter replaying) =>
    if adapter = id then (s.setLoop id .selecting).setParty p (returnPc replaying)
    else s.setLoop id .selecting
  | _ => s.setLoop id .selecting

/-- What the party does last; only the loop of an adapter goes on. -/
def leave (s : State) (p : Party) : State :=
  let left := { s with parties := s.parties.erase p }
  match p with
  | .adapter id => left.setLoop id .selecting
  | .retryLoop | .caller _ => left

def Party.isAdapter : Party → Bool
  | .adapter _ => true
  | .retryLoop | .caller _ => false

def step (s : State) : Action → Option State
  | .start id =>
    if s.loopPc id = none then some (s.addLoop id) else none
  | .activate id =>
    if s.loopPhase id = some .starting then some (s.setPhase id .active) else none
  | .unregister id =>
    if s.loopPhase id = some .active then some (s.setPhase id .unregistered) else none
  | .enter p =>
    if p.isAdapter = false ∧ s.parties.lookup p = none then some (s.setParty p .outside)
    else none
  | .handleInbound id =>
    if s.loopPc id = some .selecting then
      some ((s.setLoop id .handling).setParty (.adapter id) .outside)
    else none
  | .replay p =>
    if s.parties.lookup p = some .outside then some (s.setParty p .locking) else none
  | .lock p =>
    if s.parties.lookup p = some .locking ∧ s.replayMu = none then
      some ((s.setParty p .replaying).setReplayMu (some p))
    else none
  | .deliver p id =>
    match s.parties.lookup p with
    | some .outside => some (deliver s p id false)
    | some .replaying => some (deliver s p id true)
    | _ => none
  | .takeCommand id p =>
    match s.parties.lookup p with
    | some (.offering adapter replaying) =>
      if adapter = id ∧ s.loopPc id = some .selecting then
        some ((s.setLoop id (.executing p)).setParty p (.awaiting id replaying))
      else none
    | _ => none
  | .sendResult id =>
    match s.loopPc id with
    | some (.executing p) => some (sendResult s id p)
    | _ => none
  | .giveUp p =>
    match s.parties.lookup p with
    | some (.offering id replaying) =>
      if p ∈ s.cancelled ∨ s.loopPc id = some .stopped then
        some (s.setParty p (returnPc replaying))
      else none
    | some (.awaiting _ replaying) =>
      if p ∈ s.cancelled then some (s.setParty p (returnPc replaying)) else none
    | _ => none
  | .unlock p =>
    if s.parties.lookup p = some .replaying then
      some ((s.setParty p .outside).setReplayMu none)
    else none
  | .leave p => if s.parties.lookup p = some .outside then some (leave s p) else none
  | .cancel p => some (s.cancel p)
  | .stop id =>
    if s.loopPc id = some .selecting ∧ .adapter id ∈ s.cancelled then
      some (s.setLoop id .stopped)
    else none

/-- The system has no events; its properties are about the states. -/
def system : System State Action Empty where
  init := ⟨none, ∅, ∅, []⟩
  step? s a := (step s a).map fun t => (t, [])

/-! ## Frame equations -/

section Frame

variable (s : State) (p q : Party) (pc : PartyPc) (holder : Option Party) (id id' : AdapterID)
  (loopPc : LoopPc) (phase : Phase)

@[simp, grind =] theorem lookup_setParty :
    (s.setParty p pc).parties.lookup q = if q = p then some pc else s.parties.lookup q :=
  lookup_insert_ite s.parties p q pc

@[simp, grind =] theorem loopPc_setParty : (s.setParty p pc).loopPc id = s.loopPc id := rfl

@[simp, grind =] theorem replayMu_setParty : (s.setParty p pc).replayMu = s.replayMu := rfl

@[simp, grind =] theorem cancelled_setParty : (s.setParty p pc).cancelled = s.cancelled := rfl

@[simp, grind =] theorem parties_setReplayMu : (s.setReplayMu holder).parties = s.parties := rfl

@[simp, grind =] theorem loopPc_setReplayMu : (s.setReplayMu holder).loopPc id = s.loopPc id := rfl

@[simp, grind =] theorem replayMu_setReplayMu : (s.setReplayMu holder).replayMu = holder := rfl

@[simp, grind =] theorem parties_addLoop : (s.addLoop id).parties = s.parties := rfl

@[simp, grind =] theorem loopPc_addLoop :
    (s.addLoop id).loopPc id' = if id' = id then some .selecting else s.loopPc id' := by
  rw [State.loopPc, State.addLoop, lookup_insert_ite]
  split <;> rfl

@[simp, grind =] theorem replayMu_addLoop : (s.addLoop id).replayMu = s.replayMu := rfl

@[simp, grind =] theorem cancelled_addLoop : (s.addLoop id).cancelled = s.cancelled := rfl

@[simp, grind =] theorem parties_cancel : (s.cancel p).parties = s.parties := rfl

@[simp, grind =] theorem loopPc_cancel : (s.cancel p).loopPc id = s.loopPc id := rfl

@[simp, grind =] theorem replayMu_cancel : (s.cancel p).replayMu = s.replayMu := rfl

@[simp, grind =] theorem cancelled_cancel : (s.cancel p).cancelled = p :: s.cancelled := rfl

@[simp, grind =] theorem parties_setLoop : (s.setLoop id loopPc).parties = s.parties := rfl

@[simp, grind =] theorem loopPc_setLoop : (s.setLoop id loopPc).loopPc id' =
      if id' = id then (s.loopPc id).map fun _ => loopPc else s.loopPc id' := by
  rw [State.loopPc, State.setLoop, lookup_modify]
  split
  · rw [State.loopPc, map_map, map_map]
    rfl
  · rfl

@[simp, grind =] theorem replayMu_setLoop : (s.setLoop id loopPc).replayMu = s.replayMu := rfl

@[simp, grind =] theorem cancelled_setLoop : (s.setLoop id loopPc).cancelled = s.cancelled := rfl

@[simp, grind =] theorem parties_setPhase : (s.setPhase id phase).parties = s.parties := rfl

@[simp, grind =] theorem loopPc_setPhase : (s.setPhase id phase).loopPc id' = s.loopPc id' := by
  rw [State.loopPc, State.setPhase, lookup_modify]
  split
  · rename_i same
    rw [State.loopPc, same, map_map]
    rfl
  · rfl

@[simp, grind =] theorem replayMu_setPhase : (s.setPhase id phase).replayMu = s.replayMu := rfl

@[simp, grind =] theorem cancelled_setPhase : (s.setPhase id phase).cancelled = s.cancelled := rfl

@[simp, grind =] theorem lookup_leave :
    (leave s p).parties.lookup q = if q = p then none else s.parties.lookup q := by
  cases p <;> exact lookup_erase_ite s.parties _ q

@[simp, grind =] theorem replayMu_leave : (leave s p).replayMu = s.replayMu := by cases p <;> rfl

@[simp, grind =] theorem cancelled_leave : (leave s p).cancelled = s.cancelled := by cases p <;> rfl

@[simp, grind =] theorem loopPc_leave : (leave s p).loopPc id =
      if p = .adapter id then (s.loopPc id).map fun _ => .selecting else s.loopPc id := by
  cases p with
  | retryLoop => rfl
  | caller n => rfl
  | adapter id' =>
    rw [leave, loopPc_setLoop]
    by_cases same : id = id'
    · rw [if_pos same, same, if_pos rfl]
      rfl
    · rw [if_neg same, if_neg fun eq => same (Party.adapter.inj eq).symm]
      rfl

end Frame

end NeonDoll.Gateway
