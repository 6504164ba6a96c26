import NeonDoll.Gateway.Dispatch

/-!
# The replay mutex and the adapter loops

A replay from outside an adapter's loop may wait for a loop that handles an inbound event, and
the replay at the end of that handling waits for the mutex.  Neither gets any further then.  This
cannot happen in the runs in which the holder of the mutex does not wait for a loop that handles
an inbound event.
-/

namespace NeonDoll.Gateway

open Lib Transition

def PartyPc.holds : PartyPc → Bool
  | .outside | .locking => false
  | .replaying => true
  | .offering _ inReplay | .awaiting _ inReplay => inReplay

/-- The party has the mutex and waits for the loop of the adapter. -/
@[grind] def State.waits (s : State) (p : Party) (id : AdapterID) : Prop :=
  s.parties.lookup p = some (.offering id true) ∨ s.parties.lookup p = some (.awaiting id true)

@[grind] def State.handles (s : State) (id : AdapterID) : Prop := s.loopPc id = some .handling

instance (s : State) (p : Party) (id : AdapterID) : Decidable (s.waits p id) :=
  inferInstanceAs (Decidable (_ ∨ _))

instance (s : State) (id : AdapterID) : Decidable (s.handles id) :=
  inferInstanceAs (Decidable (_ = _))

/-- The loop of an adapter waits for the mutex, and the holder of the mutex for that loop. -/
def State.Deadlocked (s : State) (p : Party) (id : AdapterID) : Prop :=
  s.replayMu = some p ∧ s.waits p id ∧ s.handles id ∧
    s.parties.lookup (.adapter id) = some .locking ∧
    p ∉ s.cancelled ∧ .adapter id ∉ s.cancelled

/-- The holder of the mutex offers no command to another loop that handles an inbound event, and
a loop does not begin to handle one while the holder waits for it. -/
def apart (s : State) : Action → Prop
  | .deliver p id =>
    s.parties.lookup p = some .replaying → p ≠ .adapter id → ¬s.handles id
  | .handleInbound id => ∀ p ∈ s.replayMu, ¬s.waits p id
  | _ => True

instance (s : State) (a : Action) : Decidable (apart s a) :=
  match a with
  | .deliver _ _ => inferInstanceAs (Decidable (_ → _ → _))
  | .handleInbound id => inferInstanceAs (Decidable (∀ p ∈ s.replayMu, ¬s.waits p id))
  | .start _ | .activate _ | .unregister _ | .enter _ | .replay _ | .lock _ | .takeCommand _ _
  | .sendResult _ | .giveUp _ | .unlock _ | .leave _ | .cancel _ | .stop _ => isTrue trivial

variable {s t : State}

/-! ## Steps -/

theorem step_of_system (stepped : system.step? s a = some (t, events)) : step s a = some t := by
  obtain ⟨_, done, eq⟩ := Option.map_eq_some_iff.mp stepped
  cases eq
  exact done

/-- A party in a replay is the holder of the mutex. -/
def Held (s : State) : Prop :=
  ∀ p pc, s.parties.lookup p = some pc → pc.holds = true → s.replayMu = some p

theorem step_held (stepped : step s a = some t) (held : Held s) : Held t := by
  cases a with
  | lock p =>
    -- The mutex was free, so nobody else is in a replay.
    grind [Held, step]
  | unlock p =>
    simp only [step, Option.ite_none_right_eq_some, Option.some.injEq] at stepped
    obtain ⟨replaying, rfl⟩ := stepped
    have mine : s.replayMu = some p := held p .replaying replaying rfl
    intro q pc found holds
    simp only [parties_setReplayMu, lookup_setParty] at found
    split at found
    · cases found
      cases holds
    rename_i other
    have holder := held q pc found holds
    rw [mine] at holder
    exact absurd (Option.some.inj holder).symm other
  | _ => grind [step, Held, returnPc, PartyPc.holds, deliver, sendResult]

variable {id : AdapterID} {p : Party}

theorem waits_holder (held : Held s) (waits : s.waits p id) : s.replayMu = some p := by
  rcases waits with offering | awaiting
  · exact held p _ offering rfl
  · exact held p _ awaiting rfl

theorem handles_setLoop (other : pc ≠ .handling)
    (handles : (s.setLoop id pc).handles id') : s.handles id' := by
  grind [Option.map_eq_some_iff]

theorem handles_leave (handles : (leave s p).handles id) : s.handles id := by
  cases p with
  | retryLoop | caller n => exact handles
  | adapter id' => exact handles_setLoop (by decide) handles

theorem step_handles (stepped : step s a = some t) (handles : t.handles id) :
    s.handles id ∨ a = .handleInbound id := by
  cases a with
  | takeCommand id' p | stop id' => grind [step]
  | sendResult id' => grind [step, handles_setLoop, sendResult]
  | leave p => grind [step, handles_leave]
  | _ => grind [step, deliver]

theorem step_waits (stepped : step s a = some t) (waits : t.waits p id) : s.waits p id ∨
      (a = .deliver p id ∧ s.parties.lookup p = some .replaying ∧ p ≠ .adapter id) := by
  cases a with
  | deliver q id' => grind [step, deliver]
  | _ => grind [step, sendResult, returnPc]

/-- The party of an adapter is there only while its loop handles an inbound event. -/
def Busy (s : State) : Prop :=
  ∀ id pc, s.parties.lookup (.adapter id) = some pc → s.handles id

theorem step_busy (stepped : step s a = some t) (busy : Busy s) : Busy t := by
  cases a <;> grind [step, Busy, deliver, sendResult, Party.isAdapter]

/-! ## Runs that keep apart -/

/-- What `apart` adds to the states of a run. -/
structure Apart (s : State) : Prop where
  held : Held s
  waits : ∀ p id, s.waits p id → ¬s.handles id

theorem step_apart (stepped : step s a = some t) (admitted : apart s a) (before : Apart s) :
    Apart t where
  held := step_held stepped before.held
  waits := by
    intro p id waits handles
    rcases step_waits stepped waits with waiting | ⟨rfl, replaying, other⟩
    · rcases step_handles stepped handles with handling | rfl
      · exact before.waits p id waiting handling
      · exact admitted p (waits_holder before.held waiting) waiting
    · rcases step_handles stepped handles with handling | eq
      · exact admitted replaying other handling
      · cases eq

/-- In these runs no loop waits for the mutex while the holder of the mutex waits for it. -/
theorem never_deadlocked {trace : List Empty} (run : system.Run apart system.init trace s)
    (p : Party) (id : AdapterID) : ¬s.Deadlocked p id := by
  have kept : Apart s := by
    refine run.invariant ⟨nofun, nofun⟩ ?_
    intro x y a events before admitted stepped
    exact step_apart (step_of_system stepped) admitted before
  rintro ⟨_, waits, handles, _⟩
  exact kept.waits p id waits handles

/-- An adapter is registered, gets a delivery from the retry loop, and then handles an inbound
event with a replay of its own. -/
def registerDeliverHandle : List Action :=
  [.start 0, .activate 0, .enter .retryLoop, .replay .retryLoop, .lock .retryLoop,
    .deliver .retryLoop 0, .takeCommand 0 .retryLoop, .sendResult 0, .unlock .retryLoop,
    .leave .retryLoop, .handleInbound 0, .replay (.adapter 0), .lock (.adapter 0),
    .deliver (.adapter 0) 0]

theorem never_deadlocked_register : ∃ trace s,
    system.Run apart system.init trace s ∧ s.replayMu = some (.adapter 0) ∧
      ∀ p id, ¬s.Deadlocked p id := by
  obtain ⟨trace, s, run, holder⟩ := System.replays?_run
    (show system.replays? apart registerDeliverHandle
      (fun _ s => s.replayMu = some (.adapter 0)) = true by decide)
  exact ⟨trace, s, run, of_decide_eq_true holder, never_deadlocked run⟩

/-! ## The deadlock -/

instance (p : Party) (id : AdapterID) : Decidable (s.Deadlocked p id) :=
  inferInstanceAs (Decidable (_ ∧ _))

/-- The retry loop has the mutex and offers a delivery to an adapter whose loop has just taken
an inbound event; at the end of that event the loop calls `replay`. -/
theorem retry_loop_deadlocks : ∃ trace s,
    system.Run free system.init trace s ∧ s.Deadlocked .retryLoop 0 := by
  obtain ⟨trace, s, run, dead⟩ := System.replays?_run
    (show system.replays? free
      [.start 0, .activate 0, .handleInbound 0, .enter .retryLoop, .replay .retryLoop,
        .lock .retryLoop, .deliver .retryLoop 0, .replay (.adapter 0)]
      (fun _ s => s.Deadlocked .retryLoop 0) = true by decide)
  exact ⟨trace, s, run, of_decide_eq_true dead⟩

/-- Neither of the two contexts is cancelled. -/
def live (p : Party) (id : AdapterID) (_ : State) (a : Action) : Prop :=
  a ≠ .cancel p ∧ a ≠ .cancel (.adapter id)

/-- What holds in every state, and a deadlock that was there before. -/
structure Stuck (p : Party) (id : AdapterID) (s : State) : Prop where
  held : Held s
  busy : Busy s
  dead : s.Deadlocked p id

theorem step_stuck (stuck : Stuck p id s) (alive : live p id s a)
    (stepped : step s a = some t) : Stuck p id t where
  held := step_held stepped stuck.held
  busy := step_busy stepped stuck.busy
  dead := by
    obtain ⟨_, _, _⟩ := stuck
    -- The waiting loop is at no `select`, and the mutex has its holder.
    cases a <;> grind [step, State.Deadlocked, Busy, Held, live, deliver, sendResult, PartyPc.holds]

/-- Nothing but a cancelled context ends it. -/
theorem deadlock_is_final
    (run : system.Run free system.init trace s) (dead : s.Deadlocked p id)
    (rest : system.Run (live p id) s later t) : t.Deadlocked p id := by
  have held : Held s := run.invariant (P := Held) nofun
    fun before _ stepped => step_held (step_of_system stepped) before
  have busy : Busy s := run.invariant (P := Busy) nofun
    fun before _ stepped => step_busy (step_of_system stepped) before
  have stuck : Stuck p id t := rest.invariant ⟨held, busy, dead⟩
    fun before alive stepped => step_stuck before alive (step_of_system stepped)
  exact stuck.dead

/-- A further adapter is started in the state of the deadlock. -/
theorem deadlock_is_final_start : ∃ trace s t, system.Run free system.init trace s ∧
    s.Deadlocked .retryLoop 0 ∧ step s (.start 1) = some t ∧ t.Deadlocked .retryLoop 0 := by
  obtain ⟨trace, s, t, es, run, _, stepped, dead⟩ := System.reaches?_run
    (show system.reaches? free
      [.start 0, .activate 0, .handleInbound 0, .enter .retryLoop, .replay .retryLoop,
        .lock .retryLoop, .deliver .retryLoop 0, .replay (.adapter 0)] (.start 1)
      (fun s _ _ => s.Deadlocked .retryLoop 0) = true by decide)
  have dead := of_decide_eq_true dead
  exact ⟨trace, s, t, run, dead, step_of_system stepped,
    deadlock_is_final run dead (.tail (.refl s) (by simp [live]) stepped)⟩

end NeonDoll.Gateway
