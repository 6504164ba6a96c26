import NeonDoll.DollMind.Durable

/-!
# The wakes of due intentions

`EnterDueIntentions` of `Core/DollMind/lifecycle.go`.  A wake that fails does not keep the next
intention from its own; a scan that fails keeps every intention from it.
-/

namespace NeonDoll.DollMind

open Lib Json DollState Persistence

variable (parseTime : Text → Option Int) (waiting : Text → Option Bool) (now : Int)

/-- The attempts in order, with their errors. -/
def enterWakes (calls : Nat → WakeCalls) :
    Mind → List IntentionItem → Mind × List (IntentionItem × Except WakeError Result)
  | m, [] => (m, [])
  | m, item :: rest =>
    let (woken, result) := enterWake parseTime m item.id (calls rest.length)
    let (last, attempts) := enterWakes calls woken rest
    (last, (item, result) :: attempts)

/-- No attempts are returned if the scan fails. -/
def enterDueIntentions (calls : Nat → WakeCalls) (m : Mind) :
    Mind × Option (List (IntentionItem × Except WakeError Result)) :=
  match dueIntentions parseTime waiting now (intentions m.state) with
  | none => (m, none)
  | some due => (enterWakes parseTime calls m due).map id some

/-- A pending intention that awaits no permission and whose time has come. -/
def Due (item : IntentionItem) : Prop :=
  item.state = Daemon.statePending ∧ waiting item.id = some false ∧
    ∃ wake, parseTime item.wakeTime = some wake ∧ wake ≤ now

/-- The scan gets past the intention. -/
def Readable (item : IntentionItem) : Prop :=
  item.state = Daemon.statePending → waiting item.id = some true ∨
    waiting item.id = some false ∧ parseTime item.wakeTime ≠ none

theorem enterWakes_items (calls : Nat → WakeCalls) (m : Mind) :
    (enterWakes parseTime calls m due).2.map Prod.fst = due := by
  induction due generalizing m with
  | nil => rfl
  | cons item rest ih => exact congrArg (item :: ·) (ih _)

theorem dueIntentions_ne_none_iff (items : List IntentionItem) :
    dueIntentions parseTime waiting now items ≠ none ↔
      ∀ item ∈ items, Readable parseTime waiting item := by
  induction items with
  | nil => simp [dueIntentions]
  | cons head rest ih =>
    rw [List.forall_mem_cons, ← ih, dueIntentions, Readable]
    by_cases pending : head.state = Daemon.statePending
    · cases waiting head.id with
      | none => simp [pending]
      | some waits => cases waits <;> cases parseTime head.wakeTime <;> simp [pending]
    · simp [pending]

/-- Every due intention gets its wake, however other wakes end, exactly when the scan can read all
intentions or none is due. -/
theorem due_intentions_woken_iff (calls : Nat → WakeCalls) (m : Mind) :
    (∀ item ∈ intentions m.state, Due parseTime waiting now item →
      ∃ attempts, (enterDueIntentions parseTime waiting now calls m).2 = some attempts ∧
        item ∈ attempts.map Prod.fst) ↔
    (∀ item ∈ intentions m.state, Readable parseTime waiting item) ∨
      ∀ item ∈ intentions m.state, ¬Due parseTime waiting now item := by
  rw [← dueIntentions_ne_none_iff parseTime waiting now, enterDueIntentions]
  cases scanned : dueIntentions parseTime waiting now (intentions m.state) with
  | none => simp
  | some due =>
    refine iff_of_true (fun item member ready => ⟨_, rfl, ?_⟩) (.inl nofun)
    obtain ⟨pending, idle, wake, time, come⟩ := ready
    rw [enterWakes_items]
    exact dueIntentions_complete scanned member pending idle time come

/-- Two pending intentions, the first with an unreadable time and the second due. -/
def sampleItems : List IntentionItem :=
  [⟨['i'], [], [], [], Daemon.statePending⟩, ⟨['j'], [], [], ['w'], Daemon.statePending⟩]

/-- An intention with an unreadable time keeps one that is due from its wake. -/
theorem unreadable_time_blocks_due : ∃ parseTime waiting now m,
    (∃ item ∈ intentions m.state, Due parseTime waiting now item) ∧
      ∀ calls, (enterDueIntentions parseTime waiting now calls m).2 = none :=
  ⟨fun text => if text = ['w'] then some 0 else none, fun _ => some false, 0,
    ⟨{ sampleMind.state with intentions := ⟨some sampleItems⟩ }, sampleMind.store⟩,
    ⟨_, .tail _ (.head _), rfl, rfl, 0, rfl, le_rfl⟩, fun _ => rfl⟩

end NeonDoll.DollMind
