import NeonDoll.Lib.Transition
import NeonDoll.Persistence.TimeText

/-!
# Attempts that overlap

`emit`, `RetryDelivery` and `ReplayPending` of `Core/SessionEvent/service.go`, running side by
side.  An attempt works on the delivery that was read when its call began, and it records its
result without looking at the row again.  Two attempts on one delivery can so overwrite each
other's result.  The status of a delivery is final in the runs in which an accepted or failed
result is recorded only when no other call holds the delivery.
-/

namespace NeonDoll.SessionEvent

open Lib Transition Session Persistence List GoMap Option AList

abbrev WorkerID := Nat

inductive AttemptStage where
  | checking
  | sending
  | recording (outcome : Outcome)
  deriving DecidableEq

/-- A call: the deliveries it has read and not recorded, of which the first one is attempted. -/
structure Worker where
  stage : AttemptStage
  queue : List Delivery
  deriving DecidableEq

structure AttemptState where
  rows : Deliveries
  workers : GoMap WorkerID Worker

inductive AttemptAction where
  /-- `emit` has passed its checks and creates the delivery. -/
  | emit (w : WorkerID) (delivery : Delivery) (ok : Bool)
  /-- `RetryDelivery` reads its delivery. -/
  | retry (w : WorkerID) (id : Text) (ok : Bool)
  /-- `ReplayPending` lists the pending deliveries. -/
  | replay (w : WorkerID) (ok : Bool)
  | check (w : WorkerID) (sessions : Session.Store) (calls : CheckCalls) (listError : Text)
  | send (w : WorkerID) (sent : Sent)
  | record (w : WorkerID) (now : Int) (calls : UpdateCalls)

inductive AttemptEvent where
  /-- The event of the delivery is handed to the transport. -/
  | sent (w : WorkerID) (id : Text)
  deriving DecidableEq

/-- The call goes on with these deliveries, or it is over. -/
def AttemptState.begin (s : AttemptState) (w : WorkerID) (queue : List Delivery) : AttemptState :=
  match queue with
  | [] => { s with workers := s.workers.erase w }
  | _ :: _ => { s with workers := s.workers.insert w ⟨.checking, queue⟩ }

def AttemptState.stage (s : AttemptState) (w : WorkerID) (stage : AttemptStage)
    (queue : List Delivery) : AttemptState :=
  { s with workers := s.workers.insert w ⟨stage, queue⟩ }

/-- A delivery that `RetryDelivery` attempts. -/
def retried (rows : Deliveries) (id : Text) : List Delivery :=
  match rows.lookup id with
  | none => []
  | some delivery => if delivery.status = .pending then [delivery] else []

def attemptStep? (s : AttemptState) : AttemptAction → Option (AttemptState × List AttemptEvent)
  | .emit w delivery ok =>
    match s.workers.lookup w with
    | some _ => none
    | none =>
      if delivery.status ≠ .pending then none
      else
        match insertDelivery s.rows delivery ok with
        | none => some (s, [])
        | some rows => some ({ s with rows := rows }.begin w [delivery], [])
  | .retry w id ok =>
    match s.workers.lookup w with
    | some _ => none
    | none => some (s.begin w (if ok then retried s.rows id else []), [])
  | .replay w ok =>
    match s.workers.lookup w with
    | some _ => none
    | none =>
      some (s.begin w (if ok then listPendingDeliveries formatTime s.rows else []), [])
  | .check w sessions calls listError =>
    match s.workers.lookup w with
    | some ⟨.checking, delivery :: rest⟩ =>
      match (delivery.check sessions calls).outcome listError with
      | some outcome => some (s.stage w (.recording outcome) (delivery :: rest), [])
      | none => some (s.stage w .sending (delivery :: rest), [])
    | _ => none
  | .send w sent =>
    match s.workers.lookup w with
    | some ⟨.sending, delivery :: rest⟩ =>
      some (s.stage w (.recording sent.outcome) (delivery :: rest), [.sent w delivery.id])
    | _ => none
  | .record w now calls =>
    match s.workers.lookup w with
    | some ⟨.recording outcome, delivery :: rest⟩ =>
      match updateDelivery s.rows delivery.id outcome.status outcome.error now calls with
      -- An update that fails ends the call.
      | (rows, none) => some ({ s with rows := rows }.begin w [], [])
      | (rows, some _) => some ({ s with rows := rows }.begin w rest, [])
    | _ => none

/-- Stored deliveries, each under its own id. -/
structure DeliveryTable where
  rows : Deliveries
  keyed : ∀ id delivery, rows.lookup id = some delivery → delivery.id = id

def attemptSystem (table : DeliveryTable) : System AttemptState AttemptAction AttemptEvent where
  init := ⟨table.rows, ∅⟩
  step? := attemptStep?

/-- Another call has read the delivery and has not recorded it. -/
def AttemptState.heldByOther (s : AttemptState) (w : WorkerID) (id : Text) : Bool :=
  s.workers.entries.any fun e => e.1 ≠ w && e.2.queue.any fun delivery => delivery.id = id

/-- An accepted or failed result is recorded only when no other call holds the delivery. -/
def recordsAlone? (s : AttemptState) : AttemptAction → Bool
  | .record w _ _ =>
    match s.workers.lookup w with
    | some ⟨.recording outcome, delivery :: _⟩ =>
      outcome.status = .pending || !s.heldByOther w delivery.id
    | _ => true
  | _ => true

def recordsAlone (s : AttemptState) (a : AttemptAction) : Prop := recordsAlone? s a = true

instance (s : AttemptState) (a : AttemptAction) : Decidable (recordsAlone s a) :=
  inferInstanceAs (Decidable (recordsAlone? s a = true))

/-! ## The invariant -/

/-- What a call holds is pending in the table, and it holds nothing twice. -/
@[grind] structure HeldPending (rows : Deliveries) (queue : List Delivery) : Prop where
  distinct : (queue.map Delivery.id).Nodup
  pending : ∀ delivery ∈ queue, ∃ row, rows.lookup delivery.id = some row ∧ row.status = .pending

structure AttemptInv (s : AttemptState) : Prop where
  keyed : ∀ id delivery, s.rows.lookup id = some delivery → delivery.id = id
  held : ∀ w worker, s.workers.lookup w = some worker → HeldPending s.rows worker.queue

variable {s t : AttemptState} {w : WorkerID} {id : Text} {queue : List Delivery}

theorem lookup_begin (found : (s.begin w queue).workers.lookup u = some worker) :
    (u = w ∧ worker.queue = queue) ∨ (u ≠ w ∧ s.workers.lookup u = some worker) := by
  cases queue with
  | nil =>
    exact .inr (lookup_erase_some found)
  | cons delivery rest =>
    rcases lookup_insert_some found with ⟨_, rfl⟩ | ⟨apart, found⟩
    · grind
    · exact .inr ⟨apart, found⟩

theorem rows_begin : (s.begin w queue).rows = s.rows := by
  cases queue with
  | nil => rfl
  | cons delivery rest => rfl

/-- A call goes on; the others hold what they held. -/
theorem inv_begin (keyed : ∀ id delivery, s.rows.lookup id = some delivery → delivery.id = id)
    (others : ∀ u worker, u ≠ w → s.workers.lookup u = some worker →
      HeldPending s.rows worker.queue)
    (held : HeldPending s.rows queue) : AttemptInv (s.begin w queue) := by
  constructor
  · rw [rows_begin]
    exact keyed
  intro u worker found
  rw [rows_begin]
  rcases lookup_begin found with ⟨-, same⟩ | ⟨apart, other⟩
  · rw [same]
    exact held
  · exact others u worker apart other

theorem inv_stage (inv : AttemptInv s) (held : HeldPending s.rows queue) :
    AttemptInv (s.stage w stage queue) := by
  refine ⟨inv.keyed, fun u worker found => ?_⟩
  rcases lookup_insert_some found with ⟨-, rfl⟩ | ⟨-, found⟩
  · exact held
  · exact inv.held u worker found

theorem held_nil : HeldPending rows [] := ⟨.nil, by simp⟩

section

variable (keyed : ∀ id delivery, s.rows.lookup id = some delivery → delivery.id = id)

include keyed

theorem held_retried :
    HeldPending s.rows (retried s.rows id) := by
  rw [retried]
  cases found : s.rows.lookup id with
  | none => exact held_nil
  | some delivery => grind

/-- The list of pending deliveries has each of them once. -/
theorem held_listed :
    HeldPending s.rows (listPendingDeliveries formatTime s.rows) := by
  have sorted : (listPendingDeliveries formatTime s.rows).Perm (pendingDeliveries s.rows) :=
    perm_insertionSort _ _
  have ids : (s.rows.entries.map Sigma.snd).map Delivery.id = s.rows.entries.keys := by
    rw [List.map_map, List.keys]
    refine map_congr_left fun entry member => ?_
    exact keyed entry.1 entry.2 (mem_lookup_iff.mpr member)
  constructor
  · refine (sorted.map Delivery.id).nodup_iff.mpr ?_
    refine (filter_sublist.map Delivery.id).nodup ?_
    rw [ids]
    exact s.rows.nodupKeys
  · intro delivery member
    obtain ⟨id, found, pending⟩ := mem_pendingDeliveries (sorted.mem_iff.mp member)
    rw [keyed id delivery found]
    exact ⟨delivery, found, pending⟩

end

/-! ## Steps -/

variable {ok : Bool} {delivery : Delivery}

theorem insertDelivery_some
    (inserted : insertDelivery rows delivery ok = some new) :
    rows.lookup delivery.id = none ∧ new = rows.insert delivery.id delivery := by
  rw [insertDelivery] at inserted
  split at inserted
  · grind [lookup_eq_none.mpr]
  · cases inserted

variable {rows : Deliveries}

theorem held_insert (fresh : rows.lookup delivery.id = none) (held : HeldPending rows queue) :
    HeldPending (rows.insert delivery.id delivery) queue := by
  grind

theorem emit_inv (inv : AttemptInv s) (pending : delivery.status = .pending)
    (inserted : insertDelivery s.rows delivery ok = some rows) :
    AttemptInv ({ s with rows := rows }.begin w [delivery]) := by
  obtain ⟨fresh, rfl⟩ := insertDelivery_some inserted
  refine inv_begin ?_ ?_ ?_
  · grind [AttemptInv]
  · intro u worker _ found
    exact held_insert fresh (inv.held u worker found)
  · refine ⟨nodup_singleton _, fun d member => ?_⟩
    rw [mem_singleton.mp member]
    exact ⟨delivery, lookup_insert _, pending⟩

variable {now : Int} {calls : UpdateCalls}

/-- A recorded result leaves what is held pending, if the delivery is not held or the result is
that it stays pending. -/
theorem held_recorded {failure : Text} (held : HeldPending rows queue)
    (harmless : status = .pending ∨ ∀ d ∈ queue, d.id ≠ id) :
    HeldPending (updateDelivery rows id status failure now calls).1 queue := by
  refine ⟨held.distinct, fun d member => ?_⟩
  obtain ⟨row, found, pending⟩ := held.pending d member
  rw [updateDelivery_rows]
  split
  · rename_i same
    rcases harmless with stays | apart
    · rw [← same.2, found]
      exact ⟨_, rfl, stays⟩
    · exact absurd same.2 (apart d member)
  · exact ⟨row, found, pending⟩

variable {worker : Worker}

theorem not_heldByOther (free : s.heldByOther w id = false)
    (found : s.workers.lookup u = some worker) (apart : u ≠ w) : ∀ d ∈ worker.queue, d.id ≠ id := by
  intro d member same
  rw [AttemptState.heldByOther, List.any_eq_false] at free
  refine free ⟨u, worker⟩ (mem_lookup_iff.mp found) ?_
  rw [Bool.and_eq_true, decide_eq_true_eq, List.any_eq_true]
  exact ⟨apart, d, member, decide_eq_true same⟩

theorem record_inv (inv : AttemptInv s) {outcome : Outcome} {rest left : List Delivery}
    (found : s.workers.lookup w = some ⟨.recording outcome, delivery :: rest⟩)
    (alone : outcome.status = .pending ∨ s.heldByOther w delivery.id = false)
    (goesOn : left = [] ∨ left = rest) : AttemptInv ({ s with
      rows := (updateDelivery s.rows delivery.id outcome.status outcome.error now
        calls).1 }.begin w left) := by
  have own := inv.held w _ found
  obtain ⟨apart, distinct⟩ := nodup_cons.mp own.distinct
  refine inv_begin ?_ ?_ ?_
  · intro id row lookup
    rw [updateDelivery_rows] at lookup
    split at lookup
    · rename_i same
      obtain ⟨before, stored, rfl⟩ := map_eq_some_iff.mp lookup
      rw [same.2]
      exact inv.keyed _ before stored
    · exact inv.keyed id row lookup
  · intro u worker other lookup
    refine held_recorded (inv.held u worker lookup) ?_
    rcases alone with stays | free
    · exact .inl stays
    · exact .inr (not_heldByOther free lookup other)
  · rcases goesOn with rfl | rfl
    · exact held_nil
    · refine held_recorded ⟨distinct, fun d member => own.pending d (.tail _ member)⟩ (.inr ?_)
      intro d member same
      exact apart (same ▸ mem_map_of_mem member)

/-- What a step does to a delivery that is no longer pending. -/
def KeepsStatus (s t : AttemptState) (events : List AttemptEvent) : Prop :=
  ∀ id row, s.rows.lookup id = some row → row.status ≠ .pending →
    (∃ row', t.rows.lookup id = some row' ∧ row'.status = row.status) ∧
      ∀ u, .sent u id ∉ events

theorem keeps_of_rows (same : t.rows = s.rows) : KeepsStatus s t [] := by
  intro id row found _
  rw [same]
  exact ⟨⟨row, found, rfl⟩, nofun⟩

theorem held_ne (inv : AttemptInv s)
    (found : s.workers.lookup w = some worker) (member : delivery ∈ worker.queue)
    (stored : s.rows.lookup id = some row) (final : row.status ≠ .pending) :
    id ≠ delivery.id := by
  grind [AttemptInv]

theorem attemptStep_inv (inv : AttemptInv s) (guarded : recordsAlone s a)
    (stepped : attemptStep? s a = some (t, events)) : AttemptInv t ∧ KeepsStatus s t events := by
  cases a <;> rw [attemptStep?] at stepped
  case emit w delivery ok =>
    split at stepped
    · cases stepped
    split at stepped
    · cases stepped
    rename_i pending
    split at stepped
    · cases stepped
      exact ⟨inv, keeps_of_rows rfl⟩
    rename_i rows inserted
    cases stepped
    refine ⟨emit_inv inv (not_not.mp pending) inserted, fun id row found _ => ⟨?_, nofun⟩⟩
    obtain ⟨fresh, rfl⟩ := insertDelivery_some inserted
    exact ⟨row, lookup_insert_fresh fresh found, rfl⟩
  case retry w id ok =>
    split at stepped
    · cases stepped
    cases stepped
    refine ⟨inv_begin inv.keyed (fun u worker _ => inv.held u worker) ?_,
      keeps_of_rows (rows_begin)⟩
    split
    · exact held_retried inv.keyed
    · exact held_nil
  case replay w ok =>
    split at stepped
    · cases stepped
    cases stepped
    refine ⟨inv_begin inv.keyed (fun u worker _ => inv.held u worker) ?_,
      keeps_of_rows (rows_begin)⟩
    split
    · exact held_listed inv.keyed
    · exact held_nil
  case check w sessions calls listError =>
    split at stepped
    · rename_i delivery rest found
      have own := inv.held w _ found
      split at stepped
      all_goals
        cases stepped
        exact ⟨inv_stage inv own, keeps_of_rows rfl⟩
    · cases stepped
  case send w sent =>
    split at stepped
    · rename_i delivery rest found
      cases stepped
      refine ⟨inv_stage inv (inv.held w _ found), fun id row stored final => ?_⟩
      refine ⟨⟨row, stored, rfl⟩, fun u member => ?_⟩
      cases mem_singleton.mp member
      exact held_ne inv found mem_cons_self stored final rfl
    · cases stepped
  case record w now calls =>
    split at stepped
    · rename_i outcome delivery rest found
      rw [recordsAlone, recordsAlone?, found] at guarded
      have alone : outcome.status = .pending ∨ s.heldByOther w delivery.id = false := by
        simpa using guarded
      have keeps : ∀ left, KeepsStatus s ({ s with
          rows := (updateDelivery s.rows delivery.id outcome.status outcome.error now
            calls).1 }.begin w left) [] := by
        intro left id row stored final
        refine ⟨⟨row, ?_, rfl⟩, nofun⟩
        rw [rows_begin, updateDelivery_rows, if_neg]
        · exact stored
        · exact fun same => held_ne inv found mem_cons_self stored final same.2
      split at stepped
      · rename_i rows updated
        cases stepped
        have eq : rows = (updateDelivery s.rows delivery.id outcome.status outcome.error now
            calls).1 := by rw [updated]
        rw [eq]
        exact ⟨record_inv inv found alone (.inl rfl), keeps []⟩
      · rename_i rows _ updated
        cases stepped
        have eq : rows = (updateDelivery s.rows delivery.id outcome.status outcome.error now
            calls).1 := by rw [updated]
        rw [eq]
        exact ⟨record_inv inv found alone (.inr rfl), keeps rest⟩
    · cases stepped

/-! ## Runs -/

/-- In every run in which an accepted or failed result is recorded by a call that alone holds the
delivery: from any state on, a delivery that is accepted or failed keeps its status and is not
sent. -/
theorem delivery_status_final (table : DeliveryTable) {earlier later : List AttemptEvent}
    (first : (attemptSystem table).Run recordsAlone (attemptSystem table).init earlier s)
    (second : (attemptSystem table).Run recordsAlone s later t) {row : Delivery}
    (found : s.rows.lookup id = some row) (final : row.status ≠ .pending) :
    (∃ row', t.rows.lookup id = some row' ∧ row'.status = row.status) ∧
      ∀ w, .sent w id ∉ later := by
  have inv : AttemptInv s := first.invariant ⟨table.keyed, nofun⟩
    fun inv guarded stepped => (attemptStep_inv inv guarded stepped).1
  have kept : AttemptInv t ∧ (∃ row', t.rows.lookup id = some row' ∧ row'.status = row.status) ∧
      ∀ w, .sent w id ∉ later := by
    refine second.history (P := fun trace x => AttemptInv x ∧
      (∃ row', x.rows.lookup id = some row' ∧ row'.status = row.status) ∧
        ∀ w, .sent w id ∉ trace) ⟨inv, ⟨row, found, rfl⟩, nofun⟩ ?_
    rintro x y a _ _ ⟨inv, ⟨now, stored, same⟩, unsent⟩ guarded stepped
    obtain ⟨next, keeps⟩ := attemptStep_inv inv guarded stepped
    have final' : now.status ≠ .pending := by
      rw [same]
      exact final
    obtain ⟨⟨row', stored', same'⟩, quiet⟩ := keeps id now stored final'
    refine ⟨next, ⟨row', stored', same'.trans same⟩, fun w member => ?_⟩
    rcases mem_append.mp member with before | here
    · exact unsent w before
    · exact quiet w here
  exact kept.2

/-! ## A status that is overwritten -/

def sampleOwner : Owner := ⟨.gateway, ['g']⟩

def sampleSessions : Session.Store :=
  { Session.Store.empty with
    sessions :=
      (∅ : GoMap SessionID InteractionSession).insert ['s'] ⟨['s'], sampleOwner, [], .active⟩ }

def sampleDelivery : Delivery :=
  ⟨['d'], ⟨1, ['e'], ['s'], .status, none, none, []⟩, [], sampleOwner, .pending, [], 0, 0⟩

def emptyTable : DeliveryTable := ⟨∅, by simp⟩

def sampleCheck (w : WorkerID) : AttemptAction := .check w sampleSessions ⟨true, true⟩ []

/-- A delivery whose first attempt fails, then two calls that have both read it; the second one
has it accepted. -/
def acceptedActions : List AttemptAction :=
  [.emit 0 sampleDelivery true, sampleCheck 0, .send 0 (.error ['x'] false),
    .record 0 1 ⟨true, true⟩, .replay 1 true, .retry 2 ['d'] true, sampleCheck 2, .send 2 .ok,
    .record 2 2 ⟨true, true⟩]

/-- The first of the two calls sends the accepted delivery and makes it pending again. -/
theorem accepted_becomes_pending : ∃ earlier later s t row row',
      (attemptSystem emptyTable).Run free (attemptSystem emptyTable).init earlier s ∧
      (attemptSystem emptyTable).Run free s later t ∧
      s.rows.lookup ['d'] = some row ∧ row.status = .accepted ∧
      t.rows.lookup ['d'] = some row' ∧ row'.status = .pending ∧ .sent 3 ['d'] ∈ later := by
  have replayed : (match (attemptSystem emptyTable).replay? free (attemptSystem emptyTable).init
        acceptedActions with
      | none => false
      | some (s, _) =>
        match (attemptSystem emptyTable).replay? free s
            [sampleCheck 1, .send 1 (.error ['x'] false), .record 1 3 ⟨true, true⟩,
              .retry 3 ['d'] true, sampleCheck 3, .send 3 .ok] with
        | none => false
        | some (t, later) =>
          decide ((s.rows.lookup ['d']).map Delivery.status = some .accepted ∧
            (t.rows.lookup ['d']).map Delivery.status = some .pending ∧
            .sent 3 ['d'] ∈ later)) = true := by
    decide +kernel
  split at replayed
  · cases replayed
  rename_i s earlier first
  split at replayed
  · cases replayed
  rename_i t later second
  obtain ⟨accepted, pending, sent⟩ := of_decide_eq_true replayed
  obtain ⟨row, found, status⟩ := map_eq_some_iff.mp accepted
  obtain ⟨row', found', status'⟩ := map_eq_some_iff.mp pending
  exact ⟨earlier, later, s, t, row, row', System.replay?_run first, System.replay?_run second,
    found, status, found', status', sent⟩

/-- An accepted delivery that is asked for again. -/
theorem delivery_status_final_sample : ∃ earlier later s t row,
      (attemptSystem emptyTable).Run recordsAlone (attemptSystem emptyTable).init earlier s ∧
      (attemptSystem emptyTable).Run recordsAlone s later t ∧
      s.rows.lookup ['d'] = some row ∧ row.status = .accepted ∧
      ∃ row', t.rows.lookup ['d'] = some row' ∧ row'.status = .accepted := by
  have replayed : (match (attemptSystem emptyTable).replay? recordsAlone
        (attemptSystem emptyTable).init [.emit 0 sampleDelivery true, sampleCheck 0, .send 0 .ok,
          .record 0 1 ⟨true, true⟩] with
      | none => false
      | some (s, _) =>
        match (attemptSystem emptyTable).replay? recordsAlone s
            [.replay 1 true, .retry 2 ['d'] true] with
        | none => false
        | some _ => decide ((s.rows.lookup ['d']).map Delivery.status = some .accepted)) =
      true := by
    decide +kernel
  split at replayed
  · cases replayed
  rename_i s earlier first
  split at replayed
  · cases replayed
  rename_i next second
  obtain ⟨t, later⟩ := next
  obtain ⟨row, found, status⟩ := map_eq_some_iff.mp (of_decide_eq_true replayed)
  have final : row.status ≠ .pending := by
    rw [status]
    decide
  obtain ⟨⟨row', found', same⟩, -⟩ := delivery_status_final emptyTable
    (System.replay?_run first) (System.replay?_run second) found final
  exact ⟨earlier, later, s, t, row, System.replay?_run first, System.replay?_run second, found,
    status, row', found', same.trans status⟩

end NeonDoll.SessionEvent
