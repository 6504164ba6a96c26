import NeonDoll.ContextBuilder.Source

/-!
# The stored session history

`AppendSessionMessages` of `Core/Persistence/session_messages.go`: one transaction that numbers the
new messages after the largest sequence of their session.
-/

namespace NeonDoll.Persistence

open Lib Inference ContextBuilder Session List

/-- The tables `interaction_sessions`, by its ids, and `interaction_session_messages`, without the
times. -/
structure HistoryStore where
  sessions : List SessionID
  messages : List HistoryMessage
  deriving DecidableEq

structure NewHistoryMessage where
  turnID : Text
  role : Role
  content : Text
  deriving DecidableEq

/-- Which statements of the transaction work. -/
structure AppendCalls where
  conn : Bool
  pragma : Bool
  begin : Bool
  resolve : Bool
  sequence : Bool
  /-- How many inserts work. -/
  inserts : Nat
  commit : Bool
  deriving DecidableEq

inductive AppendError where
  | invalidRequest
  | notFound
  | failed
  deriving DecidableEq

/-- `COALESCE(MAX(sequence) + 1, 0)`. -/
def HistoryStore.nextSequence (store : HistoryStore) (sessionID : SessionID) : Int :=
  match ((store.messages.filter fun m => m.sessionID = sessionID).map
      HistoryMessage.sequence).max? with
  | none => 0
  | some largest => largest + 1

def storedRole : Role → Bool
  | .system | .user | .assistant | .tool => true
  | .other _ => false

/-- A row may not repeat the sequence of its session or the id of any message. -/
def clashes (rows : List HistoryMessage) (m : HistoryMessage) : Bool :=
  rows.any fun r => (r.sessionID = m.sessionID && r.sequence = m.sequence) || r.id = m.id

/-- The loop over the messages, each with the id that is made for it. -/
def insertMessages (sessionID : SessionID) : Int → Nat → List HistoryMessage →
    List (Text × NewHistoryMessage) → Except AppendError (List HistoryMessage)
  | _, _, rows, [] => .ok rows
  | next, inserts, rows, (id, message) :: rest =>
    if message.turnID = [] then .error .invalidRequest
    else if storedRole message.role = false then .error .invalidRequest
    else
      let row := ⟨id, sessionID, message.turnID, next, message.role, message.content⟩
      match inserts with
      | 0 => .error .failed
      | inserts + 1 =>
        if clashes rows row then .error .failed
        else insertMessages sessionID (next + 1) inserts (rows ++ [row]) rest

def numbered (sessionID : SessionID) : Int → List (Text × NewHistoryMessage) → List HistoryMessage
  | _, [] => []
  | next, (id, message) :: rest =>
    ⟨id, sessionID, message.turnID, next, message.role, message.content⟩ ::
      numbered sessionID (next + 1) rest

def appendSessionMessages (store : HistoryStore) (sessionID : SessionID)
    (messages : List (Text × NewHistoryMessage)) (calls : AppendCalls) :
    HistoryStore × Option AppendError :=
  if sessionID = [] then (store, some .invalidRequest)
  else if messages = [] then
    if calls.resolve = false then (store, some .failed)
    else if sessionID ∉ store.sessions then (store, some .notFound)
    else (store, none)
  else if ¬(calls.conn ∧ calls.pragma ∧ calls.begin ∧ calls.resolve) then (store, some .failed)
  else if sessionID ∉ store.sessions then (store, some .notFound)
  else if calls.sequence = false then (store, some .failed)
  else
    match insertMessages sessionID (store.nextSequence sessionID) calls.inserts store.messages
        messages with
    | .error e => (store, some e)
    | .ok rows =>
      if calls.commit then ({ store with messages := rows }, none) else (store, some .failed)

theorem insertMessages_ok
    (inserted : insertMessages sessionID first inserts rows messages = .ok saved) :
    saved = rows ++ numbered sessionID first messages := by
  induction messages generalizing first inserts rows with
  | nil =>
    rw [insertMessages] at inserted
    cases inserted
    exact (append_nil _).symm
  | cons head rest ih =>
    obtain ⟨id, message⟩ := head
    unfold insertMessages at inserted
    split at inserted
    · cases inserted
    split at inserted
    · cases inserted
    dsimp only at inserted
    split at inserted
    · cases inserted
    split at inserted
    · cases inserted
    · rw [ih inserted, numbered, append_assoc, singleton_append]

theorem appendSessionMessages_cases (store : HistoryStore) (sessionID : SessionID)
    (messages : List (Text × NewHistoryMessage)) (calls : AppendCalls) :
    (∃ e, appendSessionMessages store sessionID messages calls = (store, some e)) ∨
      appendSessionMessages store sessionID messages calls =
        ({ store with
            messages := store.messages ++
              numbered sessionID (store.nextSequence sessionID) messages }, none) := by
  rw [appendSessionMessages]
  split
  · exact .inl ⟨_, rfl⟩
  split
  · rename_i none_
    rw [none_, numbered, append_nil]
    split
    · exact .inl ⟨_, rfl⟩
    split
    · exact .inl ⟨_, rfl⟩
    · exact .inr rfl
  split
  · exact .inl ⟨_, rfl⟩
  split
  · exact .inl ⟨_, rfl⟩
  split
  · exact .inl ⟨_, rfl⟩
  cases inserted : insertMessages sessionID (store.nextSequence sessionID) calls.inserts
      store.messages messages with
  | error e => exact .inl ⟨e, rfl⟩
  | ok rows =>
    dsimp only
    split
    · right
      rw [insertMessages_ok inserted]
    · exact .inl ⟨_, rfl⟩

/-! ## The log of a session -/

/-- A session and the messages for it, with the ids that are made for them. -/
abbrev Batch := SessionID × List (Text × NewHistoryMessage)

/-- Calls one after the other, as immediate transactions run, with the batches that succeed. -/
def appendAll (store : HistoryStore) : List (Batch × AppendCalls) → HistoryStore × List Batch
  | [] => (store, [])
  | (batch, calls) :: rest =>
    match appendSessionMessages store batch.1 batch.2 calls with
    | (next, some _) => appendAll next rest
    | (next, none) => ((appendAll next rest).1, batch :: (appendAll next rest).2)

def HistoryStore.of (store : HistoryStore) (sessionID : SessionID) : List HistoryMessage :=
  store.messages.filter fun m => m.sessionID = sessionID

/-- The messages of the batches for a session, in order. -/
def messagesFor (sessionID : SessionID) (batches : List Batch) : List (Text × NewHistoryMessage) :=
  batches.flatMap fun batch => if batch.1 = sessionID then batch.2 else []

section

variable (sessionID id : SessionID) (next : Int) (messages : List (Text × NewHistoryMessage))

theorem numbered_append (first second) : numbered sessionID next (first ++ second) =
    numbered sessionID next first ++ numbered sessionID (next + first.length) second := by
  induction first generalizing next with
  | nil => simp [numbered]
  | cons message rest ih =>
    rw [cons_append, numbered, numbered, ih]
    simp [add_comm, add_left_comm]

theorem numbered_sequence : (numbered sessionID next messages).map HistoryMessage.sequence =
      (List.range messages.length).map fun i : Nat => next + i := by
  induction messages generalizing next with
  | nil => rfl
  | cons message rest ih =>
    rw [numbered, map_cons, ih, length_cons, range_succ_eq_map, map_cons,
      map_map]
    simp
    omega

theorem filter_numbered : (numbered sessionID next messages).filter (fun m => m.sessionID = id) =
    if sessionID = id then numbered sessionID next messages else [] := by
  induction messages generalizing next with
  | nil => simp [numbered]
  | cons message rest ih =>
    simp only [numbered, filter_cons, ih]
    split <;> simp_all

end

theorem nextSequence_numbered {store : HistoryStore}
    (log : store.of sessionID = numbered sessionID 0 messages) :
    store.nextSequence sessionID = messages.length := by
  rw [HistoryStore.nextSequence, ← HistoryStore.of, log, numbered_sequence]
  cases messages with
  | nil => rfl
  | cons message rest =>
    have largest : ((List.range (message :: rest).length).map fun i : Nat => (0 : Int) + i).max? =
        some (rest.length : Int) := by
      rw [max?_eq_some_iff]
      simp
    rw [largest]
    rfl

theorem appendAll_log (calls : List (Batch × AppendCalls))
    (log : ∀ id, store.of id = numbered id 0 (messagesFor id past)) (id : SessionID) :
    (appendAll store calls).1.of id =
      numbered id 0 (messagesFor id (past ++ (appendAll store calls).2)) := by
  induction calls generalizing store past with
  | nil => simpa [appendAll] using log id
  | cons call rest ih =>
    obtain ⟨batch, calls⟩ := call
    rw [appendAll]
    rcases appendSessionMessages_cases store batch.1 batch.2 calls with ⟨e, failed⟩ | done
    · rw [failed]
      exact ih log
    · rw [done, append_cons]
      refine ih fun id => ?_
      have last : messagesFor id (past ++ [batch]) =
          messagesFor id past ++ if batch.1 = id then batch.2 else [] := by
        simp [messagesFor]
      rw [last, numbered_append, ← log id, HistoryStore.of, filter_append, filter_numbered,
        nextSequence_numbered (log _)]
      split
      · rename_i own
        rw [own, Int.zero_add]
        rfl
      · rfl

/-- A session holds the messages of its successful batches, batch by batch, with the sequence
numbers from 0 on; the others leave nothing. -/
theorem session_log (sessions : List SessionID) (calls : List (Batch × AppendCalls))
    (id : SessionID) : let (store, batches) := appendAll ⟨sessions, []⟩ calls
    store.of id = numbered id 0 (messagesFor id batches) ∧
      (store.of id).map HistoryMessage.sequence =
        (List.range (messagesFor id batches).length).map fun i : Nat => (i : Int) := by
  have start : ∀ id, HistoryStore.of ⟨sessions, []⟩ id = numbered id 0 (messagesFor id []) :=
    fun _ => rfl
  have log := appendAll_log calls start id
  rw [nil_append] at log
  refine ⟨log, ?_⟩
  rw [log, numbered_sequence]
  simp

end NeonDoll.Persistence
