import NeonDoll.Daemon.MemoriesKept
import NeonDoll.Interaction.Turn

/-!
# Turns are stored as a whole

The history of the session is written before the memories of the Doll, in another transaction.  A
turn that fails in between leaves its half.  In the runs in which nothing fails after the history
is written, a turn is stored with both its parts or not at all, and the stores hold nothing else.
Turns of one session exclude each other in every run.
-/

namespace NeonDoll.Interaction.Turns

open Lib Text Transition KeyedLock Session Inference ContextBuilder DollState Persistence List
open Locks Daemon

/-! ## What is stored -/

def Event.turn : Event → TurnID
  | .appended t _ => t
  | .saved t _ _ => t

def writes (trace : List Event) (t : TurnID) : List Event := trace.filter fun e => e.turn = t

def Event.rows : Event → List HistoryMessage
  | .appended _ rows => rows
  | .saved _ _ _ => []

def Event.items (dollID : Text) : Event → List MemoryItem
  | .appended _ _ => []
  | .saved _ d items => if d = dollID then items else []

/-- The user and the assistant message of the turn, one after the other in its session. -/
def HistoryPair (t : TurnID) (sessionID : SessionID) (x : Exchange)
    (rows : List HistoryMessage) : Prop :=
  ∃ id id' sequence, rows =
    [⟨id, sessionID, t, sequence, .user, x.input⟩,
      ⟨id', sessionID, t, sequence + 1, .assistant, x.content⟩]

/-- The message of the human and the response of the Doll, of one interaction. -/
def MemoryPair (x : Exchange) (items : List MemoryItem) : Prop :=
  ∃ next stamp, items = Daemon.turnItems next (x.memory stamp)

def Request.Asks (request : Request) (dollID input : Text) : Prop :=
  request.event = some ⟨dollID, some input⟩

/-- The turn has stored its exchange: the pair of its session, under its id, and the pair of its
Doll; each of them once. -/
def StoredBoth (trace : List Event) (t : TurnID) (request : Request) (content : Text) : Prop :=
  ∃ x rows items, request.Asks x.dollID x.input ∧ x.content = content ∧
    HistoryPair t request.sessionID x rows ∧ MemoryPair x items ∧
    writes trace t = [.appended t rows, .saved t x.dollID items]

/-- A turn that has answered is stored as a whole; with an error, not at all. -/
def AtomicTurn (trace : List Event) (t : TurnID) (request : Request) : Reply → Prop
  | .message content => StoredBoth trace t request content
  | .refusal _ | .error _ => writes trace t = []

/-- The turn is between the acquisition of its session and its answer. -/
def TurnPhase.inside : TurnPhase → Bool
  | .waiting | .ended _ => false
  | _ => true

/-- After the history is written the Doll is available, can be loaded and can be saved. -/
def persists? (s : State) : Action → Bool
  | .giveUp _ => false
  | .reload t calls =>
    match s.turns.lookup t with
    | some ⟨_, .locked x⟩ => (loadDoll s.store x.dollID calls).isOk
    | _ => true
  | .save t stamp calls =>
    match s.turns.lookup t with
    | some ⟨_, .reloaded x state⟩ =>
      (saveDoll s.store (Daemon.appendTurn state (x.memory stamp)) calls).2.isNone
    | _ => true
  | _ => true

def persists (s : State) (a : Action) : Prop := persists? s a = true

instance (s : State) (a : Action) : Decidable (persists s a) :=
  inferInstanceAs (Decidable (persists? s a = true))

/-! ## The invariant -/

/-- What the turn must have of its session. -/
def TurnPhase.session? : TurnPhase → Option Phase
  | .waiting => some .waiting
  | .ended _ => none
  | _ => some .holding

/-- What the turn must have of its Doll. -/
def TurnPhase.doll? : TurnPhase → Option (Text × Phase)
  | .queued x => some (x.dollID, .waiting)
  | .locked x => some (x.dollID, .holding)
  | .reloaded x _ => some (x.dollID, .holding)
  | _ => none

/-- The first half is stored. -/
def StoredHistory (trace : List Event) (t : TurnID) (request : Request) (x : Exchange) : Prop :=
  request.Asks x.dollID x.input ∧
    ∃ rows, HistoryPair t request.sessionID x rows ∧ writes trace t = [.appended t rows]

/-- What the turn has written so far. -/
def Written (trace : List Event) (t : TurnID) (request : Request) : TurnPhase → Prop
  | .waiting => writes trace t = []
  | .admitted => writes trace t = []
  | .loaded dollID input => request.Asks dollID input ∧ writes trace t = []
  | .executed x => request.Asks x.dollID x.input ∧ writes trace t = []
  | .appended x => StoredHistory trace t request x
  | .queued x => StoredHistory trace t request x
  | .locked x => StoredHistory trace t request x
  | .reloaded x _ => StoredHistory trace t request x
  | .ended reply => AtomicTurn trace t request reply

structure Fits (s : State) (trace : List Event) (t : TurnID) (turn : Turn) : Prop where
  session : ∀ p, turn.phase.session? = some p →
    s.sessions.held t = some (turn.request.sessionID, p)
  doll : ∀ own, turn.phase.doll? = some own → s.dolls.held t = some own
  /-- A turn that is about to save has all stored memories of its Doll. -/
  copy : ∀ x state, turn.phase = .reloaded x state →
    state.identity.dollID = x.dollID ∧ (Daemon.items state).Perm (s.store.rows x.dollID)
  written : Written trace t turn.request turn.phase

structure Inv (history : HistoryStore) (store : DollStore) (trace : List Event) (s : State) :
    Prop where
  sessions : s.sessions.Sound
  dolls : s.dolls.Sound
  keyed : s.store.Keyed
  history : s.history.messages = history.messages ++ trace.flatMap Event.rows
  memories : ∀ d, (s.store.rows d).Perm (store.rows d ++ trace.flatMap (Event.items d))
  turns : ∀ t turn, s.turns.lookup t = some turn → Fits s trace t turn
  fresh : ∀ t, s.turns.lookup t = none → writes trace t = []

variable {history : HistoryStore} {store : DollStore} {trace events : List Event} {s s' : State}
  {t : TurnID} {turn : Turn} {request : Request} {phase : TurnPhase}

/-- What every step does: it moves one turn, with at most one operation on each kind of lock. -/
structure Moved (s : State) (t : TurnID) (turn : Turn) (s' : State) : Prop where
  turns : ∀ u, s'.turns.lookup u = if u = t then some turn else s.turns.lookup u
  sessions : s'.sessions = s.sessions ∨ ∃ op, s.sessions.step? t op = some s'.sessions
  dolls : s'.dolls = s.dolls ∨ ∃ op, s.dolls.step? t op = some s'.dolls

theorem sound_moved {K : Type} [DecidableEq K] {l m : Locks K TurnID} (sound : l.Sound)
    (moved : m = l ∨ ∃ op, l.step? t op = some m) : m.Sound := by
  grind [sound.step]

variable {u : TurnID}

theorem held_moved {K : Type} [DecidableEq K] {l m : Locks K TurnID}
    (moved : m = l ∨ ∃ op, l.step? t op = some m) (apart : u ≠ t) : m.held u = l.held u := by
  rcases moved with rfl | ⟨_, stepped⟩
  · rfl
  · exact held_step_other stepped apart

theorem writes_append_other (own : ∀ e ∈ events, e.turn = t) (apart : u ≠ t) :
    writes (trace ++ events) u = writes trace u := by
  grind [filter_eq_nil_iff, writes]

theorem writes_append_own (own : ∀ e ∈ events, e.turn = t) :
    writes (trace ++ events) t = writes trace t ++ events := by
  grind [filter_eq_self, writes]

theorem written_congr (same : writes later u = writes trace u)
    (written : Written trace u request phase) : Written later u request phase := by
  cases phase with
  | ended reply =>
    cases reply with
    | message content =>
      simp only [Written, AtomicTurn, StoredBoth, same] at written ⊢
      exact written
    | refusal text | error e => exact same.trans written
  | _ =>
    simp only [Written, StoredHistory, same] at written ⊢
    exact written

/-- The invariant after a step, from what the step does to the moved turn and to the stores. -/
theorem Inv.moved (inv : Inv history store trace s) (moved : Moved s t turn s')
    (own : ∀ e ∈ events, e.turn = t) (keyed : s'.store.Keyed)
    (recorded : s'.history.messages = s.history.messages ++ events.flatMap Event.rows)
    (remembered : ∀ d, (s'.store.rows d).Perm
      (s.store.rows d ++ events.flatMap (Event.items d)))
    (others : ∀ u turn' x state, u ≠ t → s.turns.lookup u = some turn' →
      turn'.phase = .reloaded x state → s'.store.rows x.dollID = s.store.rows x.dollID)
    (fits : Fits s' (trace ++ events) t turn) : Inv history store (trace ++ events) s' where
  sessions := sound_moved inv.sessions moved.sessions
  dolls := sound_moved inv.dolls moved.dolls
  keyed := keyed
  history := by
    rw [recorded, inv.history, flatMap_append, append_assoc]
  memories := by grind [Inv]
  turns := by
    intro u turn' found
    rw [moved.turns] at found
    split at found
    · grind
    · rename_i apart
      have before := inv.turns u turn' found
      refine ⟨fun p need => ?_, fun doll need => ?_, fun x state eq => ?_, ?_⟩
      · rw [held_moved moved.sessions apart]
        exact before.session p need
      · rw [held_moved moved.dolls apart]
        exact before.doll doll need
      · rw [others u turn' x state apart found eq]
        exact before.copy x state eq
      · exact written_congr (writes_append_other own apart) before.written
  fresh := by
    intro u absent
    rw [moved.turns] at absent
    split at absent
    · cases absent
    · rename_i apart
      rw [writes_append_other own apart]
      exact inv.fresh u absent

theorem Inv.quiet (inv : Inv history store trace s) (moved : Moved s t turn s')
    (kept : s'.history = s.history) (stored : s'.store = s.store)
    (fits : Fits s' trace t turn) : Inv history store (trace ++ []) s' := by
  grind [Inv, Inv.moved]

/-! ## Steps -/

theorem lookup_at (u : TurnID) : (s.at_ t request phase).turns.lookup u =
      if u = t then some ⟨request, phase⟩ else s.turns.lookup u :=
  GoMap.lookup_insert_ite _ _ _ _

theorem moved_at : Moved s t ⟨request, phase⟩ (s.at_ t request phase) :=
  ⟨lookup_at, .inl rfl, .inl rfl⟩

theorem moved_session
    (locked : s.sessions.step? t op = some l) (request : Request) (phase : TurnPhase) :
    Moved s t ⟨request, phase⟩ { s.at_ t request phase with sessions := l } :=
  ⟨lookup_at, .inr ⟨op, locked⟩, .inl rfl⟩

theorem moved_doll (locked : s.dolls.step? t op = some l) :
    Moved s t ⟨request, phase⟩ { s.at_ t request phase with dolls := l } :=
  ⟨lookup_at, .inl rfl, .inr ⟨op, locked⟩⟩

theorem lockSession?_quiet (stepped : (s.lockSession? t op).map Turns.quiet = some (s', events)) :
    ∃ l, s.sessions.step? t op = some l ∧ s' = { s with sessions := l } ∧ events = [] := by
  rw [State.lockSession?, Option.map_map] at stepped
  obtain ⟨l, locked, eq⟩ := Option.map_eq_some_iff.mp stepped
  cases eq
  exact ⟨l, locked, rfl, rfl⟩

theorem lockDoll?_quiet (stepped : (s.lockDoll? t op).map Turns.quiet = some (s', events)) :
    ∃ l, s.dolls.step? t op = some l ∧ s' = { s with dolls := l } ∧ events = [] := by
  rw [State.lockDoll?, Option.map_map] at stepped
  obtain ⟨l, locked, eq⟩ := Option.map_eq_some_iff.mp stepped
  cases eq
  exact ⟨l, locked, rfl, rfl⟩

variable {reply : Reply}

theorem fits_failed (failed : AtomicTurn trace t request reply) :
    Fits s trace t ⟨request, .ended reply⟩ :=
  ⟨nofun, nofun, nofun, failed⟩

/-- A turn inside its session that does not deal with its Doll. -/
theorem fits_inside (session : s.sessions.held t = some (request.sessionID, .holding))
    (inside : phase.session? = some .holding) (idle : phase.doll? = none)
    (written : Written trace t request phase) : Fits s trace t ⟨request, phase⟩ := by
  refine ⟨fun p need => ?_, fun own need => ?_, fun x state eq => ?_, written⟩
  · grind
  · rw [idle] at need
    cases need
  · have busy : phase = .reloaded x state := eq
    rw [busy] at idle
    cases idle

variable {modelValid : Bool}

theorem arrive_inv (inv : Inv history store trace s)
    (stepped : step? modelValid s (.arrive t request) = some (s', events)) :
    Inv history store (trace ++ events) s' := by
  rw [step?] at stepped
  split at stepped
  · cases stepped
  rename_i absent
  have none_ := inv.fresh t absent
  split at stepped
  · cases stepped
  split at stepped
  · cases stepped
    exact inv.quiet (moved_at) rfl rfl (fits_failed none_)
  obtain ⟨l, locked, rfl, rfl⟩ := lockSession?_quiet stepped
  refine inv.quiet (moved_session (s := s) locked request .waiting) rfl rfl
    ⟨?_, nofun, nofun, none_⟩
  intro p need
  cases need
  exact held_request locked

theorem begin_written (none_ : writes trace t = []) :
    Written trace t request (beginPhase modelValid dolls request calls) ∧
      (∀ p, (beginPhase modelValid dolls request calls).session? = some p → p = .holding) ∧
      (beginPhase modelValid dolls request calls).doll? = none := by
  rw [beginPhase]
  cases asked : request.event with
  | none => exact ⟨none_, nofun, rfl⟩
  | some event =>
    dsimp only
    split
    · exact ⟨none_, nofun, rfl⟩
    split
    · exact ⟨none_, nofun, rfl⟩
    rename_i _ text
    split
    · exact ⟨none_, nofun, rfl⟩
    · exact ⟨none_, nofun, rfl⟩
    split
    · refine ⟨⟨?_, none_⟩, fun p eq => (Option.some.inj eq).symm, rfl⟩
      rw [Request.Asks, asked]
      rw [Incoming.messageText] at text
      split at text
      · cases text
      rename_i _ given
      split at text
      · cases text
      · cases text
        rw [← given]
    · exact ⟨none_, nofun, rfl⟩

variable {calls : LoadCalls}

section

variable (inv : Inv history store trace s)

include inv

theorem begin_inv
    (found : s.turns.lookup t = some ⟨request, .admitted⟩) : Inv history store (trace ++ [])
      (s.at_ t request (beginPhase modelValid s.store request calls)) := by
  have before := inv.turns t _ found
  obtain ⟨written, inside, idle⟩ :=
    begin_written before.written
  refine inv.quiet (moved_at) rfl rfl ⟨?_, ?_, ?_, written⟩
  · intro p need
    rw [inside p need]
    exact before.session _ rfl
  · grind
  · intro x state eq
    rw [show beginPhase modelValid s.store request calls = .reloaded x state from eq] at idle
    cases idle

theorem execute_inv
    (found : s.turns.lookup t = some ⟨request, .loaded dollID input⟩)
    (stepped : step? modelValid s (.execute t result) = some (s', events)) :
    Inv history store (trace ++ events) s' := by
  have before := inv.turns t _ found
  obtain ⟨asked, none_⟩ := before.written
  rw [step?, found] at stepped
  cases result with
  | done content =>
    cases stepped
    exact inv.quiet (moved_at) rfl rfl
      (fits_inside (before.session _ rfl) rfl rfl ⟨asked, none_⟩)
  | contextFailed | inferenceFailed =>
    cases stepped
    exact inv.quiet (moved_at) rfl rfl (fits_failed none_)

variable {x : Exchange}

theorem append_inv (ids : Text × Text)
    (calls : AppendCalls) (found : s.turns.lookup t = some ⟨request, .executed x⟩) :
    Inv history store (trace ++ (appendStep s t request x ids calls).2)
      (appendStep s t request x ids calls).1 := by
  have before := inv.turns t _ found
  obtain ⟨asked, none_⟩ := before.written
  rw [appendStep]
  rcases appendSessionMessages_cases s.history request.sessionID (x.messages t ids) calls with
    ⟨e, failed⟩ | done
  · rw [failed]
    exact inv.quiet (moved_at) rfl rfl (fits_failed none_)
  rw [done]
  have own : ∀ e ∈ [Event.appended t (numbered request.sessionID
      (s.history.nextSequence request.sessionID) (x.messages t ids))], e.turn = t := by
    intro e member
    rw [mem_singleton.mp member]
    rfl
  have moved : Moved s t ⟨request, .appended x⟩ { s.at_ t request (.appended x) with
      history := { s.history with
        messages := s.history.messages ++ numbered request.sessionID
          (s.history.nextSequence request.sessionID) (x.messages t ids) } } :=
    ⟨lookup_at, .inl rfl, .inl rfl⟩
  refine inv.moved moved own inv.keyed ?_ ?_ ?_ ?_
  · rw [flatMap_singleton]
    rfl
  · intro d
    rw [flatMap_singleton, Event.items, append_nil]
    exact .refl _
  · exact fun u turn' x' state _ _ _ => rfl
  have pair : HistoryPair t request.sessionID x (numbered request.sessionID
      (s.history.nextSequence request.sessionID) (x.messages t ids)) :=
    ⟨ids.1, ids.2, s.history.nextSequence request.sessionID, rfl⟩
  refine fits_inside (before.session _ rfl) rfl rfl ⟨asked, _, pair, ?_⟩
  rw [writes_append_own own, none_]
  rfl

theorem queue_inv (found : s.turns.lookup t = some ⟨request, .appended x⟩)
    (locked : s.dolls.step? t (.request x.dollID) = some l) :
    Inv history store (trace ++ []) { s.at_ t request (.queued x) with dolls := l } := by
  have before := inv.turns t _ found
  refine inv.quiet (moved_doll locked) rfl rfl ⟨?_, ?_, nofun, before.written⟩
  · intro p need
    cases need
    exact before.session _ rfl
  · intro own need
    cases need
    exact held_request locked

theorem lock_inv (found : s.turns.lookup t = some ⟨request, .queued x⟩)
    (locked : s.dolls.step? t .take = some l) :
    Inv history store (trace ++ []) { s.at_ t request (.locked x) with dolls := l } := by
  have before := inv.turns t _ found
  refine inv.quiet (moved_doll locked) rfl rfl ⟨?_, ?_, nofun, before.written⟩
  · intro p need
    cases need
    exact before.session _ rfl
  · intro own need
    cases need
    exact held_take (before.doll _ rfl) locked

variable {state : DollState}

theorem reload_inv (found : s.turns.lookup t = some ⟨request, .locked x⟩)
    (read : loadDoll s.store x.dollID calls = .ok state) :
    Inv history store (trace ++ []) (s.at_ t request (.reloaded x state)) := by
  have before := inv.turns t _ found
  obtain ⟨memories, identity⟩ := loadDoll_ok read
  refine inv.quiet (moved_at) rfl rfl ⟨?_, ?_, ?_, before.written⟩
  · intro p need
    cases need
    exact before.session _ rfl
  · intro own need
    cases need
    exact before.doll _ rfl
  intro x' state' eq
  cases eq
  refine ⟨identity inv.keyed, ?_⟩
  rw [items, memories]
  exact loadedMemories_perm s.store x.dollID

theorem save_inv (calls : SaveCalls) (found : s.turns.lookup t = some ⟨request, .reloaded x state⟩)
    (works : (saveDoll s.store (Daemon.appendTurn state (x.memory stamp)) calls).2 = none) :
    Inv history store (trace ++ (saveStep s t request x state stamp calls).2)
      (saveStep s t request x state stamp calls).1 := by
  have before := inv.turns t _ found
  obtain ⟨identity, copied⟩ := before.copy x state rfl
  obtain ⟨asked, rows, pair, half⟩ := before.written
  rw [saveStep]
  rcases saveDoll_cases s.store (appendTurn state (x.memory stamp)) calls with
    ⟨e, failed⟩ | ⟨next, done, _, stored⟩
  · rw [failed] at works
    cases works
  have same : (appendTurn state (x.memory stamp)).identity.dollID = x.dollID := identity
  rw [done]
  rw [same]
  rw [same] at stored
  have own : ∀ e ∈ [Event.saved t x.dollID (turnItems
      (nextSequence (Daemon.items state)) (x.memory stamp))], e.turn = t := by
    intro e member
    rw [mem_singleton.mp member]
    rfl
  have moved : Moved s t ⟨request, .ended (.message x.content)⟩
      { s.at_ t request (.ended (.message x.content)) with store := next } :=
    ⟨lookup_at, .inl rfl, .inl rfl⟩
  refine inv.moved moved own (saveDoll_keyed inv.keyed done) ?_ ?_ ?_ ?_
  · rw [flatMap_singleton, Event.rows, append_nil]
    rfl
  · intro d
    rw [stored, flatMap_singleton, Event.items]
    by_cases here : d = x.dollID
    · rw [if_pos here, if_pos here.symm, here]
      exact copied.append_right _
    · rw [if_neg here, if_neg (Ne.symm here), append_nil]
  · intro u turn' x' state' apart other eq
    rw [stored, if_neg]
    intro shared
    have theirs := (inv.turns u turn' other).doll (x'.dollID, .holding) (by rw [eq]; rfl)
    rw [shared] at theirs
    exact apart (inv.dolls.exclusive theirs (before.doll _ rfl))
  · have items : MemoryPair x (turnItems (nextSequence (Daemon.items state))
        (x.memory stamp)) := ⟨_, stamp, rfl⟩
    refine fits_failed ⟨x, rows, _, asked, rfl, pair, items, ?_⟩
    rw [writes_append_own own, half]
    rfl

/-! ## Runs -/

theorem release_inv (found : s.turns.lookup t = some ⟨request, .ended reply⟩)
    (sessions : s'.sessions = s.sessions ∨ ∃ op, s.sessions.step? t op = some s'.sessions)
    (dolls : s'.dolls = s.dolls ∨ ∃ op, s.dolls.step? t op = some s'.dolls)
    (rest : s'.turns = s.turns ∧ s'.history = s.history ∧ s'.store = s.store) :
    Inv history store (trace ++ []) s' := by
  obtain ⟨turns, kept, stored⟩ := rest
  have moved : Moved s t ⟨request, .ended reply⟩ s' := by grind [Moved]
  exact inv.quiet moved kept stored (fits_failed (inv.turns t _ found).written)

theorem step_inv (guarded : persists s a) (stepped : step? modelValid s a = some (s', events)) :
    Inv history store (trace ++ events) s' := by
  cases a with
  | arrive t request => exact arrive_inv inv stepped
  | accept t =>
    rw [step?] at stepped
    split at stepped
    · rename_i request found
      have before := inv.turns t _ found
      obtain ⟨l, locked, rfl, rfl⟩ := lockSession?_quiet stepped
      exact inv.quiet (moved_session (s := s) locked request .admitted) rfl rfl
        (fits_inside (held_take (before.session _ rfl) locked) rfl rfl before.written)
    · cases stepped
  | abandon t =>
    rw [step?] at stepped
    split at stepped
    · rename_i request found
      have before := inv.turns t _ found
      obtain ⟨l, locked, rfl, rfl⟩ := lockSession?_quiet stepped
      exact inv.quiet (moved_session (s := s) locked request _) rfl rfl
        (fits_failed before.written)
    · cases stepped
  | begin t calls =>
    rw [step?] at stepped
    split at stepped
    · rename_i request found
      cases stepped
      exact begin_inv inv found
    · cases stepped
  | execute t result => grind [execute_inv, step?]
  | append t ids calls => grind [append_inv, step?]
  | queue t =>
    rw [step?] at stepped
    split at stepped
    · rename_i request x found
      obtain ⟨l, locked, rfl, rfl⟩ := lockDoll?_quiet stepped
      exact queue_inv inv found locked
    · cases stepped
  | lock t =>
    rw [step?] at stepped
    split at stepped
    · rename_i request x found
      obtain ⟨l, locked, rfl, rfl⟩ := lockDoll?_quiet stepped
      exact lock_inv inv found locked
    · cases stepped
  | giveUp t => cases guarded
  | reload t calls =>
    rw [step?] at stepped
    split at stepped
    · rename_i _ x found
      rw [persists, persists?, found] at guarded
      dsimp only at guarded
      cases read : loadDoll s.store x.dollID calls with
      | error e =>
        rw [read] at guarded
        cases guarded
      | ok state =>
        rw [read] at stepped
        cases stepped
        exact reload_inv inv found read
    · cases stepped
  | save t stamp calls =>
    grind [persists, save_inv, Option.isNone_iff_eq_none, step?, persists?]
  | unlockDoll t | dropDoll t =>
    rw [step?] at stepped
    split at stepped
    · grind [lockDoll?_quiet, release_inv]
    · cases stepped
  | unlockSession t =>
    grind [lockSession?_quiet, release_inv, step?]
  | dropSession t =>
    rw [step?] at stepped
    split at stepped
    · grind [lockSession?_quiet, release_inv]
    · cases stepped

end

theorem inside_session (inside : phase.inside = true) :
    phase.session? = some .holding := by
  cases phase with
  | waiting | ended reply => cases inside
  | _ => rfl

/-- In every run in which nothing fails after the history is written: every turn that has answered
is stored as a whole or not at all, the stores hold what was there and the stored turns, and two
turns inside one session are the same. -/
theorem turns_atomic (modelValid : Bool) (history : HistoryStore) (db : Daemon.Database)
    (run : (system modelValid history db).Run persists (system modelValid history db).init trace
      s) : (∀ t request reply, s.turns.lookup t = some ⟨request, .ended reply⟩ →
      AtomicTurn trace t request reply) ∧
    (s.history.messages = history.messages ++ trace.flatMap Event.rows ∧
      ∀ d, (s.store.rows d).Perm (db.store.rows d ++ trace.flatMap (Event.items d))) ∧
    ∀ t u turn turn', s.turns.lookup t = some turn → s.turns.lookup u = some turn' →
      turn.phase.inside = true → turn'.phase.inside = true →
      turn.request.sessionID = turn'.request.sessionID → t = u := by
  have start : Inv history db.store [] (system modelValid history db).init :=
    ⟨sound_empty, sound_empty, db.keyed, (append_nil _).symm,
      fun d => by rw [flatMap_nil, append_nil]; exact .refl _, nofun, fun _ _ => rfl⟩
  have inv : Inv history db.store trace s :=
    run.history start fun inv guarded stepped => step_inv inv guarded stepped
  refine ⟨fun t request reply found => (inv.turns t _ found).written,
    ⟨inv.history, inv.memories⟩, ?_⟩
  intro t u turn turn' first second inside inside' same
  have mine := (inv.turns t turn first).session _ (inside_session inside)
  have theirs := (inv.turns u turn' second).session _ (inside_session inside')
  rw [same] at mine
  exact inv.sessions.exclusive mine theirs

/-! ## A turn that is stored by half -/

def sampleDatabase : Daemon.Database where
  store := (saveDoll Daemon.emptyDatabase.store (Daemon.createdDoll ['d']) Daemon.saveWorks).1
  keyed :=
    have saved : saveDoll Daemon.emptyDatabase.store (Daemon.createdDoll ['d']) Daemon.saveWorks =
      (_, _) := rfl
    saveDoll_keyed Daemon.emptyDatabase.keyed saved

def sampleHistory : HistoryStore := ⟨[['s']], []⟩

def appendWorks : AppendCalls := ⟨true, true, true, true, true, 2, true⟩

def sampleTurn (t : TurnID) : List Action :=
  [.arrive t ⟨['s'], some ⟨['d'], some ['q']⟩⟩, .accept t, .begin t Daemon.loadWorks,
    .execute t (.done ['a']), .append t (t ++ ['1'], t ++ ['2']) appendWorks, .queue t, .lock t,
    .reload t Daemon.loadWorks]

/-- The save of the memories fails: the caller gets an error response, and the history holds the
turn. -/
theorem failed_save_keeps_history : ∃ trace s, (system true sampleHistory sampleDatabase).Run free
        (system true sampleHistory sampleDatabase).init trace s ∧
      ∃ request, s.turns.lookup ['t'] =
          some ⟨request, .ended (.refusal "failed to persist interaction".toList)⟩ ∧
        s.history.messages.length = 2 ∧
        ¬AtomicTurn trace ['t'] request (.refusal "failed to persist interaction".toList) := by
  have replayed : (system true sampleHistory sampleDatabase).replays? free
      (sampleTurn ['t'] ++
        [.save ['t'] ⟨[], [], [], [], []⟩ { saveWorks with commit := false }])
      (fun trace s => decide (s.turns.lookup ['t'] = some ⟨⟨['s'], some ⟨['d'], some ['q']⟩⟩,
          .ended (.refusal "failed to persist interaction".toList)⟩ ∧
        s.history.messages.length = 2 ∧ writes trace ['t'] ≠ [])) = true := by
    decide +kernel
  obtain ⟨trace, s, run, found⟩ := System.replays?_run replayed
  obtain ⟨ended, stored, wrote⟩ := of_decide_eq_true found
  exact ⟨trace, s, run, _, ended, stored, wrote⟩

/-- Two turns of one session, one after the other. -/
theorem turns_atomic_sample : ∃ trace s, (system true sampleHistory sampleDatabase).Run persists
        (system true sampleHistory sampleDatabase).init trace s ∧
      (s.history.messages.length = 4 ∧ (s.store.rows ['d']).length = 4) ∧
      ∃ request, AtomicTurn trace ['u'] request (.message ['a']) := by
  have replayed : (system true sampleHistory sampleDatabase).replays? persists
      (sampleTurn ['t'] ++ [.save ['t'] ⟨[], [], [], [], []⟩ saveWorks,
          .unlockDoll ['t'], .dropDoll ['t'], .unlockSession ['t'], .dropSession ['t']] ++
        sampleTurn ['u'] ++ [.save ['u'] ⟨[], [], [], [], []⟩ saveWorks])
      (fun _ s => decide (s.turns.lookup ['u'] = some ⟨⟨['s'], some ⟨['d'], some ['q']⟩⟩,
          .ended (.message ['a'])⟩ ∧
        s.history.messages.length = 4 ∧ (s.store.rows ['d']).length = 4)) = true := by
    decide +kernel
  obtain ⟨trace, s, run, found⟩ := System.replays?_run replayed
  obtain ⟨ended, stored⟩ := of_decide_eq_true found
  exact ⟨trace, s, run, stored, _,
    (turns_atomic true sampleHistory sampleDatabase run).1 ['u'] _ _ ended⟩

end NeonDoll.Interaction.Turns
