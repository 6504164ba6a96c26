import NeonDoll.Lib.GoMap
import NeonDoll.Lib.Text

/-!
# Interaction sessions

The session manager of `Core/Session/service.go` over the tables of
`Core/Persistence/sessions.go` and `session_participants.go`.  The manager runs one operation
at a time under its mutex.  The argument `ok` of an operation says whether the store answers; a
statement that fails changes nothing.  The times of the rows are left out.
-/

namespace NeonDoll.Session

open Lib Text

abbrev SessionID := Text

inductive OwnerKind where
  | body
  | gateway
  | other
  deriving DecidableEq

structure Owner where
  kind : OwnerKind
  instanceID : Text
  deriving DecidableEq

inductive Status where
  | active
  | closed
  deriving DecidableEq

structure InteractionSession where
  id : SessionID
  owner : Owner
  externalConversationRef : Text
  status : Status
  deriving DecidableEq

/-- The external identity from which a participant binding was derived. -/
structure ParticipantSource where
  sessionID : SessionID
  gatewayInstanceID : Text
  platform : Text
  subjectID : Text
  principalID : Text
  deriving DecidableEq

/-- The primary key of a source. -/
structure SourceKey where
  sessionID : SessionID
  gatewayInstanceID : Text
  platform : Text
  subjectID : Text
  deriving DecidableEq

def ParticipantSource.key (source : ParticipantSource) : SourceKey :=
  ⟨source.sessionID, source.gatewayInstanceID, source.platform, source.subjectID⟩

inductive SessionError where
  | notFound
  | invalidRequest
  | invalidTransition
  | conversationInUse
  | store
  deriving DecidableEq

/-- The tables of sessions, of participants and of the sources of participants. -/
structure Store where
  sessions : GoMap SessionID InteractionSession
  participants : List (SessionID × Text)
  sources : GoMap SourceKey Text

def Store.empty : Store := ⟨∅, [], ∅⟩

def validOwner (owner : Owner) : Bool :=
  (owner.kind = .body ∨ owner.kind = .gateway) ∧ trimSpace owner.instanceID ≠ []

/-! ## The lifecycle -/

/-- `LoadActiveSessionByConversation`; a unique index allows one such row. -/
def loadActiveSessionByConversation (s : Store) (owner : Owner) (ref : Text) :
    Option InteractionSession :=
  (s.sessions.entries.map Sigma.snd).find? fun session =>
    session.owner = owner ∧ session.externalConversationRef = ref ∧ session.status = .active

/-- An insertion is refused by the primary key or by the index on active conversations. -/
def createSession (s : Store) (session : InteractionSession) (ok : Bool) :
    Store × Option SessionError :=
  let active := if session.externalConversationRef = [] then none
    else loadActiveSessionByConversation s session.owner session.externalConversationRef
  if ok = true ∧ session.id ∉ s.sessions ∧ active = none then
    ({ s with sessions := s.sessions.insert session.id session }, none)
  else (s, some (if active.isSome then .conversationInUse else .store))

/-- `Create` with the identifier it has drawn. -/
def create (s : Store) (owner : Owner) (ref : Text) (id : SessionID) (ok : Bool) :
    Store × Except SessionError InteractionSession :=
  if validOwner owner then
    match createSession s ⟨id, owner, ref, .active⟩ ok with
    | (t, none) => (t, .ok ⟨id, owner, ref, .active⟩)
    | (t, some e) => (t, .error e)
  else (s, .error .invalidRequest)

def loadSession (s : Store) (id : SessionID) (ok : Bool) : Except SessionError InteractionSession :=
  if ok then
    match s.sessions.lookup id with
    | none => .error .notFound
    | some session => .ok session
  else .error .store

def lookup (s : Store) (id : SessionID) (ok : Bool) : Except SessionError InteractionSession :=
  if trimSpace id = [] then .error .invalidRequest else loadSession s id ok

/-- `ResumeSession` touches an active row and returns it. -/
def resumeSession (s : Store) (id : SessionID) (ok : Bool) :
    Except SessionError InteractionSession :=
  match loadSession s id ok with
  | .error e => .error e
  | .ok session => if session.status = .active then .ok session else .error .invalidTransition

/-- `Resume` by the identifier of the session. -/
def resume (s : Store) (id : SessionID) (ok : Bool) : Except SessionError InteractionSession :=
  if trimSpace id = [] then .error .invalidRequest else resumeSession s id ok

/-- `Resume` by the owner and the conversation. -/
def resumeConversation (s : Store) (owner : Owner) (ref : Text) (ok : Bool) :
    Except SessionError InteractionSession :=
  if validOwner owner = false ∨ ref = [] then .error .invalidRequest
  else if ok then
    match loadActiveSessionByConversation s owner ref with
    | none => .error .notFound
    | some session => resumeSession s session.id ok
  else .error .store

def close (s : Store) (id : SessionID) (ok : Bool) :
    Store × Except SessionError InteractionSession :=
  if trimSpace id = [] then (s, .error .invalidRequest)
  else
    match resumeSession s id ok with
    | .error e => (s, .error e)
    | .ok session =>
      let closed := { session with status := .closed }
      ({ s with sessions := s.sessions.insert id closed }, .ok closed)

/-! ## Participants -/

/-- `removeUnreferencedParticipant`. -/
def Store.removeUnreferenced (s : Store) (sessionID : SessionID) (principal : Text) : Store :=
  if s.sources.entries.any fun e => e.1.sessionID = sessionID ∧ e.2 = principal then s
  else { s with participants := s.participants.erase (sessionID, principal) }

/-- `BindResolvedParticipant`, one transaction; the session has to exist. -/
def bindResolvedParticipant (s : Store) (sessionID : SessionID) (source : ParticipantSource)
    (ok : Bool) : Store × Option SessionError :=
  if trimSpace sessionID = [] ∨ source.sessionID ≠ sessionID ∨
      trimSpace source.gatewayInstanceID = [] ∨ trimSpace source.platform = [] ∨
      trimSpace source.subjectID = [] ∨ trimSpace source.principalID = [] then
    (s, some .invalidRequest)
  else if ok = true ∧ sessionID ∈ s.sessions then
    let bound :=
      { s with
        participants := s.participants.insert (sessionID, source.principalID)
        sources := s.sources.insert source.key source.principalID }
    match s.sources.lookup source.key with
    | some previous =>
      if previous ≠ source.principalID then (bound.removeUnreferenced sessionID previous, none)
      else (bound, none)
    | none => (bound, none)
  else (s, some .store)

def listParticipants (s : Store) (sessionID : SessionID) (ok : Bool) :
    Except SessionError (List Text) :=
  if trimSpace sessionID = [] then .error .invalidRequest
  else if ok then
    .ok ((s.participants.filter fun binding => binding.1 = sessionID).map Prod.snd)
  else .error .store

def listParticipantSessions (s : Store) (principalID : Text) (ok : Bool) :
    Except SessionError (List SessionID) :=
  if trimSpace principalID = [] then .error .invalidRequest
  else if ok then
    .ok ((s.participants.filter fun binding => binding.2 = trimSpace principalID).map Prod.fst)
  else .error .store

/-- The text under which `ReconcileSessionParticipantSources` files a source. -/
def sourceText (gateway platform subject : Text) : Text :=
  gateway ++ '\x00' :: platform ++ '\x00' :: subject

/-- The principal configured for a text, the last one if there are several. -/
def allowed (configured : List ParticipantSource) (text : Text) : Text :=
  match configured.reverse.find? fun c =>
      sourceText c.gatewayInstanceID c.platform c.subjectID = text with
  | none => []
  | some c => c.principalID

/-- `ReconcileSessionParticipantSources`: sources that are no longer configured go, and then the
participants without a source. -/
def Store.reconcile (s : Store) (configured : List ParticipantSource) : Store :=
  let stale := (s.sources.entries.filter fun e =>
    allowed configured (sourceText e.1.gatewayInstanceID e.1.platform e.1.subjectID) ≠ e.2).map
      Sigma.fst
  let kept := { s with sources := s.sources.eraseAll stale }
  kept.participants.foldl (fun t binding => t.removeUnreferenced binding.1 binding.2) kept

/-! ## Sessions that stay as they are -/

@[simp] theorem removeUnreferenced_sessions (s : Store)
    (principal : Text) : (s.removeUnreferenced sessionID principal).sessions = s.sessions := by
  unfold Store.removeUnreferenced
  split <;> rfl

@[simp] theorem bindResolvedParticipant_sessions (s : Store) (sessionID : SessionID)
    (source : ParticipantSource) (ok : Bool) :
    (bindResolvedParticipant s sessionID source ok).1.sessions = s.sessions := by
  unfold bindResolvedParticipant
  split
  · rfl
  split
  · split
    · split
      · exact removeUnreferenced_sessions _ _
      · rfl
    · rfl
  · rfl

/-! ## Rows under their own identifiers -/

/-- Sessions are filed under their identifiers. -/
def Store.Keyed (s : Store) : Prop :=
  ∀ id session, s.sessions.lookup id = some session → session.id = id

theorem Store.keyed_empty : Store.empty.Keyed := nofun

variable {session : InteractionSession} {id : SessionID} {s : Store}

theorem keyed_insert (keyed : s.Keyed)
    (own : session.id = id) :
    ({ s with sessions := s.sessions.insert id session } : Store).Keyed := by
  intro id' session' found
  rcases GoMap.lookup_insert_some found with ⟨same, rfl⟩ | ⟨-, found⟩
  · rw [own, same]
  · exact keyed id' session' found

theorem keyed_of_sessions {s t : Store} (same : t.sessions = s.sessions) (keyed : s.Keyed) :
    t.Keyed := by
  intro id session found
  rw [same] at found
  exact keyed id session found

theorem createSession_cases : (∃ e, createSession s session ok = (s, some e)) ∨
      session.id ∉ s.sessions ∧ createSession s session ok =
        ({ s with sessions := s.sessions.insert session.id session }, none) := by
  unfold createSession
  generalize (if session.externalConversationRef = [] then none
    else loadActiveSessionByConversation s session.owner session.externalConversationRef) = active
  dsimp only
  split
  · rename_i inserted
    exact .inr ⟨inserted.2.1, rfl⟩
  · exact .inl ⟨_, rfl⟩

theorem create_cases (s : Store) (owner : Owner) (ref : Text) (id : SessionID) (ok : Bool) :
    (∃ e, create s owner ref id ok = (s, .error e)) ∨
      id ∉ s.sessions ∧ create s owner ref id ok =
        ({ s with sessions := s.sessions.insert id ⟨id, owner, ref, .active⟩ },
          .ok ⟨id, owner, ref, .active⟩) := by
  unfold create
  split
  · rcases createSession_cases with ⟨e, failed⟩ | ⟨fresh, made⟩
    · rw [failed]
      exact .inl ⟨e, rfl⟩
    · rw [made]
      exact .inr ⟨fresh, rfl⟩
  · exact .inl ⟨_, rfl⟩

theorem create_keyed (keyed : s.Keyed) (owner : Owner) (ref : Text) (id : SessionID)
    (ok : Bool) : (create s owner ref id ok).1.Keyed := by
  rcases create_cases s owner ref id ok with ⟨e, failed⟩ | ⟨_, created⟩
  · rw [failed]
    exact keyed
  · rw [created]
    exact keyed_insert keyed rfl

theorem resumeSession_found (resumed : resumeSession s id ok = .ok session) :
    s.sessions.lookup id = some session ∧ session.status = .active := by
  unfold resumeSession loadSession at resumed
  grind

theorem close_keyed (keyed : s.Keyed) (id : SessionID) (ok : Bool) : (close s id ok).1.Keyed := by
  unfold close
  split
  · exact keyed
  split
  · exact keyed
  · rename_i session resumed
    exact keyed_insert keyed (keyed id session (resumeSession_found resumed).1)

theorem reconcile_frame (s : Store) (configured : List ParticipantSource) :
    (s.reconcile configured).sessions = s.sessions ∧ (s.reconcile configured).sources =
      s.sources.eraseAll ((s.sources.entries.filter fun e => allowed configured
        (sourceText e.1.gatewayInstanceID e.1.platform e.1.subjectID) ≠ e.2).map Sigma.fst) := by
  have kept : ∀ (bindings : List (SessionID × Text)) (t : Store),
      (bindings.foldl (fun t binding => t.removeUnreferenced binding.1 binding.2) t).sessions =
          t.sessions ∧
        (bindings.foldl (fun t binding => t.removeUnreferenced binding.1 binding.2) t).sources =
          t.sources := by
    intro bindings
    induction bindings with
    | nil => exact fun _ => ⟨rfl, rfl⟩
    | cons binding rest ih =>
      intro t
      rw [List.foldl_cons, (ih _).1, (ih _).2, Store.removeUnreferenced]
      split
      all_goals exact ⟨rfl, rfl⟩
  exact kept _ _

theorem lookup_reconcile {s : Store} :
    (s.reconcile configured).sources.lookup key = some principal ↔
    s.sources.lookup key = some principal ∧
      allowed configured (sourceText key.gatewayInstanceID key.platform key.subjectID) =
        principal := by
  rw [(reconcile_frame s configured).2, GoMap.lookup_eraseAll]
  cases found : s.sources.lookup key with
  | none => simp
  | some other =>
    have row : ∀ p, (⟨key, p⟩ : Sigma fun _ : SourceKey => Text) ∈ s.sources.entries ↔
        other = p := by
      intro p
      rw [← AList.mem_lookup_iff, found, Option.mem_some_iff]
    simp [List.mem_map, row]
    grind

variable {owner : Owner}

/-- The session of a conversation is an active row of its owner. -/
theorem loadActiveSessionByConversation_found (keyed : s.Keyed)
    (loaded : loadActiveSessionByConversation s owner ref = some session) :
    s.sessions.lookup session.id = some session ∧ session.owner = owner ∧
      session.externalConversationRef = ref ∧ session.status = .active := by
  unfold loadActiveSessionByConversation at loaded
  have facts := List.find?_some loaded
  rw [decide_eq_true_eq] at facts
  obtain ⟨entry, member, rfl⟩ := List.mem_map.mp (List.mem_of_find?_eq_some loaded)
  have found : s.sessions.lookup entry.1 = some entry.2 :=
    AList.mem_lookup_iff.mpr member
  rw [keyed entry.1 entry.2 found]
  exact ⟨found, facts⟩

theorem resumeConversation_found (keyed : s.Keyed)
    (resumed : resumeConversation s owner ref ok = .ok session) :
    s.sessions.lookup session.id = some session ∧ session.owner = owner ∧
      session.externalConversationRef = ref ∧ session.status = .active := by
  unfold resumeConversation at resumed
  split at resumed
  · cases resumed
  split at resumed
  · split at resumed
    · cases resumed
    · rename_i loaded
      have facts := loadActiveSessionByConversation_found keyed loaded
      have same := (resumeSession_found resumed).1
      rw [facts.1] at same
      cases same
      exact facts
  · cases resumed

end NeonDoll.Session
