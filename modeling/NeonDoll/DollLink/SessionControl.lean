import NeonDoll.Lib.GoMap
import NeonDoll.Lib.Text
import NeonDoll.Lib.Transition

/-!
# Session-control requests

What `Server.readLoop` does with a session-control request of an authenticated Body.  The answer
of the handler comes with the request, and a write that fails ends the loop.
-/

namespace NeonDoll.DollLink.SessionControl

open Lib Transition List AList

structure Request where
  version : Int
  type : Text
  id : Text
  externalConversationRef : Text
  sessionID : Text
  deriving DecidableEq

variable {A : Type}

/-- An answer of the handler, or `sessionControlError` with the code and text of a conflict. -/
inductive Response (A : Type) where
  | answer (value : A)
  | requestIDConflict (request : Request)

structure CachedSessionResponse (A : Type) where
  request : Request
  response : A

structure Message (A : Type) extends CachedSessionResponse A where
  /-- The session that the handler selects. -/
  selected : Text
  written : Bool

structure ClientConn (A : Type) where
  selectedSessionID : Text := []
  sessionResponses : GoMap Text (CachedSessionResponse A) := ∅
  sessionResponseIDs : List Text := []
  /-- The calls of the handler so far. -/
  calls : List (CachedSessionResponse A) := []
  ended : Bool := false

def sessionResponseCacheSize : Nat := 128

namespace ClientConn

def cached? (c : ClientConn A) (id : Text) : Option (CachedSessionResponse A) :=
  if id = [] then none else c.sessionResponses.lookup id

/-- The call of the handler and the entry that the cache makes of it. -/
def call (c : ClientConn A) (made : CachedSessionResponse A) : ClientConn A :=
  let c := { c with calls := c.calls ++ [made] }
  let responses := c.sessionResponses.insert made.request.id made
  let ids := c.sessionResponseIDs ++ [made.request.id]
  if made.request.id = [] then c
  else if sessionResponseCacheSize < ids.length then
    { c with sessionResponses := responses.erase (ids.headD []), sessionResponseIDs := ids.tail }
  else { c with sessionResponses := responses, sessionResponseIDs := ids }

def replay (c : ClientConn A) (m : Message A) (cached : CachedSessionResponse A) :
    ClientConn A × List (Response A) :=
  let response := if cached.request = m.request then .answer cached.response
    else .requestIDConflict m.request
  ({ c with ended := !m.written }, if m.written then [response] else [])

def receive (c : ClientConn A) (m : Message A) : ClientConn A × List (Response A) :=
  match c.cached? m.request.id with
  | some cached => c.replay m cached
  | none =>
    ({ c.call m.toCachedSessionResponse with
        selectedSessionID := if m.written then m.selected else c.selectedSessionID
        ended := !m.written }, if m.written then [.answer m.response] else [])

end ClientConn

def system (A : Type) : System (ClientConn A) (Message A) (Response A) where
  init := {}
  step? c m := if c.ended then none else some (c.receive m)

/-- The ids given to the handler, the empty one apart. -/
def handledIDs (calls : List (CachedSessionResponse A)) : List Text :=
  (calls.map (·.request.id)).filter (· ≠ [])

/-- The last call of the handler with an id. -/
def lastCall (calls : List (CachedSessionResponse A)) (id : Text) :
    Option (CachedSessionResponse A) :=
  calls.reverse.find? (·.request.id = id)

/-- No id comes twice within 129 successive ones. -/
def Spaced (ids : List Text) : Prop :=
  ∀ window, window <:+: ids → window.length ≤ sessionResponseCacheSize + 1 → window.Nodup

/-- The cache holds the last 128 ids given to the handler, each with the last call made for it. -/
structure Protected (calls : List (CachedSessionResponse A)) (ids : List Text)
    (responses : GoMap Text (CachedSessionResponse A)) : Prop where
  spaced : Spaced (handledIDs calls)
  recent : ids <:+ handledIDs calls
  size : ids.length = min sessionResponseCacheSize (handledIDs calls).length
  keys : ∀ id, id ∈ responses ↔ id ∈ ids
  stored : ∀ id cached, responses.lookup id = some cached → lastCall calls id = some cached

def ClientConn.Protects (c : ClientConn A) : Prop :=
  Protected c.calls c.sessionResponseIDs c.sessionResponses

variable {c : ClientConn A} {ids recent : List Text} {id : Text} {made : CachedSessionResponse A}

theorem Spaced.concat (spaced : Spaced ids) (suffix : recent <:+ ids)
    (size : recent.length = min sessionResponseCacheSize ids.length) (fresh : id ∉ recent) :
    Spaced (ids ++ [id]) := by
  intro window part short
  rcases infix_concat_iff.mp part with last | earlier
  · rcases suffix_concat_iff.mp last with rfl | ⟨before, rfl, tail⟩
    · exact nodup_nil
    · rw [length_append, length_singleton] at short
      -- what stands before the new id in the window is among the recent ids
      have known : before <:+ recent :=
        suffix_of_suffix_length_le tail suffix (by have := tail.length_le; omega)
      have distinct : before.Nodup := spaced before tail.isInfix (by omega)
      grind
  · exact spaced window earlier short

theorem lastCall_concat (calls : List (CachedSessionResponse A)) :
    lastCall (calls ++ [made]) id =
      if made.request.id = id then some made else lastCall calls id := by
  simp only [lastCall, reverse_append, reverse_singleton, singleton_append, find?_cons]
  split <;> simp_all

theorem Protected.named {calls : List (CachedSessionResponse A)}
    (ok : Protected calls ids responses) (known : id ∈ ids) : id ≠ [] := by
  have handled := ok.recent.subset known
  simp only [handledIDs, mem_filter, decide_eq_true_eq] at handled
  exact handled.2

theorem call_protects (ok : c.Protects) (fresh : c.cached? made.request.id = none) :
    (c.call made).Protects := by
  have entries : ∀ id, id ∈ c.sessionResponseIDs → id ≠ [] := fun _ => Protected.named ok
  obtain ⟨spaced, recent, size, keys, stored⟩ := ok
  rw [ClientConn.call, ClientConn.Protects]
  split
  · rename_i empty
    have log : handledIDs (c.calls ++ [made]) = handledIDs c.calls := by
      simp [handledIDs, empty]
    refine ⟨by rwa [log], by rwa [log], by rwa [log], keys, fun id cached found => ?_⟩
    have known : id ∈ c.sessionResponseIDs :=
      (keys id).mp ((GoMap.mem_iff_lookup _ _).mpr ⟨cached, found⟩)
    rw [lastCall_concat, if_neg fun same => entries id known (same.symm.trans empty)]
    exact stored id cached found
  rename_i named
  have log : handledIDs (c.calls ++ [made]) = handledIDs c.calls ++ [made.request.id] := by
    simp [handledIDs, named]
  have unknown : made.request.id ∉ c.sessionResponseIDs := by
    grind [GoMap.mem_iff_lookup, ClientConn.cached?]
  have wide : Spaced (handledIDs (c.calls ++ [made])) :=
    log ▸ spaced.concat recent size unknown
  have grown : c.sessionResponseIDs ++ [made.request.id] <:+ handledIDs (c.calls ++ [made]) := by
    obtain ⟨older, eq⟩ := recent
    exact ⟨older, by rw [log, ← eq, append_assoc]⟩
  have distinct := wide _ grown.isInfix (by grind)
  have entered : ∀ id cached, (c.sessionResponses.insert made.request.id made).lookup id =
      some cached → lastCall (c.calls ++ [made]) id = some cached := by
    intro id cached found
    rw [lastCall_concat]
    rcases GoMap.lookup_insert_some found with ⟨rfl, rfl⟩ | ⟨differ, earlier⟩
    · exact if_pos rfl
    · rw [if_neg (Ne.symm differ)]
      exact stored id cached earlier
  split
  · -- the oldest id leaves the list and the map
    refine ⟨wide, (tail_suffix _).trans grown, by grind, fun id => ?_,
      fun id cached found => entered id cached (GoMap.lookup_erase_some found).2⟩
    rw [mem_erase, mem_insert, keys]
    cases ids : c.sessionResponseIDs <;> grind
  · refine ⟨wide, grown, by grind, fun id => ?_, entered⟩
    rw [mem_insert, keys, mem_append, mem_singleton, or_comm]

theorem receive_protects (ok : c.Protects) : (c.receive m).1.Protects := by
  rw [ClientConn.receive]
  split
  · exact ok
  · rename_i fresh
    exact call_protects ok fresh

/-- After any messages the cache holds the last 128 ids that the handler was given, and no id was
given to it twice among 129.  A request with a cached id is answered from the last call made for
that id. -/
theorem responses_replayed (run : (system A).Run free (system A).init trace c) :
    c.Protects ∧ c.sessionResponseIDs.Nodup ∧
      ∀ m : Message A, m.request.id ∈ c.sessionResponseIDs →
        ∃ cached, lastCall c.calls m.request.id = some cached ∧
          c.receive m = c.replay m cached := by
  have start : (system A).init.Protects :=
    ⟨by simp [system, handledIDs, Spaced], nil_suffix, rfl, by simp [system], nofun⟩
  have ok : c.Protects := by
    refine run.invariant start ?_
    intro before after m written kept _ stepped
    simp only [system] at stepped
    split at stepped
    · cases stepped
    · have taken : (before.receive m).1 = after := congrArg Prod.fst (Option.some.inj stepped)
      rw [← taken]
      exact receive_protects kept
  refine ⟨ok, ok.spaced _ ok.recent.isInfix (by grind [ok.size]), fun m known => ?_⟩
  obtain ⟨cached, found⟩ := (GoMap.mem_iff_lookup _ _).mp ((ok.keys _).mpr known)
  refine ⟨cached, ok.stored _ cached found, ?_⟩
  rw [ClientConn.receive, ClientConn.cached?, if_neg (Protected.named ok known), found]

/-- A message that is written, with the answer that the handler has for it. -/
def message (id : Text) (answer : Nat) : Message Nat := ⟨⟨⟨1, [], id, [], []⟩, answer⟩, [], true⟩

/-- The request `a` again, and other content under its id. -/
def conflicting : Message Nat := ⟨⟨⟨1, [], ['a'], ['x'], []⟩, 9⟩, [], true⟩

theorem responses_replayed_again : ∃ trace c,
    (system Nat).Run free (system Nat).init trace c ∧ c.Protects ∧
      c.receive (message ['a'] 9) = (c, [.answer 7]) ∧
      c.receive conflicting = (c, [.requestIDConflict conflicting.request]) := by
  have run : (system Nat).Run free (system Nat).init _ _ :=
    .tail (a := message ['b'] 8) (.tail (a := message ['a'] 7) (.refl _) trivial rfl) trivial rfl
  obtain ⟨ok, _, replayed⟩ := responses_replayed run
  obtain ⟨cached, last, again⟩ := replayed (message ['a'] 9) (by decide)
  obtain ⟨_, last', conflict⟩ := replayed conflicting (by decide)
  cases last
  cases last'
  exact ⟨_, _, run, ok, again, conflict⟩

/-- The id `A`, 127 others, `A` again, one more, and `A` once more. -/
def revisited : List Text :=
  let others := (List.range 128).map fun n => [Char.ofNat (n + 200)]
  ['A'] :: others.take 127 ++ ['A'] :: others.drop 127 ++ [['A']]

/-- The handler is given the empty id twice.  It is also given `A` twice, although no two messages
with this id have more than 127 others between them. -/
theorem ids_handled_twice :
    (∃ trace c, (system Nat).Run free (system Nat).init trace c ∧
      c.calls.map (·.request.id) = [[], []]) ∧
    (system Nat).replays? free (revisited.map (message · 0))
      (fun _ c => (c.calls.map (·.request.id)).count ['A'] = 2) = true := by
  refine ⟨⟨_, _, .tail (a := message [] 0) (.tail (a := message [] 0) (.refl _) trivial rfl)
    trivial rfl, rfl⟩, ?_⟩
  decide +kernel

end NeonDoll.DollLink.SessionControl
