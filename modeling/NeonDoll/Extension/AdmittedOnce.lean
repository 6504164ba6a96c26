import NeonDoll.Extension.Adapter
import NeonDoll.Permission.AtMostOnce

/-!
# Admission of inbound messages

A message is handed to Core again whenever its handling has failed, also if it failed after the
turn had been stored.  An inbound identifier has at most one stored turn as long as nothing fails
between the stored turn and the staged response.
-/

namespace NeonDoll.Extension

open Lib Text Transition Session SessionEvent Interaction Gateway List

variable {cfg : Config}

/-! ## Handlings that store a turn -/

/-- Every call after the stored turn succeeds, and if the answer is the text of the model then
that text is not blank. -/
def completes (calls : HandlingCalls) : Bool :=
  calls.message.service.acquireDoll ∧ calls.message.service.reload ∧ calls.message.replay ∧
    (calls.message.service.save = false ∨
      (calls.message.service.execution.all fun text => trimSpace text ≠ [])) ∧
    calls.emit.conversation ∧ calls.emit.lookup ∧ calls.emit.create ∧ calls.emit.record

variable {gateway : GatewayInstance} {sender : VerifiedExternalSender}

theorem route_named {id : SessionID}
    (routed : routeVerifiedInteraction s gateway sender id calls = (t, .ok session)) :
    trimSpace id ≠ [] := by
  intro blank
  have refused : ∀ hook, authorizeSession s.sessions id (gatewayOwner gateway) hook calls.route =
      (s.sessions, .error .invalidRoute) := by
    intro hook
    rw [authorizeSession, if_pos (.inl blank)]
  unfold routeVerifiedInteraction at routed
  simp only [refused] at routed
  split at routed
  · cases routed
  · split at routed <;> cases routed

theorem handlePlatformMessage_stored (keyed : s.sessions.Keyed)
    (stored : (handlePlatformMessage s gateway ref sender dollID text calls).stored = true) :
    ∃ content id, calls.service.execution = some content ∧ trimSpace id ≠ [] ∧
      trimSpace ref ≠ [] ∧
      Serves (handlePlatformMessage s gateway ref sender dollID text calls).state.sessions gateway
        ref id ∧
      (handlePlatformMessage s gateway ref sender dollID text calls).result =
        match answerStored content calls.service with
        | none => .error .interaction
        | some response => if calls.replay then .ok (id, response) else .error .replay := by
  unfold handlePlatformMessage at stored ⊢
  obtain ⟨_, serves⟩ := resolvePlatformSession_serves keyed gateway ref calls.session
  split at stored
  · cases stored
  rename_i sessions id resolved
  rw [resolved] at serves
  obtain ⟨spoken, serves⟩ := serves id rfl
  split at stored
  · cases stored
  rename_i t _ routed
  have same := (routeVerifiedInteraction_frame { s with sessions := sessions } gateway sender id
    calls.ingress).1.sessions
  rw [routed] at same
  have kept : (handleInteraction dollID text calls.service).1 = true := by
    split at stored <;> rename_i handled <;> rw [handled] <;> exact stored
  obtain ⟨content, answered, handled⟩ := handleInteraction_stored kept
  refine ⟨content, id, answered, route_named routed, spoken, ?_, ?_⟩
  · rw [handled]
    cases answerStored content calls.service <;> exact serves_of_sessions same serves
  · rw [handled]
    cases answerStored content calls.service <;> rfl

theorem answerStored_valid
    (answered : answerStored content calls = some response) :
    calls.acquireDoll = true ∧ calls.reload = true ∧
      (validResponse response = true ↔ calls.save = false ∨ trimSpace content ≠ []) := by
  unfold answerStored at answered
  cases doll : calls.acquireDoll <;> cases load : calls.reload <;> cases save : calls.save <;>
    simp only [doll, load, save, if_true, if_false, Bool.true_eq_false, reduceCtorEq] at answered
  · cases answered
    exact ⟨rfl, rfl, iff_of_true (by decide) (.inl rfl)⟩
  · cases answered
    exact ⟨rfl, rfl, by simp [validResponse]⟩

theorem handleInbound_stored (keyed : s.sessions.Keyed)
    (stored : (handleInbound cfg s incoming calls).stored = true) :
    (handleInbound cfg s incoming calls).error = none ↔ completes calls = true := by
  unfold handleInbound at stored ⊢
  split at stored
  · -- A decision command stores no turn.
    unfold handleCommand at stored
    split at stored
    · cases stored
    · dsimp only at stored
      split at stored <;> cases stored
  rename_i spoken
  have kept : (handlePlatformMessage s cfg.gateway (conversationOf cfg incoming)
      (senderOf cfg incoming) cfg.dollID incoming.text calls.message).stored = true := by
    dsimp only at stored
    split at stored <;> exact stored
  obtain ⟨content, _, answered, _, _, _, result⟩ :=
    handlePlatformMessage_stored keyed kept
  simp only [result, completes, answered, Option.all_some, decide_eq_true_eq]
  cases answer : answerStored content calls.message.service with
  | none => grind [answerStored, errorResponse]
  | some response => grind [answerStored_valid, emitInteractionResponse_serves]

theorem handleInbound_keyed (keyed : s.sessions.Keyed) (incoming : Incoming) :
    (handleInbound cfg s incoming calls).state.sessions.Keyed := by
  unfold handleInbound
  split
  · have resolved := (resolvePlatformSession_serves keyed cfg.gateway (conversationOf cfg incoming)
      calls.message.session).1
    unfold handleCommand
    split
    · grind
    rename_i ended
    rw [ended] at resolved
    dsimp only
    split
    · exact resolved
    · exact keyed_of_sessions (boundSessionEvent_frame _ _ _ _ _ _ _).sessions resolved
  · grind [handlePlatformMessage_keyed]

/-! ## Runs -/

theorem stage_frame :
    (stage s incoming).core = s.core ∧ (stage s incoming).accepted = s.accepted := by
  grind [stage]

theorem dispatch_frame (s : State) (messages : List Incoming) :
    (dispatch s messages).core = s.core ∧ (dispatch s messages).accepted = s.accepted := by
  induction messages generalizing s with
  | nil => exact ⟨rfl, rfl⟩
  | cons incoming rest ih =>
    obtain ⟨core, accepted⟩ := ih (stage s incoming)
    obtain ⟨core', accepted'⟩ := stage_frame
    exact ⟨core.trans core', accepted.trans accepted'⟩

/-- If a turn of the first message is stored then nothing fails after it. -/
def admits (cfg : Config) (s : State) (calls : HandlingCalls) : Bool :=
  match s.pending with
  | [] => true
  | incoming :: _ =>
    inboundID incoming ∈ s.accepted ∨ (handleInbound cfg s.core incoming calls).stored = false ∨
      completes calls = true

/-- The steps in which nothing fails between a stored turn and its staged response. -/
def completing (cfg : Config) (s : State) : Action → Prop
  | .core _ | .deliver _ | .poll none _ _ => True
  | .retry calls _ => admits cfg s calls = true
  | .poll (some messages) calls _ => s.pending = [] → admits cfg (dispatch s messages) calls = true

instance (s : State) (a : Action) : Decidable (completing cfg s a) :=
  match a with
  | .core _ | .deliver _ | .poll none _ _ => inferInstanceAs (Decidable True)
  | .retry _ _ => inferInstanceAs (Decidable (_ = true))
  | .poll (some _) _ _ => inferInstanceAs (Decidable (_ → _ = true))

/-- No identifier has two turns, and one with a turn is accepted. -/
@[grind] structure Admitted (past : List Event) (s : State) : Prop where
  keyed : s.core.sessions.Keyed
  once : ∀ id, past.count (.turn id) ≤ 1
  accepted : ∀ id, .turn id ∈ past → id ∈ s.accepted

theorem Admitted.quiet (admitted : Admitted past s)
    (keyed : t.core.sessions.Keyed) (accepted : ∀ id ∈ s.accepted, id ∈ t.accepted)
    (silent : ∀ id, .turn id ∉ es) : Admitted (past ++ es) t := by
  grind

theorem Admitted.dispatch (admitted : Admitted past s)
    (messages : List Incoming) : Admitted past (dispatch s messages) := by
  grind [dispatch_frame]

theorem retryInbound_admitted (admitted : Admitted past s)
    (complete : admits cfg s calls = true) (emitted : List Incoming) :
    Admitted (past ++ (retryInbound cfg s calls emitted).2)
      (retryInbound cfg s calls emitted).1 := by
  unfold retryInbound
  unfold admits at complete
  split
  · rw [append_nil]
    exact admitted
  rename_i incoming _ queued
  rw [queued] at complete
  dsimp only at complete ⊢
  rw [decide_eq_true_eq] at complete
  split
  · grind [Admitted.dispatch]
  rename_i fresh
  have keyed : (handleInbound cfg s.core incoming calls).state.sessions.Keyed :=
    handleInbound_keyed admitted.keyed incoming
  have unstored : .turn (inboundID incoming) ∉ past :=
    fun member => fresh (admitted.accepted _ member)
  cases stored : (handleInbound cfg s.core incoming calls).stored with
  | false => grind [Admitted.dispatch]
  | true => grind [handleInbound_stored, Admitted.dispatch]

theorem retryInbound_keyed (keyed : s.core.sessions.Keyed) (calls : HandlingCalls)
    (emitted : List Incoming) : (retryInbound cfg s calls emitted).1.core.sessions.Keyed := by
  grind [dispatch_frame, handleInbound_keyed, retryInbound]

theorem moves_keyed (keyed : s.core.sessions.Keyed)
    (moves : Moves cfg s a es t) : t.core.sessions.Keyed := by
  grind [Moves, step_keyed, retryInbound_keyed, dispatch_frame]

theorem moves_admitted
    (admitted : Admitted past s) (complete : completing cfg s a) (moves : Moves cfg s a es t) :
    Admitted (past ++ es) t := by
  have keyed := moves_keyed admitted.keyed moves
  cases moves with
  | core =>
    refine admitted.quiet keyed (fun _ => id) ?_
    intro id member
    obtain ⟨_, _, impossible⟩ := mem_map.mp member
    cases impossible
  | retry calls emitted => exact retryInbound_admitted admitted complete emitted
  | skipped => exact admitted.quiet keyed (fun _ => id) nofun
  | unanswered =>
    exact admitted.quiet keyed (fun _ => id) (fun _ member => nomatch mem_singleton.mp member)
  | polled messages calls emitted empty =>
    have polled : Admitted (past ++ [.polled]) s := admitted.quiet admitted.keyed (fun _ => id)
      (fun _ member => nomatch mem_singleton.mp member)
    have next := retryInbound_admitted (polled.dispatch messages) (complete empty) emitted
    rw [append_assoc] at next
    exact next
  | delivered messages =>
    rw [append_nil]
    exact admitted.dispatch messages

/-- In every reachable state a handling that stores a turn is accepted, and so not repeated,
exactly if nothing fails between the stored turn and the staged response: Core gets hold of the
Doll once more, the replay succeeds, the response is not blank and its delivery is stored.  In
every run in which this is so after each stored turn, an inbound identifier has at most one
turn. -/
theorem inbound_admitted_once (cfg : Config) :
    (∀ trace s, (system cfg).Run free (system cfg).init trace s →
      ∀ incoming calls, (handleInbound cfg s.core incoming calls).stored = true →
        ((handleInbound cfg s.core incoming calls).error = none ↔ completes calls = true)) ∧
    ∀ trace s, (system cfg).Run (completing cfg) (system cfg).init trace s →
      ∀ id, trace.count (.turn id) ≤ 1 := by
  constructor
  · intro trace s run incoming calls stored
    have keyed : s.core.sessions.Keyed :=
      run.invariant Store.keyed_empty fun keyed _ stepped => moves_keyed keyed (step_moves stepped)
    exact handleInbound_stored keyed stored
  · intro trace s run
    have admitted : Admitted trace s := by
      apply run.history
      · exact ⟨Store.keyed_empty, fun _ => Nat.zero_le 1, nofun⟩
      · intro x y a past es admitted complete stepped
        exact moves_admitted admitted complete (step_moves stepped)
    exact admitted.once

/-! ## A failure after the turn -/

def sampleMarshal (payload : PermissionDecidedPayload) : Permission.RawMessage :=
  [payload.requestID, match payload.decision with | .approve => 0 | .deny => 1 | .other => 2]

/-- An adapter without mapped senders. -/
def sampleAdapter : Config where
  core :=
    { executor := Permission.sampleExecutor
      codec :=
        { valid := fun _ => true
          message := fun _ => none
          permissionRequested := fun _ => none
          permissionDecided := fun raw =>
            match raw with
            | [id, 0] => some ⟨id, .approve⟩
            | [id, 1] => some ⟨id, .deny⟩
            | [id, 2] => some ⟨id, .other⟩
            | _ => none
          status := fun _ => none
          error := fun _ => none }
      identities := ⟨[], ⟨∅, ∅⟩, rfl⟩ }
  gateway := ⟨['g'], by decide⟩
  platform := ['p']
  dollID := ['d']
  conversationPrefix := ['c']
  requestID := fun t => if trimSpace t = [] then 0 else t.length + 1
  blank := by
    intro t
    split <;> simp_all
  marshal := sampleMarshal
  valid := fun _ => rfl
  unmarshal := by
    rintro ⟨id, decision⟩
    cases decision <;> rfl

/-- Every call succeeds and the model answers. -/
def sampleHandling : HandlingCalls where
  message :=
    { session := ⟨true, true, true, ['s']⟩
      ingress := ⟨true, ⟨true, true, true⟩,
        ⟨true, true, true, Permission.allCalls, Permission.allCalls, true⟩⟩
      service := ⟨true, .found, true, some ['a'], true, true, true, true⟩
      replay := true }
  eventID := ['e']
  emit := ⟨true, true, true, true⟩

def sampleFailing : HandlingCalls :=
  { sampleHandling with message := { sampleHandling.message with replay := false } }

/-- The Doll cannot be loaded at first, and then the message is handled. -/
theorem inbound_admitted_once_retried :
    ∃ trace s, (system sampleAdapter).Run (completing sampleAdapter) (system sampleAdapter).init
        trace s ∧
      trace.count (.handed ['1']) = 2 ∧ 0 < trace.count (.turn ['1']) ∧
      trace.count (.turn ['1']) ≤ 1 := by
  obtain ⟨trace, s, run, facts⟩ := System.replays?_run
    (show (system sampleAdapter).replays? (completing sampleAdapter)
      [.deliver [⟨1, 2, 3, ['h', 'i']⟩],
        .retry { sampleHandling with message := { sampleHandling.message with
          service := { sampleHandling.message.service with load := .failed } } } [],
        .retry sampleHandling []]
      (fun trace _ => decide (trace.count (.handed ['1']) = 2 ∧ 0 < trace.count (.turn ['1']))) =
        true by decide)
  obtain ⟨handed, turns⟩ := of_decide_eq_true facts
  exact ⟨trace, s, run, handed, turns, (inbound_admitted_once sampleAdapter).2 trace s run ['1']⟩

/-- The replay fails after the turn of a message was stored; the message stays in the queue, and at
the next retry its turn is stored again. -/
theorem turn_stored_twice :
    ∃ trace s, (system sampleAdapter).Run free (system sampleAdapter).init trace s ∧
      trace.count (.turn ['1']) = 2 := by
  obtain ⟨trace, s, run, facts⟩ := System.replays?_run
    (show (system sampleAdapter).replays? free
      [.deliver [⟨1, 2, 3, ['h', 'i']⟩], .retry sampleFailing [], .retry sampleHandling []]
      (fun trace _ => decide (trace.count (.turn ['1']) = 2)) = true by decide)
  exact ⟨trace, s, run, of_decide_eq_true facts⟩

end NeonDoll.Extension
