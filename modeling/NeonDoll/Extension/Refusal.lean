import NeonDoll.Extension.AdmittedOnce
import NeonDoll.Interaction.Stability

/-!
# Refused messages at the head of the queue

A decision command that Core refuses for good fails at every retry.  It stays at the head of the
queue, so the messages behind it are never handed to Core and the guest is never polled again.
-/

namespace NeonDoll.Extension

open Lib Text Transition ExternalIdentity Session SessionEvent Interaction Gateway
open List Option Nat
open Permission (RequestID Request)

variable {cfg : Config}

/-! ## Refusals -/

/-- What Core makes of the sender of a message. -/
def principalOf (cfg : Config) (s : SessionEvent.State) (incoming : Incoming) :
    Except IdentityError Principal :=
  s.identities.resolver.resolve (presentedIdentity cfg.gateway (senderOf cfg incoming))

/-- A decision that Core refuses, and will refuse as long as what happens is `future`: the sender
is not an Owner, the request is unknown and is not created, it belongs to another Owner, it was
presented in another session or in one that is closed, it is overdue, or it is settled already,
and not by the same decision. -/
inductive RefusedForGood (cfg : Config) (s : SessionEvent.State) (incoming : Incoming)
    (decision : Decision) (id : RequestID) (future : List Event) : Prop where
  | notOwner (other : ∀ principal, principalOf cfg s incoming = .ok principal →
      principal.authority ≠ .owner)
  | unknown (absent : s.permissions.requests.lookup id = none)
      (never : .core (.permission (.created id)) ∉ future)
  | otherOwner (r : Request) (found : s.permissions.requests.lookup id = some r)
      (other : ∀ principal, principalOf cfg s incoming = .ok principal → r.ownerID ≠ principal.id)
  | elsewhere (session : InteractionSession) (sessionID : SessionID)
      (presented : s.presentations.lookup id = some sessionID)
      (found : s.sessions.sessions.lookup sessionID = some session)
      (other : session.owner ≠ gatewayOwner cfg.gateway ∨
        session.externalConversationRef ≠ conversationOf cfg incoming ∨ session.status = .closed)
  | overdue (r : Request) (found : s.permissions.requests.lookup id = some r)
      (open_ : r.status = .pending ∨ r.status = .expired) (late : r.expiresAt ≤ s.permissions.now)
  | settled (r : Request) (found : s.permissions.requests.lookup id = some r)
      (decided : r.status ≠ .pending) (other : r.status ≠ decidedStatus decision)

theorem RefusedForGood.later {id : RequestID} {es future : List Event}
    (refused : RefusedForGood cfg s incoming decision id (es ++ future)) (later : Later s t)
    (still : s.permissions.requests.lookup id = none → .core (.permission (.created id)) ∉ es →
      t.permissions.requests.lookup id = none) :
    RefusedForGood cfg t incoming decision id future := by
  have sender : principalOf cfg t incoming = principalOf cfg s incoming := by
    unfold principalOf
    rw [later.identities]
  cases refused with
  | notOwner other =>
    refine .notOwner ?_
    rw [sender]
    exact other
  | unknown absent never =>
    refine .unknown (still absent ?_) ?_
    · exact fun created => never (mem_append_left future created)
    · exact fun created => never (mem_append_right es created)
  | otherOwner r found other =>
    obtain ⟨r', found', kept⟩ := later.requests.rows id r found
    refine .otherOwner r' found' ?_
    rw [sender, kept.owner]
    exact other
  | elsewhere session sessionID presented found other =>
    obtain ⟨session', found', owner, ref, closed⟩ := later.sessions sessionID session found
    refine .elsewhere session' sessionID (later.presentations id sessionID presented) found' ?_
    rw [owner, ref]
    rcases other with foreign | talk | ended
    · exact .inl foreign
    · exact .inr (.inl talk)
    · exact .inr (.inr (closed ended))
  | overdue r found open_ late =>
    obtain ⟨r', found', kept⟩ := later.requests.rows id r found
    refine .overdue r' found' ?_ ?_
    · rcases kept.overdue late with same | expired
      · rw [same]
        exact open_
      · exact .inr expired
    · rw [kept.expiry]
      exact late.trans later.requests.clock
  | settled r found decided other =>
    obtain ⟨r', found', kept⟩ := later.requests.rows id r found
    have same := kept.final decided
    refine .settled r' found' ?_ ?_
    · rw [same]
      exact decided
    · rw [same]
      exact other

theorem decode_decisionEvent (decoded : decodePermissionDecision cfg.core.codec
      (decisionEvent cfg s sessionID payload eventID) = some payload') : payload' = payload := by
  grind [decodePermissionDecision, decisionEvent, cfg.unmarshal]

theorem command_decides (commanded : command text = some (decision, word)) :
    decidedStatus decision ≠ .pending ∧ decidedStatus decision ≠ .expired := by
  unfold command at commanded
  split at commanded
  · split at commanded
    · cases commanded
      exact ⟨nofun, nofun⟩
    split at commanded
    · cases commanded
      exact ⟨nofun, nofun⟩
    · cases commanded
  · cases commanded

theorem handleInbound_refused (keyed : Permission.Keyed s.permissions.requests)
    (filed : s.sessions.Keyed) (commanded : command incoming.text = some (decision, text))
    (refused : RefusedForGood cfg s incoming decision (cfg.requestID text) future)
    (calls : HandlingCalls) :
    (handleInbound cfg s incoming calls).error ≠ none := by
  intro accepted
  unfold handleInbound at accepted
  rw [commanded] at accepted
  dsimp only at accepted
  unfold handleCommand at accepted
  have serves := (resolvePlatformSession_serves filed cfg.gateway (conversationOf cfg incoming)
    calls.message.session).2
  have kept := resolvePlatformSession_kept s.sessions cfg.gateway (conversationOf cfg incoming)
    calls.message.session
  split at accepted
  · cases accepted
  rename_i sessions sessionID resolved
  rw [resolved] at serves kept
  obtain ⟨_, _, found, owned, ref, active⟩ := serves sessionID rfl
  dsimp only at accepted
  split at accepted
  · cases accepted
  unfold boundSessionEvent at accepted
  split at accepted
  · cases accepted
  rename_i u _ handled
  obtain ⟨_, principal, _, decoded, mapped, owner, presented, row', own, status⟩ :=
    handleSessionEvent_ok (s := { s with sessions := sessions }) keyed (congrArg Prod.snd handled)
  have same := decode_decisionEvent decoded
  subst same
  cases refused with
  | notOwner other => exact other principal mapped owner
  | unknown absent =>
    rw [absent] at row'
    cases row'
  | otherOwner r there other =>
    rw [there] at row'
    cases row'
    exact other principal mapped own
  | elsewhere session' sessionID' presented' found' other =>
    rw [presented'] at presented
    cases presented
    obtain ⟨_, found'', owner', ref', closed⟩ := kept sessionID session' found'
    rw [found] at found''
    cases found''
    rcases other with foreign | talk | ended
    · exact foreign (owner'.symm.trans owned)
    · exact talk (ref'.symm.trans ref)
    · rw [closed ended] at active
      cases active
  | overdue r there open_ late =>
    rw [there] at row'
    cases row'
    obtain ⟨final, unexpired⟩ := command_decides commanded
    rcases status with same | ⟨_, early⟩
    · rcases open_ with pending | expired
      · exact final (same.symm.trans pending)
      · exact unexpired (same.symm.trans expired)
    · exact Nat.not_lt.mpr late early
  | settled r there decided other =>
    rw [there] at row'
    cases row'
    rcases status with same | ⟨pending, _⟩
    · exact other same
    · exact decided pending

/-! ## What a handling does to Core -/

/-- The effects of a handling; it creates no request. -/
structure Handled (cfg : Config) (s t : SessionEvent.State) : Prop where
  reaches : Reaches cfg.core.executor s.permissions t.permissions
  later : Later s t
  absent : ∀ id, s.permissions.requests.lookup id = none → t.permissions.requests.lookup id = none

theorem Handled.trans (first : Handled cfg s t) (second : Handled cfg t u) : Handled cfg s u :=
  ⟨first.reaches.trans second.reaches, first.later.trans second.later,
    fun id absent => second.absent id (first.absent id absent)⟩

theorem resolved_handled
    (resolved : resolvePlatformSession s.sessions gateway ref calls = (sessions, result)) :
    Handled cfg s { s with sessions := sessions } := by
  have kept := resolvePlatformSession_kept s.sessions gateway ref calls
  rw [resolved] at kept
  exact ⟨.refl _, ⟨rfl, kept, .refl _, fun _ _ found => found⟩, fun _ absent => absent⟩

theorem handleSessionEvent_handled (cfg : Config) (claimed : Permission.Claimed s.permissions)
    (sender : VerifiedExternalSender) (event : SessionEvent.Event) (calls : IngressCalls) :
    Handled cfg s (handleSessionEvent cfg.core.codec s cfg.gateway sender event calls).1 := by
  have frame := handleSessionEvent_frame cfg.core.codec s cfg.gateway sender event calls
  have reaches := handleSessionEvent_reaches cfg.core.executor cfg.core.codec s cfg.gateway sender
    event calls
  exact ⟨reaches, frame.later claimed reaches,
    (handleSessionEvent_settles cfg.core.codec cfg.gateway sender event calls claimed.keyed).1⟩

theorem routeVerifiedInteraction_handled (cfg : Config)
    (claimed : Permission.Claimed s.permissions) (gateway : GatewayInstance)
    (sender : VerifiedExternalSender) (id : SessionID)
    (calls : IngressCalls) :
    Handled cfg s (routeVerifiedInteraction s gateway sender id calls).1 := by
  obtain ⟨frame, same⟩ := routeVerifiedInteraction_frame s gateway sender id calls
  have reaches : Reaches cfg.core.executor s.permissions
      (routeVerifiedInteraction s gateway sender id calls).1.permissions := by
    rw [same]
    exact .refl _
  refine ⟨reaches, frame.later claimed reaches, fun id absent => ?_⟩
  rw [same]
  exact absent

theorem handleCommand_handled (claimed : Permission.Claimed s.permissions) (incoming : Incoming)
    (id : Text) : Handled cfg s (handleCommand cfg s incoming decision id calls).state := by
  unfold handleCommand
  split
  · rename_i resolved
    exact resolved_handled resolved
  rename_i sessions sessionID resolved
  have first : Handled cfg s { s with sessions := sessions } := resolved_handled resolved
  dsimp only
  split
  · exact first
  have second := handleSessionEvent_handled cfg (s := { s with sessions := sessions })
    claimed (senderOf cfg incoming) (decisionEvent cfg { s with sessions := sessions } sessionID
      ⟨cfg.requestID id, decision⟩ calls.eventID) calls.message.ingress
  unfold boundSessionEvent
  split <;> rename_i handled <;> rw [handled] at second <;> exact first.trans second

theorem handlePlatformMessage_handled (claimed : Permission.Claimed s.permissions) :
    Handled cfg s (handlePlatformMessage s gateway ref sender dollID text calls).state := by
  unfold handlePlatformMessage
  split
  · rename_i resolved
    exact resolved_handled resolved
  rename_i sessions id resolved
  have first : Handled cfg s { s with sessions := sessions } := resolved_handled resolved
  have second := routeVerifiedInteraction_handled cfg (s := { s with sessions := sessions })
    claimed gateway sender id calls.ingress
  split
  · rename_i routed
    rw [routed] at second
    exact first.trans second
  · rename_i routed
    rw [routed] at second
    split <;> exact first.trans second

theorem handleInbound_handled (claimed : Permission.Claimed s.permissions)
    (calls : HandlingCalls) : Handled cfg s (handleInbound cfg s incoming calls).state := by
  unfold handleInbound
  split
  · exact handleCommand_handled claimed incoming _
  · have handled : Handled cfg s (handlePlatformMessage s cfg.gateway (conversationOf cfg incoming)
        (senderOf cfg incoming) cfg.dollID incoming.text calls.message).state :=
      handlePlatformMessage_handled claimed
    dsimp only
    split <;> exact handled

/-! ## A queue that does not move -/

/-- Core is not restarted with another configuration. -/
def steady (s : State) : Action → Prop
  | .core action => action.keepsIdentities s.core
  | _ => True

/-- What holds of Core in every state of a run. -/
structure Ordered (s : State) : Prop where
  claimed : Permission.Claimed s.core.permissions
  filed : s.core.sessions.Keyed

theorem retryInbound_ordered (ordered : Ordered s) (calls : HandlingCalls)
    (emitted : List Incoming) : Ordered (retryInbound cfg s calls emitted).1 := by
  refine ⟨?_, retryInbound_keyed ordered.filed calls emitted⟩
  unfold retryInbound
  split
  · exact ordered.claimed
  rename_i incoming _ _
  have handled : Permission.Claimed (handleInbound cfg s.core incoming calls).state.permissions :=
    (handleInbound_handled ordered.claimed calls).reaches.claimed ordered.claimed
  dsimp only
  split
  · rw [(dispatch_frame _ emitted).1]
    exact ordered.claimed
  split
  · exact handled
  · rw [(dispatch_frame _ emitted).1]
    exact handled

theorem moves_ordered (ordered : Ordered s) (moves : Moves cfg s a es t) : Ordered t := by
  cases moves with
  | core performed =>
    exact ⟨(step_reaches performed).claimed ordered.claimed, step_keyed ordered.filed performed⟩
  | retry calls emitted => exact retryInbound_ordered ordered calls emitted
  | skipped | unanswered => exact ordered
  | polled messages calls emitted => grind [retryInbound_ordered, dispatch_frame, Ordered]
  | delivered messages => grind [dispatch_frame, Ordered]

theorem run_ordered {guard : State → Action → Prop}
    (run : (system cfg).Run guard (system cfg).init trace s) : Ordered s :=
  run.invariant ⟨Permission.claimed_init, Store.keyed_empty⟩
    fun ordered _ stepped => moves_ordered ordered (step_moves stepped)

theorem dispatch_pending (s : State) :
    ∃ more, (dispatch s messages).pending = s.pending ++ more := by
  induction messages generalizing s with
  | nil => exact ⟨[], (append_nil _).symm⟩
  | cons incoming rest ih =>
    obtain ⟨more, queue⟩ := ih (stage s incoming)
    have staged : ∃ more', (stage s incoming).pending = s.pending ++ more' := by
      unfold stage
      split
      · exact ⟨[], (append_nil _).symm⟩
      · split
        · exact ⟨[], (append_nil _).symm⟩
        · exact ⟨[incoming], rfl⟩
    obtain ⟨more', eq⟩ := staged
    refine ⟨more' ++ more, ?_⟩
    change (dispatch (stage s incoming) rest).pending = _
    rw [queue, eq, append_assoc]

/-- A refused decision is the first message, and since then nothing behind it was handed to Core
and the guest was not polled. -/
structure Blocked (cfg : Config) (incoming : Incoming) (rest : List Incoming) (decision : Decision)
    (id : RequestID) (past future : List Event) (s : State) : Prop where
  ordered : Ordered s
  queue : ∃ more, s.pending = incoming :: rest ++ more
  fresh : inboundID incoming ∉ s.accepted
  refused : RefusedForGood cfg s.core incoming decision id future
  events : ∀ e ∈ past, e ≠ .polled ∧ ∀ other, e = .handed other → other = inboundID incoming

section Blocked

variable {incoming : Incoming} {rest : List Incoming} {decision : Decision} {text : Text}
  {past es future : List Event} {s t : State}

theorem retryInbound_stays (queue : s.pending = incoming :: rest)
    (fresh : inboundID incoming ∉ s.accepted)
    (failed : (handleInbound cfg s.core incoming calls).error ≠ none) :
    retryInbound cfg s calls emitted =
      ({ s with core := (handleInbound cfg s.core incoming calls).state },
        .handed (inboundID incoming) ::
          if (handleInbound cfg s.core incoming calls).stored then [.turn (inboundID incoming)]
          else []) := by
  obtain ⟨e, error⟩ := ne_none_iff_exists'.mp failed
  simp only [retryInbound, queue, if_neg fresh, error]

section

variable (commanded : command incoming.text = some (decision, text))

include commanded

theorem Blocked.retry (calls : HandlingCalls) (emitted : List Incoming)
    (blocked : Blocked cfg incoming rest decision (cfg.requestID text) past
      ((retryInbound cfg s calls emitted).2 ++ future) s) :
    Blocked cfg incoming rest decision (cfg.requestID text)
      (past ++ (retryInbound cfg s calls emitted).2) future
      (retryInbound cfg s calls emitted).1 := by
  have ordered : Ordered (retryInbound cfg s calls emitted).1 :=
    retryInbound_ordered blocked.ordered calls emitted
  obtain ⟨more, queue⟩ := blocked.queue
  have failed := handleInbound_refused blocked.ordered.claimed.keyed blocked.ordered.filed commanded
    blocked.refused calls
  have handled : Handled cfg s.core (handleInbound cfg s.core incoming calls).state :=
    handleInbound_handled blocked.ordered.claimed calls
  have refused := blocked.refused.later handled.later fun absent _ => handled.absent _ absent
  have events := blocked.events
  rw [retryInbound_stays queue blocked.fresh failed] at ordered ⊢
  refine ⟨ordered, ⟨more, queue⟩, blocked.fresh, refused, fun e member => ?_⟩
  rcases mem_append.mp member with old | new
  · exact events e old
  rcases mem_cons.mp new with rfl | turn
  · exact ⟨nofun, fun other same => (Event.handed.inj same).symm⟩
  · split at turn
    · cases mem_singleton.mp turn
      exact ⟨nofun, nofun⟩
    · cases turn

theorem Blocked.step (calm : steady s a) (moves : Moves cfg s a es t)
    (blocked : Blocked cfg incoming rest decision (cfg.requestID text) past (es ++ future) s) :
    Blocked cfg incoming rest decision (cfg.requestID text) (past ++ es) future t := by
  have ordered := moves_ordered blocked.ordered moves
  obtain ⟨more, queue⟩ := blocked.queue
  have busy : s.pending ≠ [] := by
    rw [queue]
    exact cons_ne_nil _ _
  cases moves with
  | core performed =>
    have claimed := blocked.ordered.claimed
    refine ⟨ordered, ⟨more, queue⟩, blocked.fresh,
      blocked.refused.later (step_later claimed calm performed) ?_, ?_⟩
    · intro absent never
      refine step_absent claimed.keyed performed absent ?_
      exact fun created => never (mem_map_of_mem created)
    · intro e member
      rcases mem_append.mp member with old | new
      · exact blocked.events e old
      · obtain ⟨_, _, rfl⟩ := mem_map.mp new
        exact ⟨nofun, nofun⟩
  | retry calls emitted => exact blocked.retry commanded calls emitted
  | skipped =>
    rw [append_nil]
    exact blocked
  | unanswered empty | polled messages calls emitted empty => exact absurd empty busy
  | delivered messages =>
    obtain ⟨core, accepted⟩ := dispatch_frame s messages
    obtain ⟨staged, longer⟩ := dispatch_pending s
    rw [append_nil]
    refine ⟨ordered, ⟨more ++ staged, ?_⟩, ?_, ?_, blocked.events⟩
    · rw [longer, queue, append_assoc]
    · rw [accepted]
      exact blocked.fresh
    · rw [core]
      exact blocked.refused

theorem blocked_run (rest : List Incoming) (run : (system cfg).Run steady s later t)
    (blocked : ∀ future, RefusedForGood cfg s.core incoming decision (cfg.requestID text) future →
      Blocked cfg incoming rest decision (cfg.requestID text) [] future s)
    (refused : RefusedForGood cfg s.core incoming decision (cfg.requestID text) later) :
    Blocked cfg incoming rest decision (cfg.requestID text) later [] t := by
  have runs : ∀ future,
      RefusedForGood cfg s.core incoming decision (cfg.requestID text) (later ++ future) →
        Blocked cfg incoming rest decision (cfg.requestID text) later future t := by
    -- The events to come are those of the steps that are left.
    apply run.history (P := fun later t => ∀ future,
      RefusedForGood cfg s.core incoming decision (cfg.requestID text) (later ++ future) →
        Blocked cfg incoming rest decision (cfg.requestID text) later future t)
    · exact blocked
    · intro x y a later es ih calm stepped future refused
      rw [append_assoc] at refused
      exact (ih (es ++ future) refused).step commanded calm (step_moves stepped)
  apply runs
  rw [append_nil]
  exact refused

end

end Blocked

/-- In every reachable state, a decision command at the head of the queue that is refused for good
stays there whatever happens later, short of a restart of Core with another configuration; no
message behind it is handed to Core, and the guest is not polled. -/
theorem refused_stays_first (run : (system cfg).Run free (system cfg).init trace s)
    (queue : s.pending = incoming :: rest) (fresh : inboundID incoming ∉ s.accepted)
    (commanded : command incoming.text = some (decision, text))
    (run' : (system cfg).Run steady s later t)
    (refused : RefusedForGood cfg s.core incoming decision (cfg.requestID text) later) :
    (∃ more, t.pending = incoming :: rest ++ more) ∧ .polled ∉ later ∧
      ∀ other, .handed other ∈ later → other = inboundID incoming := by
  have still := blocked_run commanded rest run' (fun future refused =>
    ⟨run_ordered run, ⟨[], by rw [queue, append_nil]⟩, fresh, refused,
      fun _ member => (nomatch member)⟩) refused
  refine ⟨still.queue, ?_, ?_⟩
  · intro polled
    exact (still.events .polled polled).1 rfl
  · intro other handed
    exact (still.events _ handed).2 other rfl

/-- A message of someone, and a queue that begins with a decision of someone who is not mapped. -/
def sampleMessage : Incoming := ⟨2, 2, 3, ['h', 'i']⟩

def sampleCommand : Incoming := ⟨1, 2, 3, "/approve x".toList⟩

def sampleQueue (queue : List Incoming) : State :=
  { (system sampleAdapter).init with pending := queue }

theorem sampleQueue_run : (system sampleAdapter).Run free (system sampleAdapter).init ([] ++ [])
    (sampleQueue [sampleCommand, sampleMessage]) :=
  .tail (a := .deliver [sampleCommand, sampleMessage]) (.refl _) trivial rfl

theorem sampleCommand_approve : command sampleCommand.text = some (.approve, ['x']) := by decide

/-- A command for a request that is never created stays before the message behind it. -/
theorem refused_stays_first_unknown :
    ∃ trace s, (system sampleAdapter).Run free (system sampleAdapter).init trace s ∧
      s.pending = [sampleCommand, sampleMessage] ∧
      ∀ later t, (system sampleAdapter).Run steady s later t →
        .core (.permission (.created (sampleAdapter.requestID ['x']))) ∉ later →
        .handed (inboundID sampleMessage) ∉ later ∧ .polled ∉ later := by
  refine ⟨_, _, sampleQueue_run, rfl, fun later t run' never => ?_⟩
  obtain ⟨_, unpolled, handed⟩ := refused_stays_first sampleQueue_run rfl (by decide)
    sampleCommand_approve run' (.unknown rfl never)
  exact ⟨fun member => absurd (handed _ member) (by decide), unpolled⟩

/-- Someone who is not mapped sends `/approve x`, and then someone writes a message.  However
often the adapter retries and whatever happens in Core, the message is not handed to Core and the
guest is not polled. -/
theorem stranger_stops_gateway :
    ∃ trace s, (system sampleAdapter).Run free (system sampleAdapter).init trace s ∧
      s.pending = [sampleCommand, sampleMessage] ∧
      ∀ later t, (system sampleAdapter).Run steady s later t →
        (∃ more, t.pending = [sampleCommand, sampleMessage] ++ more) ∧
          .handed (inboundID sampleMessage) ∉ later ∧ .polled ∉ later := by
  refine ⟨_, _, sampleQueue_run, rfl, ?_⟩
  intro later t run'
  have still := blocked_run sampleCommand_approve [sampleMessage] run' (fun future refused =>
    ⟨run_ordered sampleQueue_run, ⟨[], rfl⟩, by decide, refused, fun _ member => (nomatch member)⟩)
    (.notOwner fun _ resolved => (nomatch resolved))
  refine ⟨still.queue, ?_, ?_⟩
  · intro handed
    exact absurd ((still.events _ handed).2 _ rfl) (by decide)
  · intro polled
    exact (still.events _ polled).1 rfl

end NeonDoll.Extension
