import NeonDoll.Interaction.Ingress
import NeonDoll.Permission.AtMostOnce

/-!
# The authority of gateway decisions

A permission request is decided through a gateway only by its Owner: the identity of the sender
is mapped to the principal that the request belongs to, and the decision comes in through the
session of the gateway in which the request was presented.
-/

namespace NeonDoll.Interaction

open Lib Text Transition ExternalIdentity Session SessionEvent Permission
open Permission (RequestID Request Requests Settles Calls)
open DollMind (ExecutorConfig)

/-! ## The bridge -/

variable {principal : Principal}

section Bridge

variable {s : SessionEvent.State} {calls : DecideCalls} {sessionID : SessionID}

/-- What a decision on the request `wanted` may do to a row: it expires, or it is decided as a
request of the acting principal. -/
def OwnDecision (table : Requests) (acting : Principal) (wanted id : RequestID)
    (target : Permission.Status) : Prop :=
  target = .expired ∨
    target ≠ .pending ∧ id = wanted ∧ ∃ r, table.lookup id = some r ∧ r.ownerID = acting.id

theorem resolveBy_settles {P : RequestID → Permission.Status → Prop} {id : RequestID}
    {calls : Calls} (admitted : ∀ r, s.permissions.requests.lookup id = some r →
      P r.id .approved ∧ P r.id .denied ∧ P r.id .expired) :
    Settles P s.permissions.requests (resolveBy s id authority calls decision).1 := by
  cases decision with
  | approve =>
    apply resolve_settles
    intro r found
    exact ⟨fun _ => (admitted r found).1, (admitted r found).2.2⟩
  | deny =>
    apply resolve_settles
    intro r found
    exact ⟨fun _ => (admitted r found).2.1, (admitted r found).2.2⟩
  | other => exact .refl _

theorem decidePresented_settles (keyed : Keyed s.permissions.requests) :
    Settles (OwnDecision s.permissions.requests acting payload.requestID) s.permissions.requests
      (decidePresented s acting payload calls).1.permissions.requests := by
  have first : Settles (OwnDecision s.permissions.requests acting payload.requestID)
      s.permissions.requests
      (get s.permissions.requests payload.requestID s.permissions.now calls.get).1 :=
    get_settles fun id => .inl rfl
  have final : ∀ id target, OwnDecision s.permissions.requests acting payload.requestID id target →
      target ≠ .pending := by grind [OwnDecision]
  unfold decidePresented
  split
  · rename_i requests e ended
    rw [ended] at first
    exact first
  rename_i requests r ended
  rw [ended] at first
  dsimp only
  split
  · exact first
  split
  · exact first
  have found : requests.lookup payload.requestID = some r := get_row keyed ended
  have key : r.id = payload.requestID := first.keyed keyed _ _ found
  obtain ⟨_, _, _, _⟩ := first.origin found
  have own : ∀ target, target ≠ .pending →
      OwnDecision s.permissions.requests acting payload.requestID payload.requestID target := by
    grind [OwnDecision]
  have second : Settles (OwnDecision s.permissions.requests acting payload.requestID)
      (s.withRequests requests).permissions.requests
      (resolveBy (s.withRequests requests) r.id acting.id calls.resolve payload.decision).1 := by
    apply resolveBy_settles
    intro r' found'
    have key' : r'.id = payload.requestID := by
      rw [← key]
      exact first.keyed keyed _ _ found'
    rw [key']
    exact ⟨own .approved nofun, own .denied nofun, .inl rfl⟩
  split
  · rename_i ended'
    rw [ended'] at second
    exact first.trans final second
  rename_i ended'
  rw [ended'] at second
  rw [handled_requests]
  exact first.trans final second

theorem configuredOwner_owner {id : Text}
    (found : s.configuredOwner id ok = some principal) : principal.authority = .owner := by
  grind [State.configuredOwner]

/-- What a decision that comes in through a session may do to a row. -/
def BridgeDecision (s : SessionEvent.State) (sessionID : SessionID) (acting : Principal)
    (id : RequestID) (target : Permission.Status) : Prop :=
  target = .expired ∨
    acting.authority = .owner ∧ s.presentations.lookup id = some sessionID ∧
      ∃ r, s.permissions.requests.lookup id = some r ∧ r.ownerID = acting.id

theorem bridgeDecide_settles (keyed : Keyed s.permissions.requests) :
    Settles (BridgeDecision s sessionID acting) s.permissions.requests
      (bridgeDecide s sessionID acting payload calls).1.permissions.requests := by
  unfold bridgeDecide
  split
  · exact .refl _
  rename_i configured
  have owner : acting.authority = .owner := configuredOwner_owner (not_not.mp configured)
  split
  · exact .refl _
  split
  · exact .refl _
  split
  · exact .refl _
  split
  · exact .refl _
  rename_i presented
  apply (decidePresented_settles keyed).mono
  rintro _ _ (expired | ⟨_, rfl, own⟩)
  · exact .inl expired
  · exact .inr ⟨owner, not_not.mp presented, own⟩

end Bridge

/-! ## The ingress -/

section Ingress

variable {s t : SessionEvent.State} {gateway : GatewayInstance} {sender : VerifiedExternalSender}
  {sessionID : SessionID}

theorem authorizeSession_active
    (authorised : authorizeSession store sessionID owner hook calls = (store', .ok resolved)) :
    ∃ session, store.sessions.lookup sessionID = some session ∧ session.owner = owner ∧
      session.status = .active := by grind [authorizeSession, lookup, loadSession]

/-- The sender may decide the request: the configuration maps the sender of the gateway to the
Owner of the request, and the session is an active one of the gateway in which the request was
presented. -/
structure MayDecide (s : SessionEvent.State) (gateway : GatewayInstance)
    (sender : VerifiedExternalSender) (sessionID : SessionID) (id : RequestID) : Prop where
  mapped : ∃ principal r,
    Maps s.identities.configured (presentedIdentity gateway sender) principal ∧
    principal.authority = .owner ∧ s.permissions.requests.lookup id = some r ∧
    r.ownerID = principal.id
  session : ∃ session, s.sessions.sessions.lookup sessionID = some session ∧
    session.owner = gatewayOwner gateway ∧ session.status = .active
  presented : s.presentations.lookup id = some sessionID

theorem handleDecision_settles (keyed : Keyed s.permissions.requests) :
    Settles (fun id target => target = .expired ∨ MayDecide s gateway sender sessionID id)
      s.permissions.requests
      (handleDecision s gateway sender sessionID payload calls).1.permissions.requests := by
  unfold handleDecision
  split
  · exact .refl _
  rename_i principal _
  have mapped : Maps s.identities.configured (presentedIdentity gateway sender) principal := by
    grind [→ Identities.resolve_maps]
  split
  · exact .refl _
  rename_i store _ authorised
  apply (bridgeDecide_settles (s := { s with sessions := store }) keyed).mono
  rintro _ _ (expired | ⟨owner, presented, r, found, owned⟩)
  · exact .inl expired
  · exact .inr ⟨⟨principal, r, mapped, owner, found, owned⟩, authorizeSession_active authorised,
      presented⟩

theorem handleSessionEvent_settles (codec : Codec)
    (gateway : GatewayInstance) (sender : VerifiedExternalSender) (event : SessionEvent.Event)
    (calls : IngressCalls) (keyed : Keyed s.permissions.requests) :
    Settles (fun id target => target = .expired ∨ MayDecide s gateway sender event.sessionID id)
      s.permissions.requests
      (handleSessionEvent codec s gateway sender event calls).1.permissions.requests := by
  grind [handleDecision_settles, handleSessionEvent]

end Ingress

/-! ## Decisions that succeed -/

def decidedStatus : Decision → Permission.Status
  | .approve => .approved
  | .deny => .denied
  | .other => .pending

theorem mapError_ok {ε δ α : Type} {result : Except ε α} {f : ε → δ} {value : α}
    (ended : result.mapError f = .ok value) : result = .ok value := by
  cases result with
  | error => cases ended
  | ok =>
    cases ended
    rfl

variable {r : Request}

theorem resolveBy_ok {s : SessionEvent.State} {id : RequestID} {calls : Calls}
    (ended : (resolveBy s id authority calls decision).2 = .ok r) :
    ∃ current, s.permissions.requests.lookup id = some current ∧
      (current.status = decidedStatus decision ∨
        current.status = .pending ∧ s.permissions.now < current.expiresAt) := by
  cases decision with
  | approve | deny => exact resolve_ok (Prod.ext rfl (mapError_ok ended))
  | other => cases ended

theorem decidePresented_ok (keyed : Keyed s.permissions.requests)
    (ended : (decidePresented s acting payload calls).2 = .ok r) :
    ∃ current, s.permissions.requests.lookup payload.requestID = some current ∧
      current.ownerID = acting.id ∧
      (current.status = decidedStatus payload.decision ∨
        current.status = .pending ∧ s.permissions.now < current.expiresAt) := by
  have settles : Settles (fun _ target => target = .expired) s.permissions.requests
      (get s.permissions.requests payload.requestID s.permissions.now calls.get).1 :=
    get_settles fun _ => rfl
  unfold decidePresented at ended
  split at ended
  · cases ended
  rename_i requests row got
  rw [got] at settles
  dsimp only at ended settles
  split at ended
  · cases ended
  split at ended
  · cases ended
  rename_i unexpired owned
  have found : requests.lookup payload.requestID = some row := get_row keyed got
  have key : row.id = payload.requestID := settles.keyed keyed _ _ found
  -- The row has not expired, so it is the one that was there before.
  obtain ⟨current, old, _⟩ := settles.origin found
  have same : row = current := by
    obtain ⟨_, found', change⟩ := settles.2 _ current old
    rw [found] at found'
    cases found'
    rcases change with same | ⟨_, _, _, _, rfl, eq⟩
    · exact same
    · exact absurd (congrArg Request.status eq) unexpired
  subst same
  split at ended
  · cases ended
  rename_i resolved
  obtain ⟨row', found', status⟩ := resolveBy_ok (congrArg Prod.snd resolved)
  change requests.lookup row.id = some row' at found'
  rw [key, found] at found'
  cases found'
  exact ⟨row, old, not_not.mp owned, status⟩

theorem handleSessionEvent_ok {codec : Codec} {s : SessionEvent.State} {gateway : GatewayInstance}
    {sender : VerifiedExternalSender} {event : SessionEvent.Event} {calls : IngressCalls}
    (keyed : Keyed s.permissions.requests)
    (ended : (handleSessionEvent codec s gateway sender event calls).2 = .ok r) :
    ∃ payload principal current, decodePermissionDecision codec event = some payload ∧
      s.identities.resolver.resolve (presentedIdentity gateway sender) = .ok principal ∧
      principal.authority = .owner ∧
      s.presentations.lookup payload.requestID = some event.sessionID ∧
      s.permissions.requests.lookup payload.requestID = some current ∧
      current.ownerID = principal.id ∧
      (current.status = decidedStatus payload.decision ∨
        current.status = .pending ∧ s.permissions.now < current.expiresAt) := by
  unfold handleSessionEvent at ended
  split at ended
  · cases ended
  split at ended
  · cases ended
  rename_i payload decoded
  unfold handleDecision at ended
  split at ended
  · cases ended
  rename_i principal _
  have mapped : s.identities.resolver.resolve (presentedIdentity gateway sender) =
      .ok principal := by grind
  split at ended
  · cases ended
  rename_i sessions _ _
  have decided := mapError_ok ended
  unfold bridgeDecide at decided
  split at decided
  · cases decided
  rename_i configured
  split at decided
  · cases decided
  split at decided
  · cases decided
  split at decided
  · cases decided
  split at decided
  · cases decided
  rename_i presented
  obtain ⟨current, found, owner, status⟩ :=
    decidePresented_ok (s := { s with sessions := sessions }) keyed decided
  exact ⟨payload, principal, current, decoded, mapped,
    configuredOwner_owner (not_not.mp configured),
    not_not.mp presented, found, owner, status⟩

/-! ## The permission system underneath

A step of the whole system is a run of the permission system, so what holds along the runs of
that system holds here. -/

section Permissions

def Reaches (cfg : ExecutorConfig) (p q : Permission.State) : Prop :=
  ∃ trace, (Permission.system cfg).Run free p trace q

theorem Reaches.refl (p : Permission.State) : Reaches cfg p p := ⟨[], .refl p⟩

theorem Reaches.trans (first : Reaches cfg p q) (second : Reaches cfg q u) : Reaches cfg p u := by
  obtain ⟨trace, run⟩ := first
  obtain ⟨later, run'⟩ := second
  exact ⟨trace ++ later, run.trans run'⟩

theorem Reaches.step
    (stepped : Permission.step? cfg p a = some (q, es)) : Reaches cfg p q :=
  ⟨[] ++ es, .tail (.refl p) trivial stepped⟩

theorem Reaches.claimed (reaches : Reaches cfg p q) (inv : Permission.Claimed p) :
    Permission.Claimed q := by
  obtain ⟨_, run⟩ := reaches
  apply run.invariant inv
  intro x y a es inv _ stepped
  exact claimed_kept inv (step_effect stepped)

theorem get_reaches (cfg : ExecutorConfig) (p : Permission.State) (id : RequestID) (calls : Calls) :
    Reaches cfg p (p.withRequests (Permission.get p.requests id p.now calls).1) :=
  .step (show Permission.step? cfg p (.get id calls) = some (_, []) from rfl)

section

variable (cfg : ExecutorConfig) (s : SessionEvent.State)

theorem resolveBy_reaches (id : RequestID)
    (authority : Text) (calls : Calls) (decision : Decision) : Reaches cfg s.permissions
      (s.permissions.withRequests (resolveBy s id authority calls decision).1) := by
  cases decision with
  | approve =>
    exact .step (show Permission.step? cfg s.permissions (.approve id authority calls) =
      some (_, _) from rfl)
  | deny =>
    exact .step (show Permission.step? cfg s.permissions (.deny id authority calls) =
      some (_, _) from rfl)
  | other => exact .refl _

theorem handled_reaches (r : Request) : Reaches cfg s.permissions (s.handled r).permissions := by
  unfold State.handled
  split
  · rename_i decided
    have stepped : Permission.step? cfg s.permissions (.handle r.id r.status) =
        some (({ s.permissions with nextID := s.permissions.nextID + 1 }).at_ s.permissions.nextID
          (.claiming r.id), []) := if_pos decided
    exact .step stepped
  · exact .refl _

theorem decidePresented_reaches (acting : Principal)
    (payload : PermissionDecidedPayload) (calls : DecideCalls) :
    Reaches cfg s.permissions (decidePresented s acting payload calls).1.permissions := by
  have first := get_reaches cfg s.permissions payload.requestID calls.get
  unfold decidePresented
  split
  · rename_i ended
    rw [ended] at first
    exact first
  rename_i requests r ended
  rw [ended] at first
  dsimp only
  split
  · exact first
  split
  · exact first
  have second := resolveBy_reaches cfg (s.withRequests requests) r.id acting.id calls.resolve
    payload.decision
  split
  · rename_i ended'
    rw [ended'] at second
    exact first.trans second
  rename_i requests' resolved ended'
  rw [ended'] at second
  have third := handled_reaches cfg ((s.withRequests requests).withRequests requests') resolved
  exact (first.trans second).trans third

theorem bridgeDecide_reaches (sessionID : SessionID)
    (acting : Principal) (payload : PermissionDecidedPayload) :
    Reaches cfg s.permissions (bridgeDecide s sessionID acting payload calls).1.permissions := by
  unfold bridgeDecide
  split
  · exact .refl _
  split
  · exact .refl _
  split
  · exact .refl _
  split
  · exact .refl _
  split
  · exact .refl _
  · exact decidePresented_reaches cfg s acting payload calls

end

theorem handleSessionEvent_reaches (cfg : ExecutorConfig) (codec : Codec) (s : SessionEvent.State)
    (gateway : GatewayInstance) (sender : VerifiedExternalSender) (event : SessionEvent.Event)
    (calls : IngressCalls) : Reaches cfg s.permissions
      (handleSessionEvent codec s gateway sender event calls).1.permissions := by
  unfold handleSessionEvent
  split
  · exact .refl _
  split
  · exact .refl _
  unfold handleDecision
  split
  · exact .refl _
  split
  · exact .refl _
  · rename_i _ _ _ sessions _ _
    exact bridgeDecide_reaches cfg { s with sessions := sessions } _ _ _

end Permissions

/-! ## Runs -/

section Runs

variable {s t : SessionEvent.State} {es trace : List Event}

theorem permissionStep_effect (stepped : permissionStep cfg s action = some (t, es)) :
    Reaches cfg.executor s.permissions t.permissions ∧ t.presentations = s.presentations := by
  unfold permissionStep at stepped
  split at stepped
  · cases stepped
  · rename_i performed
    cases stepped
    exact ⟨.step performed, rfl⟩

theorem permissionStep_of_restart (stepped : step? cfg s (.restart identities) = some (t, es)) :
    Reaches cfg.executor s.permissions t.permissions ∧ t.presentations = s.presentations := by
  rw [step?] at stepped
  have effect := permissionStep_effect stepped
  exact effect

theorem step_reaches (stepped : step? cfg s a = some (t, es)) :
    Reaches cfg.executor s.permissions t.permissions := by
  cases a with
  | permission action => exact (permissionStep_effect (permissionStep_of_step stepped)).1
  | createSession | closeSession =>
    cases stepped
    exact .refl _
  | interaction gateway sender sessionID calls =>
    cases stepped
    rw [(routeVerifiedInteraction_frame s gateway sender sessionID calls).2]
    exact .refl _
  | present id calls =>
    cases stepped
    rw [(present_effect _ s id calls).permissions]
    exact get_reaches cfg.executor s.permissions id calls.get
  | sessionEvent gateway sender event calls =>
    cases stepped
    exact handleSessionEvent_reaches cfg.executor cfg.codec s gateway sender event calls
  | restart identities => exact (permissionStep_of_restart stepped).1

theorem step_presentations (keyed : Keyed s.permissions.requests)
    (stepped : step? cfg s a = some (t, es)) {id : RequestID}
    (found : t.presentations.lookup id = some sessionID) :
    s.presentations.lookup id = some sessionID ∨ .presented id sessionID ∈ es := by
  cases a with
  | permission action =>
    rw [(permissionStep_effect (permissionStep_of_step stepped)).2] at found
    exact .inl found
  | createSession | closeSession =>
    cases stepped
    exact .inl found
  | interaction gateway sender session calls =>
    cases stepped
    rw [(routeVerifiedInteraction_frame s gateway sender session calls).1.presentations] at found
    exact .inl found
  | present wanted calls =>
    cases stepped
    rcases (present_effect _ s wanted calls).presentations with
      same | ⟨requests, r, selected, got, fresh, made⟩
    · rw [same] at found
      exact .inl found
    have key : r.id = wanted := by
      have settled : Settles (fun _ target => target = .expired) s.permissions.requests
          (get s.permissions.requests wanted s.permissions.now calls.get).1 :=
        get_settles fun _ => rfl
      rw [got] at settled
      exact settled.keyed keyed _ _ (get_row keyed got)
    rw [key] at fresh made
    have absent : s.presentations.lookup wanted = none := AList.lookup_eq_none.mpr fresh
    rw [made, GoMap.lookup_insert_ite] at found
    split at found
    · grind [presentedEvents]
    · exact .inl found
  | sessionEvent gateway sender event calls =>
    cases stepped
    rw [(handleSessionEvent_frame cfg.codec s gateway sender event calls).presentations] at found
    exact .inl found
  | restart identities =>
    rw [(permissionStep_of_restart stepped).2] at found
    exact .inl found

/-- What every state of a run satisfies with the events before it. -/
structure Sound (past : List Event) (s : SessionEvent.State) : Prop where
  claimed : Permission.Claimed s.permissions
  presented : ∀ id sessionID, s.presentations.lookup id = some sessionID →
    .presented id sessionID ∈ past

theorem run_sound (run : (system cfg).Run free (system cfg).init trace s) : Sound trace s := by
  apply run.history
  · exact ⟨claimed_init, nofun⟩
  intro x y a past es sound _ stepped
  constructor
  · exact (step_reaches stepped).claimed sound.claimed
  intro id sessionID found
  rcases step_presentations sound.claimed.keyed stepped found with old | new
  · exact List.mem_append_left es (sound.presented id sessionID old)
  · exact List.mem_append_right past new

end Runs

/-! ## What a guest can influence -/

/-- The actions differ at most in what a guest supplies besides identifiers and the decision: in
the claims of the sender, and in the event around its session and the decision it carries. -/
inductive SameIDs (codec : Codec) : Action → Action → Prop where
  | same (a : Action) : SameIDs codec a a
  | interaction {gateway : GatewayInstance} {sender sender' : VerifiedExternalSender}
      {sessionID : SessionID} {calls : IngressCalls} (platform : sender.platform = sender'.platform)
      (subject : sender.subjectID = sender'.subjectID) :
      SameIDs codec (.interaction gateway sender sessionID calls)
        (.interaction gateway sender' sessionID calls)
  | sessionEvent {gateway : GatewayInstance} {sender sender' : VerifiedExternalSender}
      {event event' : SessionEvent.Event} {calls : IngressCalls}
      (platform : sender.platform = sender'.platform)
      (subject : sender.subjectID = sender'.subjectID)
      (session : event.sessionID = event'.sessionID)
      (decision : decodePermissionDecision codec event = decodePermissionDecision codec event') :
      SameIDs codec (.sessionEvent gateway sender event calls)
        (.sessionEvent gateway sender' event' calls)

theorem handleSessionEvent_decoded : handleSessionEvent codec s gateway sender event calls =
      match decodePermissionDecision codec event with
      | none => (s, .error .invalidEvent)
      | some payload => handleDecision s gateway sender event.sessionID payload calls := by
  grind [handleSessionEvent, decodePermissionDecision]

theorem step_sameIDs (same : SameIDs cfg.codec a b) : step? cfg s a = step? cfg s b := by
  cases same with
  | same => rfl
  | interaction platform subject =>
    rename_i sender sender' _ _
    obtain ⟨_, _, _⟩ := sender
    obtain ⟨_, _, _⟩ := sender'
    cases platform
    cases subject
    rfl
  | sessionEvent platform subject session decision =>
    rename_i sender sender' _ _ _
    obtain ⟨_, _, _⟩ := sender
    obtain ⟨_, _, _⟩ := sender'
    cases platform
    cases subject
    simp only [step?, handleSessionEvent_decoded, session, decision]
    rfl

/-! ## Decisions through a gateway -/

/-- The identifier of an instance holds no white space. -/
theorem trimSpace_gateway (gateway : GatewayInstance) : trimSpace gateway.id = gateway.id := by
  apply trimSpace_of_all
  intro c member
  have valid := gateway.valid
  simp only [validID, decide_eq_true_eq, List.all_eq_true] at valid
  have letter := valid.2 c member
  have code : ∀ d : Char, c = d → c.toNat = d.toNat := fun d same => congrArg Char.toNat same
  simp only [isSpace, decide_eq_false_iff_not]
  rcases letter with range | range | range | same | same | same
  · have low : 97 ≤ c.toNat := range.1
    have high : c.toNat ≤ 122 := range.2
    omega
  · have low : 65 ≤ c.toNat := range.1
    have high : c.toNat ≤ 90 := range.2
    omega
  · have low : 48 ≤ c.toNat := range.1
    have high : c.toNat ≤ 57 := range.2
    omega
  · have value : c.toNat = 45 := code '-' same
    omega
  · have value : c.toNat = 95 := code '_' same
    omega
  · have value : c.toNat = 46 := code '.' same
    omega

theorem maps_parts (maps : Maps configured (presentedIdentity gateway sender) principal) :
    ∃ m ∈ configured, m.resolved = principal ∧
      trimSpace m.identity.gatewayInstanceID = gateway.id ∧
      trimSpace m.identity.platform = trimSpace sender.platform ∧
      trimSpace m.identity.subjectID = trimSpace sender.subjectID := by
  grind [Maps, trimSpace_gateway, validatedKey, presentedIdentity]

/-- In every run, with events from any senders of any gateways, an event approves or denies a
request only if the configuration in force maps the sender of this gateway to a principal with
Owner authority that the request belongs to, and the session of the event is an active one of
this gateway and the one in which the request was presented.  Sequences that differ only in what
guests supply besides identifiers and decisions have the same outcome. -/
theorem gateway_decisions_authorised (cfg : Config) :
    (∀ trace s, (system cfg).Run free (system cfg).init trace s →
      ∀ gateway sender event calls t es,
        step? cfg s (.sessionEvent gateway sender event calls) = some (t, es) →
      ∀ id r, t.permissions.requests.lookup id = some r →
        (r.status = .approved ∨ r.status = .denied) →
        (∀ before, s.permissions.requests.lookup id = some before → before.status ≠ r.status) →
        (∃ m ∈ s.identities.configured,
          trimSpace m.identity.gatewayInstanceID = gateway.id ∧
          trimSpace m.identity.platform = trimSpace sender.platform ∧
          trimSpace m.identity.subjectID = trimSpace sender.subjectID ∧
          m.principal.authority = .owner ∧ trimSpace m.principal.id = r.ownerID) ∧
        (∃ session, s.sessions.sessions.lookup event.sessionID = some session ∧
          session.owner = ⟨.gateway, gateway.id⟩ ∧ session.status = .active) ∧
        .presented id event.sessionID ∈ trace) ∧
    ∀ actions actions', List.Forall₂ (SameIDs cfg.codec) actions actions' →
      ∀ s, (system cfg).replay? free s actions = (system cfg).replay? free s actions' := by
  constructor
  · intro trace s run gateway sender event calls t es stepped id r found decided changed
    have sound := run_sound run
    cases stepped
    have settles := handleSessionEvent_settles cfg.codec gateway sender event calls
      sound.claimed.keyed
    rcases settles.admitted found changed with _ | may
    · grind
    obtain ⟨_, _, maps, owner, old, owned⟩ := may.mapped
    obtain ⟨_, old', same, _⟩ := settles.origin found
    rw [old] at old'
    cases old'
    obtain ⟨m, member, resolved, parts⟩ := maps_parts maps
    refine ⟨⟨m, member, parts.1, parts.2.1, parts.2.2, ?_, ?_⟩, may.session,
      sound.presented id event.sessionID may.presented⟩
    · rw [← owner, ← resolved]
      rfl
    · rw [same, owned, ← resolved]
      rfl
  · intro actions actions' related s
    apply System.replay?_congr _ related s
    intro x a b same
    exact ⟨Iff.rfl, step_sameIDs same⟩

def sampleIdentities : Identities where
  configured := [⟨⟨['g'], ['p'], ['u']⟩, ⟨['o'], .owner⟩⟩]
  resolver :=
    { mappings := (∅ : GoMap IdentityKey Principal).insert ⟨['g'], ['p'], ['u']⟩ ⟨['o'], .owner⟩
      principals := (∅ : GoMap Text Authority).insert ['o'] .owner }
  built := rfl

def sampleConfig : Config where
  executor := Permission.sampleExecutor
  codec :=
    { valid := fun _ => true
      message := fun _ => none
      permissionRequested := fun _ => none
      permissionDecided := fun raw => if raw = [1] then some ⟨1, .approve⟩ else none
      status := fun _ => none
      error := fun _ => none }
  identities := sampleIdentities

def sampleGateway : GatewayInstance := ⟨['g'], rfl⟩

def sampleCalls : IngressCalls :=
  ⟨true, ⟨true, true, true⟩,
    ⟨true, true, true, Permission.allCalls, Permission.allCalls, true⟩⟩

def sampleEvent : SessionEvent.Event := ⟨1, ['e'], ['s'], .permissionDecided, some 1, none, [1]⟩

/-- The Owner writes in a session of the gateway, and a request is presented there. -/
def samplePresentation : List Action :=
  [.createSession ⟨.gateway, ['g']⟩ ['c'] ['s'] true,
    .interaction sampleGateway ⟨['p'], ['u'], []⟩ ['s'] sampleCalls,
    .permission (.call ⟨[], [], [], []⟩ ⟨['i'], ['t'], some []⟩ (some ⟨['t'], ['c'], ['p'], []⟩)
      Permission.failThenUnavailable),
    .present 1 ⟨Permission.allCalls, true, true, true, fun _ => true, true, true, true⟩]

/-- The Owner approves the request, with a claim that nothing reads. -/
theorem gateway_decisions_authorised_approval :
    ∃ trace s t es r, (system sampleConfig).Run free (system sampleConfig).init trace s ∧
      step? sampleConfig s (.sessionEvent sampleGateway ⟨['p'], ['u'], [(['a'], ['b'])]⟩ sampleEvent
        sampleCalls) = some (t, es) ∧
      t.permissions.requests.lookup 1 = some r ∧ r.status = .approved ∧
      .presented 1 ['s'] ∈ trace := by
  obtain ⟨trace, s, t, es, run, _, stepped, facts⟩ := System.reaches?_run
    (show (system sampleConfig).reaches? free samplePresentation
      (.sessionEvent sampleGateway ⟨['p'], ['u'], [(['a'], ['b'])]⟩ sampleEvent sampleCalls)
      (fun s t _ => decide (
        (s.permissions.requests.lookup 1).map Request.status = some .pending ∧
        (t.permissions.requests.lookup 1).map Request.status = some .approved)) = true by decide)
  obtain ⟨pending, approved⟩ := of_decide_eq_true facts
  obtain ⟨r, found, status⟩ := Option.map_eq_some_iff.mp approved
  refine ⟨trace, s, t, es, r, run, stepped, found, status, ?_⟩
  apply ((gateway_decisions_authorised sampleConfig).1 trace s run sampleGateway _ sampleEvent
    sampleCalls t es stepped 1 r found (.inl status) ?_).2.2
  intro before old same
  rw [old, Option.map_some, Option.some.injEq] at pending
  rw [pending, status] at same
  cases same

end NeonDoll.Interaction
