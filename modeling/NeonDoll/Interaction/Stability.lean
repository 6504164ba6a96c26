import NeonDoll.Gateway.Abi
import NeonDoll.Interaction.Authority

/-!
# What stays true in Core

Short of a restart with another configuration, the mapping of a sender, the session of a
presentation, the Owner and the expiry of a request and a decision stay as they are, a closed
session stays closed, and an overdue request is not decided any more.
-/

namespace NeonDoll.Interaction

open Lib Transition ExternalIdentity Session SessionEvent Gateway
open Permission (RequestID Request)
open DollMind (ExecutorConfig)

/-- Sessions keep their owner and conversation, and closed ones stay closed. -/
@[grind] def SessionsKept (s t : Store) : Prop :=
  ∀ id session, s.sessions.lookup id = some session →
    ∃ session', t.sessions.lookup id = some session' ∧ session'.owner = session.owner ∧
      session'.externalConversationRef = session.externalConversationRef ∧
      (session.status = .closed → session'.status = .closed)

/-- What a later state keeps. -/
structure Later (s t : SessionEvent.State) : Prop where
  identities : t.identities = s.identities
  sessions : SessionsKept s.sessions t.sessions
  requests : Permission.RequestsKept s.permissions t.permissions
  presentations : ∀ id sessionID, s.presentations.lookup id = some sessionID →
    t.presentations.lookup id = some sessionID

/-! ## Sessions -/

theorem SessionsKept.of_eq (same : t.sessions = s.sessions) : SessionsKept s t := by
  intro id session found
  rw [← same] at found
  exact ⟨session, found, rfl, rfl, fun closed => closed⟩

theorem SessionsKept.trans (first : SessionsKept s t) (second : SessionsKept t u) :
    SessionsKept s u := by
  grind

theorem create_kept (s : Store) (owner : Owner) (ref : Text) (id : SessionID) (ok : Bool) :
    SessionsKept s (create s owner ref id ok).1 := by
  rcases create_cases s owner ref id ok with ⟨e, failed⟩ | ⟨fresh, created⟩
  · rw [failed]
    exact .of_eq rfl
  rw [created]
  intro id' session found
  have other : id' ≠ id := by
    rintro rfl
    exact fresh (AList.lookup_isSome.mp (by rw [found]; rfl))
  refine ⟨session, ?_, rfl, rfl, fun closed => closed⟩
  rw [GoMap.lookup_insert_ite, if_neg other]
  exact found

theorem close_kept (id : SessionID) : SessionsKept s (close s id ok).1 := by
  grind [resumeSession_found, close]

theorem resolvePlatformSession_kept (s : Store) (gateway : GatewayInstance) (ref : Text)
    (calls : SessionCalls) : SessionsKept s (resolvePlatformSession s gateway ref calls).1 := by
  have made := create_kept s (gatewayOwner gateway) ref calls.drawn calls.create
  unfold resolvePlatformSession
  split
  · exact .of_eq rfl
  split
  · exact .of_eq rfl
  · grind
  · exact .of_eq rfl

theorem Reaches.kept (reaches : Reaches cfg p q) (claimed : Permission.Claimed p) :
    Permission.RequestsKept p q := by
  obtain ⟨_, run⟩ := reaches
  have both : Permission.Claimed q ∧ Permission.RequestsKept p q := by
    apply run.invariant (P := fun q => Permission.Claimed q ∧ Permission.RequestsKept p q)
    · exact ⟨claimed, .refl p⟩
    intro x y a es inv _ stepped
    have effect := Permission.step_effect stepped
    exact ⟨Permission.claimed_kept inv.1 effect,
      inv.2.trans (Permission.step_kept inv.1.keyed stepped)⟩
  exact both.2

/-! ## Steps -/

theorem Later.trans (first : Later s t) (second : Later t u) : Later s u where
  identities := second.identities.trans first.identities
  sessions := first.sessions.trans second.sessions
  requests := first.requests.trans second.requests
  presentations := fun id sessionID found =>
    second.presentations id sessionID (first.presentations id sessionID found)

theorem IngressFrame.later (claimed : Permission.Claimed s.permissions)
    (frame : IngressFrame s t) (reaches : Reaches cfg s.permissions t.permissions) : Later s t where
  identities := frame.identities
  sessions := .of_eq frame.sessions
  requests := reaches.kept claimed
  presentations := by
    intro id sessionID found
    rw [frame.presentations]
    exact found

/-- A restart finds the configuration that was there. -/
def Action.keepsIdentities (s : SessionEvent.State) : Action → Prop
  | .restart identities => identities = s.identities
  | _ => True

theorem step_later (claimed : Permission.Claimed s.permissions)
    (keeps : a.keepsIdentities s) (stepped : step? cfg s a = some (t, es)) : Later s t := by
  have requests := (step_reaches stepped).kept claimed
  cases a with
  | permission action =>
    have frame := permissionStep_frame (permissionStep_of_step stepped)
    refine ⟨frame.identities, .of_eq (by rw [frame.sessions]), requests, ?_⟩
    intro id sessionID found
    rw [frame.presentations]
    exact found
  | createSession owner ref id ok =>
    cases stepped
    exact ⟨rfl, create_kept _ owner ref id ok, requests, fun _ _ found => found⟩
  | closeSession id ok =>
    cases stepped
    exact ⟨rfl, close_kept id, requests, fun _ _ found => found⟩
  | interaction gateway sender sessionID calls =>
    have reaches := step_reaches stepped
    cases stepped
    exact (routeVerifiedInteraction_frame s gateway sender sessionID calls).1.later claimed reaches
  | present wanted calls =>
    cases stepped
    have effect := present_effect cfg.executor.manager.validJSON s wanted calls
    refine ⟨effect.identities, .of_eq (by rw [effect.sessions]), requests, ?_⟩
    intro id sessionID found
    rcases effect.presentations with same | ⟨_, r, _, _, fresh, made⟩
    · rw [same]
      exact found
    have other : id ≠ r.id := by
      rintro rfl
      exact fresh (AList.lookup_isSome.mp (by rw [found]; rfl))
    rw [made, GoMap.lookup_insert_ite, if_neg other]
    exact found
  | sessionEvent gateway sender event calls =>
    have reaches := step_reaches stepped
    cases stepped
    exact (handleSessionEvent_frame cfg.codec s gateway sender event calls).later claimed reaches
  | restart identities =>
    cases keeps
    rw [step?] at stepped
    have frame := permissionStep_frame stepped
    refine ⟨frame.identities, .of_eq ?_, requests, ?_⟩
    · rw [frame.sessions]
      exact (reconcile_frame s.sessions _).1
    · intro id sessionID found
      rw [frame.presentations]
      exact found

theorem permissionStep_absent {id : RequestID}
    (stepped : permissionStep cfg s action = some (t, es))
    (absent : s.permissions.requests.lookup id = none) (never : .permission (.created id) ∉ es) :
    t.permissions.requests.lookup id = none := by
  unfold permissionStep at stepped
  split at stepped
  · cases stepped
  rename_i events performed
  cases stepped
  refine Permission.effect_absent (Permission.step_effect performed) absent ?_
  intro created
  exact never (List.mem_map_of_mem created)

theorem step_absent {id : RequestID} (keyed : Permission.Keyed s.permissions.requests)
    (stepped : step? cfg s a = some (t, es))
    (absent : s.permissions.requests.lookup id = none) (never : .permission (.created id) ∉ es) :
    t.permissions.requests.lookup id = none := by
  cases a with
  | permission action => exact permissionStep_absent (permissionStep_of_step stepped) absent never
  | createSession owner ref id ok | closeSession id ok =>
    cases stepped
    exact absent
  | interaction gateway sender sessionID calls =>
    cases stepped
    rw [(routeVerifiedInteraction_frame s gateway sender sessionID calls).2]
    exact absent
  | present wanted calls =>
    cases stepped
    rw [(present_effect _ s wanted calls).permissions]
    exact (Permission.get_settles (P := fun _ _ => True) fun _ => trivial).1 id absent
  | sessionEvent gateway sender event calls =>
    cases stepped
    exact (handleSessionEvent_settles cfg.codec gateway sender event calls keyed).1 id absent
  | restart identities =>
    rw [step?] at stepped
    exact permissionStep_absent stepped absent never

end NeonDoll.Interaction
