import NeonDoll.DollMind.Authority
import NeonDoll.Permission.AtMostOnce
import NeonDoll.Permission.Decisions

/-!
# Who has approved an action

A row keeps its Owner, capability, operation and arguments from its creation on, and it becomes
approved only by `Approve`, which the decision services call for its Owner.  So the action that a
handler continues is the one that the Owner approved.
-/

namespace NeonDoll.Permission

open Lib Transition DollMind List GoMap

variable {s t : State}

/-- The two rows stand for the same action of the same request. -/
@[grind] structure SameAction (r r' : Request) : Prop where
  id : r.id = r'.id
  owner : r.ownerID = r'.ownerID
  capability : r.capability = r'.capability
  operation : r.operation = r'.operation
  arguments : r.arguments = r'.arguments

theorem SameAction.refl (r : Request) : SameAction r r := ⟨rfl, rfl, rfl, rfl, rfl⟩

theorem SameAction.trans (first : SameAction r r')
    (second : SameAction r' r'') : SameAction r r'' :=
  ⟨first.id.trans second.id, first.owner.trans second.owner,
    first.capability.trans second.capability, first.operation.trans second.operation,
    first.arguments.trans second.arguments⟩

def Decodable (cfg : ManagerConfig) (r : Request) : Prop :=
  ∃ arguments, decodeArguments cfg r.arguments = some arguments

/-! ## Where a row comes from -/

/-- The row `r'` comes from `r`: it is the same action, and has not become executable. -/
@[grind] structure Descends (r r' : Request) : Prop where
  action : SameAction r r'
  executable : r'.continuationStatus ≠ .none → r.continuationStatus ≠ .none

theorem Descends.refl (r : Request) : Descends r r := ⟨.refl r, id⟩

/-- Each row of `t` comes from one of `s` or has been created, and has become approved only if
`approval` says so. -/
def RowsFrom (cfg : ManagerConfig) (approval : Request → Prop) (s t : Requests) : Prop :=
  ∀ id r', t.lookup id = some r' →
    (∃ r, s.lookup id = some r ∧ Descends r r' ∧
      (r'.status = .approved → r.status = .approved ∨ approval r')) ∨
    r'.status = .pending ∧ (r'.continuationStatus ≠ .none → Decodable cfg r')

variable {manager : ManagerConfig}

theorem rowsFrom_refl : RowsFrom manager approval table table :=
  fun _ r' found => .inl ⟨r', found, .refl r', .inl⟩

/-- A statement that may fail. -/
theorem rowsFrom_ite (made : Bool) (rows : RowsFrom manager approval table table') :
    RowsFrom manager approval table (if made then table' else table) := by
  split
  · exact rows
  · exact rowsFrom_refl

variable {id : RequestID}

theorem rowsFrom_updateWhere
    (keeps : ∀ r, p r = true → Descends r (f r) ∧ (f r).status = r.status) :
    RowsFrom manager approval table (table.updateWhere id p f).1 := by
  rcases Requests.updateWhere_cases table id p f with ⟨same, _⟩ | ⟨r, _, _, changed⟩
  · rw [same]
    exact rowsFrom_refl
  rw [changed]
  intro id' r' found'
  rw [lookup_insert_ite] at found'
  split at found'
  · grind
  · exact .inl ⟨r', found', .refl r', .inl⟩

theorem rowsFrom_settles (settles : Settles P table table')
    (reported : ∀ id r', table'.lookup id = some r' → P id .approved → r'.status = .approved →
      approval r') : RowsFrom manager approval table table' := by
  intro id r' found'
  cases found : table.lookup id with
  | none =>
    rw [settles.1 id found] at found'
    cases found'
  | some r => grind [Requests.decided]

theorem rowsFrom_recover :
    RowsFrom manager approval table (table.recover ambiguousOutcome now) := by
  intro id r' found'
  rw [Requests.recover, lookup_mapValues, Option.map_eq_some_iff] at found'
  obtain ⟨r, found, rfl⟩ := found'
  refine .inl ⟨r, found, ?_⟩
  rw [Requests.recovered]
  split
  · rename_i running
    exact ⟨⟨⟨rfl, rfl, rfl, rfl, rfl⟩, fun _ => by rw [running.2]; decide⟩, .inl⟩
  split
  · rename_i running
    exact ⟨⟨⟨rfl, rfl, rfl, rfl, rfl⟩, fun _ => by rw [running.2]; decide⟩, .inl⟩
  · exact ⟨.refl r, .inl⟩

theorem decodable_of_validateCreate (valid : validateCreate manager input now = true)
    (executable : (newRequest input id now).continuationStatus ≠ .none) :
    Decodable manager (newRequest input id now) := by
  have action : ¬input.action.trimSpace = [] := by grind [newRequest, hasExecutableAction]
  rw [validateCreate] at valid
  split at valid
  · cases valid
  split at valid
  · cases valid
  rw [validateAction] at valid
  split at valid
  · cases valid
  split at valid
  · cases valid
  split at valid
  · cases valid
  split at valid
  · cases valid
  · rename_i arguments decoded
    exact ⟨arguments, decoded⟩

theorem createStep_rows (stepped : createStep manager s input ok = (t, es)) :
    RowsFrom manager approval s.requests t.requests := by
  obtain ⟨_, ⟨same, _⟩ | ⟨valid, _, inserted, _⟩⟩ := createStep_cases stepped
  · rw [same]
    exact rowsFrom_refl
  rw [inserted]
  intro id r' found
  rw [lookup_insert_ite] at found
  split at found
  · cases found
    exact .inr ⟨rfl, decodable_of_validateCreate valid⟩
  · exact .inl ⟨r', found, .refl r', .inl⟩

variable {r : Request}

theorem claimable_executable (claimable : Requests.claimable r = true) :
    r.continuationStatus ≠ .none := by
  rcases of_decide_eq_true claimable with ⟨_, ready⟩ | ⟨_, denied⟩
  · rw [ready]
    decide
  · rw [denied]
    decide

theorem claimStep_requests :
    (claimStep s h id calls).1.requests = (claimContinuation s.requests id s.now calls).1 := by
  unfold claimStep
  split
  all_goals
    rename_i eq
    rw [eq]
    rfl

theorem rowsFrom_claim : RowsFrom manager approval table (table.claim id now).1 :=
  rowsFrom_updateWhere fun _ claimable =>
    ⟨⟨⟨rfl, rfl, rfl, rfl, rfl⟩, fun _ => claimable_executable claimable⟩, rfl⟩

theorem rowsFrom_release : RowsFrom manager approval table (table.release id now).1 := by
  refine rowsFrom_updateWhere ?_
  intro r met
  have running := (of_decide_eq_true met).2
  exact ⟨⟨⟨rfl, rfl, rfl, rfl, rfl⟩, fun _ => by rw [running]; decide⟩, rfl⟩

theorem rowsFrom_complete :
    RowsFrom manager approval table (table.complete id target outcome now).1 := by
  refine rowsFrom_updateWhere ?_
  intro r met
  have running := of_decide_eq_true met
  exact ⟨⟨⟨rfl, rfl, rfl, rfl, rfl⟩, fun _ => by rw [running]; decide⟩, rfl⟩

section

variable (keyed : ∀ id r, s.requests.lookup id = some r → r.id = id)

include keyed

theorem approve_rows : RowsFrom manager
      (fun r' => ∃ by_, .approved r' by_ ∈ approvedEvents
        (approve s.requests id authority s.now calls).1 id authority)
      s.requests (approve s.requests id authority s.now calls).1 := by
  have settles : Settles (fun id' target => target = .approved → id' = id) s.requests
      (approve s.requests id authority s.now calls).1 :=
    resolve_settles fun r found => ⟨fun _ _ => keyed id r found, nofun⟩
  refine rowsFrom_settles settles ?_
  intro id' r' found here approved
  rw [here rfl] at found
  refine ⟨authority, ?_⟩
  rw [approvedEvents, found]
  dsimp only
  rw [if_pos approved]
  exact mem_singleton_self _

/-- Every row comes from the state before the step, or is a new one; a row becomes approved only
by `Approve`. -/
theorem step_rows
    (stepped : step? cfg s a = some (t, es)) :
    RowsFrom cfg.manager (fun r' => ∃ authority, .approved r' authority ∈ es)
      s.requests t.requests := by
  have undecided : ∀ {table : Requests},
      Settles (fun _ target => target ≠ .approved ∧ target ≠ .pending) s.requests table →
      RowsFrom cfg.manager (fun r' => ∃ authority, .approved r' authority ∈ es)
        s.requests table :=
    fun settles => rowsFrom_settles settles fun _ _ _ no => absurd rfl no.1
  cases a <;> simp only [step?] at stepped
  case tick elapsed | restart =>
    cases stepped
    exact rowsFrom_refl
  case call correlation call tool world =>
    have stepped := Option.some.inj stepped
    unfold callStep at stepped
    split at stepped
    · grind [rowsFrom_refl, createStep_rows]
    · cases stepped
      exact rowsFrom_refl
  case create input ok => exact createStep_rows (Option.some.inj stepped)
  case get id calls =>
    cases stepped
    exact undecided (get_settles fun _ => ⟨by simp, by simp⟩)
  case listPending calls =>
    cases stepped
    exact undecided (listPending_settles (fun _ => ⟨by simp, by simp⟩) (fun _ _ no => no.2) _)
  case approve id authority calls =>
    cases stepped
    exact approve_rows keyed
  case deny id authority calls | cancel id calls =>
    cases stepped
    exact undecided (resolve_settles fun _ _ => ⟨fun _ => ⟨by simp, by simp⟩, ⟨by simp, by simp⟩⟩)
  case expire id calls =>
    cases stepped
    exact undecided (expire_settles fun _ => ⟨by simp, by simp⟩)
  case handle id status =>
    split at stepped
    all_goals
      cases stepped
      exact rowsFrom_refl
  case claim h calls =>
    split at stepped
    · grind [claimStep_requests, claimContinuation, rowsFrom_claim]
    · cases stepped
  case execute h world =>
    split at stepped
    · have moved := Option.some.inj stepped
      unfold executeStep at moved
      split at moved
      all_goals
        cases moved
        exact rowsFrom_refl
    · cases stepped
  case settle h calls =>
    split at stepped
    · cases stepped
      change RowsFrom _ _ _ (releaseContinuation s.requests _ s.now calls).1
      rw [releaseContinuation_table]
      exact rowsFrom_ite calls.update (rowsFrom_release)
    · cases stepped
      change RowsFrom _ _ _ (completeContinuation s.requests _ _ s.now calls).1
      rw [completeContinuation_table]
      exact rowsFrom_ite calls.update (rowsFrom_complete)
    · cases stepped
  case recover ok =>
    cases stepped
    rw [recoverInterruptedContinuations]
    exact rowsFrom_ite ok (rowsFrom_recover)

end

/-! ## Runs -/

/-- What the past says about the state it has led to. -/
structure Approvals (cfg : ExecutorConfig) (past : List Event) (s : State) : Prop where
  approved : ∀ id r, s.requests.lookup id = some r → r.status = .approved →
    ∃ r' authority, .approved r' authority ∈ past ∧ SameAction r' r
  decodable : ∀ id r, s.requests.lookup id = some r → r.continuationStatus ≠ .none →
    Decodable cfg.manager r
  executing : ∀ h r, s.handlers.lookup h = some (.executing r) →
    .claimed h r.id .approved ∈ past ∧
      ∃ row, s.requests.lookup r.id = some row ∧ row.status = .approved ∧ SameAction row r

theorem approvals_init : Approvals cfg [] State.init where
  approved := fun _ _ found => nomatch found
  decodable := fun _ _ found => nomatch found
  executing := fun _ _ found => nomatch found

variable {h : HandlerID}

theorem executing_origin (inv : Claimed s) (effect : Effect cfg s a es t)
    (after : t.handlers.lookup h = some (.executing r)) :
    s.handlers.lookup h = some (.executing r) ∨
      .claimed h r.id .approved ∈ es ∧ t.requests.lookup r.id = some r ∧ r.status = .approved := by
  cases effect with
  | claimed h' id r' found _ requests handlers holder events =>
    by_cases mine : h = h'
    · subst mine
      rcases holder _ after with ⟨_, eq⟩ | ⟨eq, approved⟩
      · cases eq
      injection eq with row
      have key : r.id = id := by
        rw [row]
        exact inv.keyed id r' found
      refine .inr ⟨?_, ?_, ?_⟩
      · rw [events, key, approved]
        exact mem_singleton_self _
      · rw [requests, key, AList.lookup_insert, row]
      · rw [row]
        exact approved
    · rw [handlers h mine] at after
      exact .inl after
  | quiet _ handlers _ =>
    rcases handlers h _ after with ⟨_, eq⟩ | before
    · cases eq
    · exact .inl before
  | restarted _ _ handlers _ =>
    rw [handlers] at after
    cases after
  | created _ _ _ _ handlers _ | decided _ handlers _ | recovered _ handlers _ =>
    rw [handlers] at after
    exact .inl after
  | executed h' _ _ _ _ _ _ _ _ handlers _ => grind
  | released h' _ _ _ _ _ _ _ handlers _ | completed h' _ _ _ _ _ _ _ handlers _ => grind

theorem approvals_kept (inv : Claimed s) (before : Approvals cfg past s)
    (stepped : step? cfg s a = some (t, es)) : Approvals cfg (past ++ es) t where
  approved := by
    intro id r' found approved
    rcases step_rows inv.keyed stepped id r' found with ⟨r, old, descends, origin⟩ | ⟨pending, _⟩
    · grind [Approvals]
    · rw [approved] at pending
      cases pending
  decodable := by
    intro id r' found executable
    rcases step_rows inv.keyed stepped id r' found with ⟨r, old, descends, _⟩ | ⟨_, decodable⟩
    · grind [Approvals, Decodable]
    · exact decodable executable
  executing := by
    intro h r after
    have effect := step_effect stepped
    rcases executing_origin inv effect after with earlier | ⟨claimed, row, approved⟩
    · obtain ⟨claimed, row, found, approved, _⟩ := before.executing h r earlier
      refine ⟨mem_append_left es claimed, ?_⟩
      obtain ⟨row', found', status⟩ := status_final effect found (by rw [approved]; decide)
      refine ⟨row', found', status.trans approved, ?_⟩
      rcases step_rows inv.keyed stepped r.id row' found' with
        ⟨_, _, _, _⟩ | ⟨pending, _⟩
      · grind
      · rw [status, approved] at pending
        cases pending
    · exact ⟨mem_append_right past claimed, r, row, approved, .refl r⟩

/-- The handler continues a request that it has claimed and that its Owner approved with the
capability, the operation and the arguments in question. -/
def ApprovedBy (cfg : ExecutorConfig) (past : List Event) (h : HandlerID) (r : Request)
    (asked : ActionPolicy.Request) : Prop :=
  .claimed h r.id .approved ∈ past ∧
    ∃ r', .approved r' r.ownerID ∈ past ∧ r'.id = r.id ∧
      r'.capability = asked.capability ∧ r'.operation = asked.operation ∧
      decodeArguments cfg.manager r'.arguments = some asked.arguments

/-- Requests have been approved by their Owners. -/
def OwnersApproved (past : List Event) : Prop :=
  ∀ r authority, .approved r authority ∈ past → authority = r.ownerID

theorem approvedBy_of_executing (inv : Claimed s) (approvals : Approvals cfg past s)
    (owners : OwnersApproved past) (executing : s.handlers.lookup h = some (.executing r)) :
    ApprovedBy cfg past h r (askedFor cfg (continuedCall cfg r) (continuedTool r)) := by
  obtain ⟨claimed, row, found, approved, same⟩ := approvals.executing h r executing
  refine ⟨claimed, ?_⟩
  obtain ⟨r', authority, member, first⟩ := approvals.approved r.id row found approved
  obtain ⟨_, found', _, taken⟩ := inv.held h _ r.id executing rfl
  rw [found] at found'
  cases found'
  have executable : row.continuationStatus ≠ .none := by
    rcases taken approved with status | status | status <;> rw [status] <;> decide
  obtain ⟨arguments, decoded⟩ := approvals.decodable r.id row found executable
  have all := first.trans same
  rw [owners r' authority member, all.owner] at member
  refine ⟨r', member, all.id, all.capability, all.operation, ?_⟩
  have decodedNow : decodeArguments cfg.manager r.arguments = some arguments := by
    rw [← same.arguments]
    exact decoded
  rw [all.arguments, decodedNow]
  change _ = some ((decodeArguments cfg.manager r.arguments).getD none)
  rw [decodedNow]
  rfl

/-! ## The result -/

/-- What an event says about authority, with the events before it: whatever a tool call has done
was allowed by the policy, or required an approval and continues a claimed request that its Owner
approved with the same capability, operation and arguments; Bodies are invoked through the Guard,
at most once for each recorded attempt. -/
def Rightful (cfg : ExecutorConfig) (past : List Event) : Event → Prop
  | .called calls => ∃ world correlation call tool,
      (executeCall cfg world correlation call tool false).2 = calls ∧
        Authorised (fun _ => False) calls ∧
        (invocations calls).Sublist
          (executeCall cfg world correlation call tool false).1.attempts
  | .executed h r calls => ∃ world,
      (executeApproved cfg world r).2 = calls ∧ Authorised (ApprovedBy cfg past h r) calls ∧
        (invocations calls).Sublist (executeApproved cfg world r).1.attempts
  | .created _ | .approved _ _ | .claimed _ _ _ | .released _ _ | .completed _ _ | .recovered
  | .restarted => True

theorem Rightful.later (rightful : Rightful cfg past e) : Rightful cfg (past ++ more) e := by
  cases e with
  | executed h r calls =>
    obtain ⟨world, made, authorised, attempts⟩ := rightful
    refine ⟨world, made, authorised.mono ?_, attempts⟩
    intro before call holds acts
    obtain ⟨⟨asked, decision, member, carries, consent⟩, guarded⟩ := holds acts
    refine ⟨⟨asked, decision, member, carries, consent.imp_right ?_⟩, guarded⟩
    rintro ⟨required, claimed, r', approved, same⟩
    exact ⟨required, mem_append_left more claimed, r', mem_append_left more approved, same⟩
  | called | created | approved | claimed | released | completed | recovered | restarted =>
    exact rightful

/-- The step behind a tool call or an approval. -/
def EventOrigin (cfg : ExecutorConfig) (a : Action) (t : State) : Event → Prop
  | .called calls => ∃ world correlation call tool,
      (executeCall cfg world correlation call tool false).2 = calls
  | .approved r authority =>
      ∃ id calls, a = .approve id authority calls ∧ t.requests.lookup id = some r
  | .executed _ _ _ | .created _ | .claimed _ _ _ | .released _ _ | .completed _ _ | .recovered
  | .restarted => True

theorem createStep_origin (stepped : createStep manager s input ok = (t, es)) (member : e ∈ es) :
    EventOrigin cfg a t e := by
  obtain ⟨_, ⟨_, rfl⟩ | ⟨_, _, _, rfl⟩⟩ := createStep_cases stepped
  · cases member
  · rw [mem_singleton.mp member]
    trivial

theorem callStep_origin (stepped : callStep cfg s correlation call tool world = (t, es))
    (member : e ∈ es) : EventOrigin cfg a t e := by
  have called :
      EventOrigin cfg a t (.called (executeCall cfg world correlation call tool false).2) :=
    ⟨world, correlation, call, tool, rfl⟩
  rcases executed : executeCall cfg world correlation call tool false with ⟨outcome, calls⟩
  rw [executed] at called
  unfold callStep at stepped
  rw [executed] at stepped
  split at stepped
  · rename_i eq
    cases eq
    split at stepped
    · cases stepped
      rw [mem_singleton.mp member]
      exact called
    · cases stepped
      rcases mem_cons.mp member with first | rest
      · rw [first]
        exact called
      · exact createStep_origin rfl rest
  · rename_i eq _
    cases eq
    cases stepped
    rw [mem_singleton.mp member]
    exact called

theorem claimStep_origin (stepped : claimStep s h id calls = (t, es)) (member : e ∈ es) :
    EventOrigin cfg a t e := by
  have claims : es = claimEvents s h id calls := by
    unfold claimStep at stepped
    split at stepped <;> exact (congrArg Prod.snd stepped).symm
  rw [claims, claimEvents] at member
  split at member
  · cases member
  split at member
  · rw [mem_singleton.mp member]
    trivial
  · cases member

theorem origin_of_step (stepped : step? cfg s a = some (t, es)) (member : e ∈ es) :
    EventOrigin cfg a t e := by
  cases a <;> simp only [step?] at stepped
  case call correlation call tool world => exact callStep_origin (Option.some.inj stepped) member
  case create input ok => exact createStep_origin (Option.some.inj stepped) member
  case tick | get | listPending | deny | cancel | expire =>
    cases stepped
    cases member
  case approve id authority calls =>
    cases stepped
    rw [approvedEvents] at member
    split at member
    · cases member
    rename_i r found
    split at member
    · rw [mem_singleton.mp member]
      exact ⟨id, calls, rfl, found⟩
    · cases member
  case handle id status =>
    split at stepped <;> cases stepped <;> cases member
  case claim h calls =>
    split at stepped
    · exact claimStep_origin (Option.some.inj stepped) member
    · cases stepped
  case execute h world =>
    split at stepped
    · have moved := Option.some.inj stepped
      unfold executeStep at moved
      split at moved
      all_goals
        cases moved
        rw [mem_singleton.mp member]
        trivial
    · cases stepped
  case settle h calls =>
    split at stepped
    all_goals cases stepped
    all_goals
      split at member
      · rw [mem_singleton.mp member]
        trivial
      · cases member
  case recover ok =>
    cases stepped
    split at member
    · rw [mem_singleton.mp member]
      trivial
    · cases member
  case restart =>
    cases stepped
    rw [mem_singleton.mp member]
    trivial

/-- An approval is the Owner's when the decision services are. -/
theorem ownersApproved_kept {o o' : Office} (inv : Claimed o.state) (before : OwnersApproved past)
    (moves : o.Moves cfg es o') : OwnersApproved (past ++ es) := by
  intro r authority member
  rcases mem_append.mp member with old | fresh
  · exact before r authority old
  rcases moves with ⟨_, none⟩ | ⟨a, stepped, owned⟩
  · rw [none] at fresh
    cases fresh
  obtain ⟨id, calls, action, found'⟩ := origin_of_step stepped fresh
  obtain ⟨row, found, owner⟩ := owned id authority calls action
  obtain ⟨row', after, kept⟩ := (step_kept inv.keyed stepped).rows id row found
  rw [found'] at after
  cases after
  exact (kept.owner.trans owner).symm

/-- What a step of the manager reports is rightful. -/
theorem rightful_of_step (inv : Claimed s) (approvals : Approvals cfg past s)
    (owners : OwnersApproved past) (stepped : step? cfg s a = some (t, es)) (member : e ∈ es) :
    Rightful cfg past e := by
  cases e with
  | called calls =>
    obtain ⟨world, correlation, call, tool, made⟩ := origin_of_step stepped member
    refine ⟨world, correlation, call, tool, made, ?_, ?_⟩
    · rw [← made]
      exact executeCall_authorised fun _ _ => nofun
    · rw [← made]
      exact executeCall_attempts tool false
  | executed h r calls =>
    obtain ⟨executing, _, world, _, _, executed, _⟩ :=
      execution_of_step (step_effect stepped) member
    have made : (executeApproved cfg world r).2 = calls := by rw [executed]
    refine ⟨world, made, ?_, ?_⟩
    · rw [← made]
      refine executeCall_authorised ?_
      intro definition eq _
      cases eq
      exact approvedBy_of_executing inv approvals owners executing
    · rw [← made]
      exact executeCall_attempts _ true
  | created | approved | claimed | released | completed | recovered | restarted => trivial

/-- What is known of the decision services and their past. -/
structure Governed (cfg : ExecutorConfig) (past : List Event) (o : Office) : Prop where
  claims : Claimed o.state
  approvals : Approvals cfg past o.state
  rulings : o.Owned
  owners : OwnersApproved past
  rightful : Throughout (Rightful cfg) past

theorem governed_init : Governed cfg [] (office cfg).init where
  claims := claimed_init
  approvals := approvals_init
  rulings := fun _ _ found => nomatch found
  owners := fun _ _ member => nomatch member
  rightful := .nil

theorem governed_kept (before : Governed cfg past o)
    (stepped : (office cfg).step? o a = some (o', es)) : Governed cfg (past ++ es) o' := by
  obtain ⟨moves, rulings⟩ := Office.step_moves before.claims.keyed before.rulings stepped
  have owners := ownersApproved_kept before.claims before.owners moves
  rcases moves with ⟨same, none⟩ | ⟨b, moved, _⟩
  · rw [none, append_nil] at owners ⊢
    exact ⟨by rw [same]; exact before.claims, by rw [same]; exact before.approvals, rulings,
      owners, before.rightful⟩
  · refine ⟨claimed_kept before.claims (step_effect moved),
      approvals_kept before.claims before.approvals moved, rulings, owners,
      before.rightful.append ?_⟩
    intro earlier e later eq
    have member : e ∈ es := by
      rw [eq]
      exact mem_append_right earlier mem_cons_self
    exact (rightful_of_step before.claims before.approvals before.owners moved member).later

/-- In every run, whatever reaches a Body or a recipient is rightful. -/
theorem actions_authorised (cfg : ExecutorConfig) {trace : List Event} {o : Office}
    (run : (office cfg).Run free (office cfg).init trace o) : Throughout (Rightful cfg) trace :=
  (run.history governed_init fun before _ stepped => governed_kept before stepped).rightful

/-- The tool call of `sampleApproval`, which its Owner approves through `DecisionService.Resolve`
while a stranger is turned away, and a round of the handler that continues it. -/
def sampleDecision : List OfficeAction :=
  (sampleApproval.take 1).map .other ++
    [.decide 1 .approve ⟨some ['s'], allCalls, true⟩,
      .decide 1 .approve ⟨some ['o'], allCalls, true⟩, .record 1 allCalls] ++
    (sampleRound 2 succeeds).map .other

/-- A tool call requires approval, its Owner approves it, and it is continued on a Body. -/
theorem actions_authorised_approval : ∃ trace o,
    (office sampleExecutor).Run free (office sampleExecutor).init trace o ∧
      trace.countP (Event.actsOn 1) = 1 ∧ Throughout (Rightful sampleExecutor) trace := by
  obtain ⟨trace, o, run, acted⟩ := System.replays?_run
    (show (office sampleExecutor).replays? free sampleDecision
      (fun trace _ => decide (trace.countP (Event.actsOn 1) = 1)) = true by decide)
  exact ⟨trace, o, run, of_decide_eq_true acted, actions_authorised sampleExecutor run⟩

end NeonDoll.Permission
