import NeonDoll.Relay.Client

/-!
# Replies and pending operations

The pending map has one entry for a route, and `dispatch` finds the operation by the route and
the generation alone.  Replies reach their exchange as long as the exchanges of one route follow
each other: none is entered while another one is unfinished or a message of the route is still
in flight on its connection, and each one writes on the connection whose generation it has
loaded.
-/

namespace NeonDoll.Relay.Client

open Lib Transition List GoMap Option

/-! ## The admitted steps -/

/-- Between the insertion of the pending operation and its deferred deletion. -/
def ExchangePc.active : ExchangePc → Bool
  | .write => true
  | .wait => true
  | .remove _ => true
  | _ => false

theorem ExchangePc.active_of_unanswered {pc : ExchangePc} (stage : pc = .write ∨ pc = .wait) :
    pc.active = true := by
  obtain rfl | rfl := stage
  all_goals rfl

/-- The request may have gone out. -/
def ExchangePc.written : ExchangePc → Bool
  | .wait => true
  | .remove _ => true
  | .finish _ => true
  | .returned => true
  | _ => false

def Exchange.waiting (e : Exchange) : Bool := e.pc = .wait && e.channel.isNone

/-- Another exchange of the route is unfinished. -/
def State.contended (s : State) (x : ExchangeID) (R : RouteID) : Bool :=
  s.exchanges.entries.any fun entry =>
    entry.1 ≠ x && entry.2.routeID = R && entry.2.pc.active

/-- A message of the route is in flight. -/
def Link.busy (link : Link) (R : RouteID) : Bool :=
  (link.requests.any fun request => CoreMessage.route request.2 = some R) ||
    link.replies.any fun reply => Reply.route reply.2 = some R

/-- The step keeps the exchanges of a route apart. -/
def Orderly (s : State) : Action → Prop
  | .exchange x =>
    ∀ e ∈ s.exchanges.lookup x, e.pc = .insert →
      s.contended x e.routeID = false ∧
        ∀ link ∈ s.links.lookup e.connGen, link.busy e.routeID = false
  | .write x _ => ∀ e ∈ s.exchanges.lookup x, ∀ gen ∈ s.conn, gen = e.connGen
  | _ => True

instance (s : State) : (a : Action) → Decidable (Orderly s a)
  | .exchange x => inferInstanceAs (Decidable (∀ e ∈ s.exchanges.lookup x, e.pc = .insert → _ ∧ _))
  | .write x _ => inferInstanceAs (Decidable (∀ e ∈ s.exchanges.lookup x, ∀ gen ∈ s.conn, _ = _))
  | .call _ _ | .take _ | .giveUp _ | .connect _ | .connectNext _ | .restoreNext _ _
  | .restoreDone | .read _ | .send _ | .readerExit _ | .answer _ _ | .shutdown =>
    inferInstanceAs (Decidable True)

/-! ## The invariant -/

/-- A request of the exchange, or the reply to it, is in flight for the route. -/
@[grind] def Link.Carries (link : Link) (z : ExchangeID) (R : RouteID) : Prop :=
  (∃ message, (z, message) ∈ link.requests ∧ CoreMessage.route message = some R) ∨
    ∃ reply, (z, reply) ∈ link.replies ∧ Reply.route reply = some R

/-- Everything in flight belongs to some route. -/
@[grind] def Link.Routed (link : Link) : Prop :=
  (∀ request ∈ link.requests, CoreMessage.route request.2 ≠ none) ∧
    ∀ reply ∈ link.replies, Reply.route reply.2 ≠ none

@[grind] structure Ordered (s : State) : Prop where
  fresh : ∀ {x e}, s.exchanges.lookup x = some e → x < s.nextExchange
  /-- A pending operation belongs to an unfinished exchange of its route. -/
  owned : ∀ {R op}, s.pending.lookup R = some op → ∃ e, s.exchanges.lookup op.exchange = some e ∧
    e.routeID = R ∧ op.connGen = e.connGen ∧ e.pc.active = true
  /-- An exchange without an answer is pending. -/
  entered : ∀ {x e}, s.exchanges.lookup x = some e → e.pc = .write ∨ e.pc = .wait →
    e.channel = none → s.pending.lookup e.routeID = some ⟨x, e.connGen⟩
  unique : ∀ {x y e f}, s.exchanges.lookup x = some e → s.exchanges.lookup y = some f →
    e.pc.active = true → f.pc.active = true → e.routeID = f.routeID → x = y
  /-- What is in flight was written by an exchange of the route and the generation. -/
  sent : ∀ {g link z R}, s.links.lookup g = some link → link.Carries z R →
    ∃ e, s.exchanges.lookup z = some e ∧ e.routeID = R ∧ e.connGen = g ∧ e.pc.written = true
  /-- An unfinished exchange has the traffic of its route for itself. -/
  alone : ∀ {g link z R y f}, s.links.lookup g = some link → link.Carries z R →
    s.exchanges.lookup y = some f → f.pc.active = true → f.routeID = R → f.connGen = g → z = y
  aimed : ∀ {g link request reply op}, s.links.lookup g = some link →
    link.reader = .sending request reply op → op.exchange = request
  routed : ∀ {g link}, s.links.lookup g = some link → link.Routed

theorem init_ordered : Ordered State.init where
  fresh found := nomatch found
  owned found := nomatch found
  entered found := nomatch found
  unique found := nomatch found
  sent found := nomatch found
  alone found := nomatch found
  aimed found := nomatch found
  routed found := nomatch found

variable {R : RouteID}

theorem contended_false {s : State} {x y : ExchangeID} {f : Exchange}
    (free : s.contended x R = false) (found : s.exchanges.lookup y = some f)
    (active : f.pc.active = true) (route : f.routeID = R) : y = x := by
  have member : (⟨y, f⟩ : Sigma fun _ : ExchangeID => Exchange) ∈ s.exchanges.entries :=
    AList.mem_lookup_iff.mp found
  have refuted := any_eq_false.mp free _ member
  by_contra differ
  exact refuted (by simp [differ, active, route])

theorem Link.not_carries {link : Link} (idle : link.busy R = false) : ¬ link.Carries z R := by
  obtain ⟨requests, replies⟩ := Bool.or_eq_false_iff.mp idle
  rintro (⟨_, member, route⟩ | ⟨_, member, route⟩)
  · exact any_eq_false.mp requests _ member (decide_eq_true route)
  · exact any_eq_false.mp replies _ member (decide_eq_true route)

variable {s t : State} {x : ExchangeID} {e e' : Exchange}

/-! ## Moving one exchange -/

/-- Step rule for an exchange that is not entered in the step. -/
theorem Ordered.advance (ok : Ordered s) (found : s.exchanges.lookup x = some e)
    (exchanges : t.exchanges = s.exchanges.insert x e') (links : t.links = s.links)
    (supply : t.nextExchange = s.nextExchange) (route : e'.routeID = e.routeID)
    (gen : e.pc.active = true ∨ e.pc.written = true → e'.connGen = e.connGen)
    (activity : e'.pc.active = true → e.pc.active = true)
    (written : e.pc.written = true → e'.pc.written = true)
    (unanswered : e'.pc = .write ∨ e'.pc = .wait → e'.channel = none →
      (e.pc = .write ∨ e.pc = .wait) ∧ e.channel = none)
    (pending : ∀ {R op}, t.pending.lookup R = some op →
      s.pending.lookup R = some op ∧ (op.exchange = x → e'.pc.active = true))
    (kept : ∀ {R op}, s.pending.lookup R = some op → op.exchange ≠ x ∨ e'.pc.active = true →
      t.pending.lookup R = some op) : Ordered t where
  fresh foundY := by grind
  owned foundOp := by grind
  entered foundY stage empty := by grind [ExchangePc.active_of_unanswered]
  unique foundY foundZ activeY activeZ same := by grind
  sent foundLink carried := by grind
  alone foundLink carried foundY active routeY genY := by grind
  aimed foundLink := by
    rw [links] at foundLink
    exact ok.aimed foundLink
  routed foundLink := by
    rw [links] at foundLink
    exact ok.routed foundLink

/-- Step rule for an exchange that stays entered, with the pending map as it was. -/
theorem Ordered.advance_active (ok : Ordered s) (found : s.exchanges.lookup x = some e)
    (exchanges : t.exchanges = s.exchanges.insert x e') (links : t.links = s.links)
    (supply : t.nextExchange = s.nextExchange) (pending : t.pending = s.pending)
    (route : e'.routeID = e.routeID) (gen : e'.connGen = e.connGen)
    (before : e.pc.active = true) (after : e'.pc.active = true)
    (written : e.pc.written = true → e'.pc.written = true)
    (unanswered : e'.pc = .write ∨ e'.pc = .wait → e'.channel = none →
      (e.pc = .write ∨ e.pc = .wait) ∧ e.channel = none) : Ordered t := by grind

theorem Ordered.begin (ok : Ordered s) (operation : Operation) (R : RouteID) :
    Ordered (s.begin operation R) := by
  have old : ∀ {y f}, s.exchanges.lookup y = some f →
      (s.begin operation R).exchanges.lookup y = some f := by grind [State.begin]
  -- The new exchange is not entered yet, so everything active was there before.
  have earlier : ∀ {y f}, (s.begin operation R).exchanges.lookup y = some f →
      f.pc.active = true → s.exchanges.lookup y = some f := by
    intro y f found active
    rcases lookup_insert_some found with ⟨-, rfl⟩ | ⟨-, found⟩
    · cases active
    · exact found
  constructor
  · grind [State.begin]
  · intro R' op found
    obtain ⟨f, foundF, facts⟩ := ok.owned found
    exact ⟨f, old foundF, facts⟩
  · intro y f found stage empty
    exact ok.entered (earlier found (ExchangePc.active_of_unanswered stage)) stage empty
  · intro y z f f' foundY foundZ activeY activeZ
    exact ok.unique (earlier foundY activeY) (earlier foundZ activeZ) activeY activeZ
  · intro g link z R' found carried
    obtain ⟨f, foundF, facts⟩ := ok.sent found carried
    exact ⟨f, old foundF, facts⟩
  · intro g link z R' y f found carried foundY active
    exact ok.alone found carried (earlier foundY active) active
  · intro g link request reply op found
    exact ok.aimed found
  · intro g link found
    exact ok.routed found

/-- Before an exchange without rivals is entered, nothing is pending for its route. -/
theorem Ordered.vacant (ok : Ordered s) (found : s.exchanges.lookup x = some e)
    (stage : e.pc = .insert) (free : s.contended x e.routeID = false) :
    s.pending.lookup e.routeID = none := by
  cases pending : s.pending.lookup e.routeID with
  | none => rfl
  | some op =>
    obtain ⟨f, foundF, routeF, -, active⟩ := ok.owned pending
    have same := contended_false free foundF active routeF
    rw [same, found] at foundF
    cases foundF
    rw [stage] at active
    cases active

/-- An exchange is entered: no other one of the route is unfinished, and the connection of its
generation is free of the route. -/
theorem Ordered.insertPending (ok : Ordered s) (found : s.exchanges.lookup x = some e)
    (stage : e.pc = .insert) (free : s.contended x e.routeID = false)
    (idle : ∀ link ∈ s.links.lookup e.connGen, link.busy e.routeID = false) :
    Ordered (insertPending s x e) := by
  have vacant := ok.vacant found stage free
  have exchanges : ∀ y, (Client.insertPending s x e).exchanges.lookup y =
      if y = x then some { e with pc := .write } else s.exchanges.lookup y := by
    grind [Client.insertPending]
  have pending : ∀ R, (Client.insertPending s x e).pending.lookup R =
      if R = e.routeID then some ⟨x, e.connGen⟩ else s.pending.lookup R := by
    grind [Client.insertPending]
  have links : (Client.insertPending s x e).links = s.links := by
    dsimp only [Client.insertPending]
    rw [vacant]
  have supply : (Client.insertPending s x e).nextExchange = s.nextExchange := by
    dsimp only [Client.insertPending]
    rw [vacant]
  constructor
  · grind
  · intro R op foundOp
    rw [pending] at foundOp
    split at foundOp
    · rename_i same
      cases foundOp
      refine ⟨{ e with pc := .write }, ?_, same.symm, rfl, rfl⟩
      rw [exchanges, if_pos rfl]
    · grind
  · grind
  · grind [contended_false]
  · intro g link z R foundLink carried
    rw [links] at foundLink
    obtain ⟨f, foundF, routeF, genF, written⟩ := ok.sent foundLink carried
    refine ⟨f, ?_, routeF, genF, written⟩
    rw [exchanges, if_neg]
    · exact foundF
    intro same
    rw [same, found] at foundF
    cases foundF
    rw [stage] at written
    cases written
  · grind [Link.not_carries]
  all_goals grind

/-! ## Answers from elsewhere -/

theorem lookup_offer (s : State) (y : ExchangeID) (answer : Answer) (x : ExchangeID) :
    (s.offer y answer).exchanges.lookup x =
      if x = y then (s.exchanges.lookup x).map (Exchange.offer answer)
      else s.exchanges.lookup x := by grind [State.offer]

theorem lookup_offerAll (s : State) (ids : List ExchangeID) (answer : Answer) (x : ExchangeID) :
    (s.offerAll ids answer).exchanges.lookup x =
      if x ∈ ids then (s.exchanges.lookup x).map (Exchange.offer answer)
      else s.exchanges.lookup x := by
  dsimp only [State.offerAll]
  generalize s.exchanges = m
  induction ids generalizing m with
  | nil => simp
  | cons id rest ih =>
    rw [foldl_cons, ih, lookup_modify]
    by_cases same : x = id
    · subst same
      simp only [if_true, mem_cons, true_or, Option.map_map]
      split
      · congr 1
        funext e
        grind [Exchange.offer]
      · rfl
    · simp [same]

/-- Step rule for sends: some channels are filled, and an operation leaves the pending map only
if its exchange is among them. -/
theorem Ordered.offered (ok : Ordered s) [DecidablePred among]
    (exchanges : ∀ y, t.exchanges.lookup y =
      if among y then (s.exchanges.lookup y).map (Exchange.offer answer)
      else s.exchanges.lookup y)
    (links : t.links = s.links) (supply : t.nextExchange = s.nextExchange)
    (pending : ∀ {R op}, t.pending.lookup R = some op → s.pending.lookup R = some op)
    (kept : ∀ {R op}, s.pending.lookup R = some op → ¬ among op.exchange →
      t.pending.lookup R = some op) : Ordered t := by
  have earlier : ∀ {y f}, t.exchanges.lookup y = some f →
      ∃ f', s.exchanges.lookup y = some f' ∧ f'.routeID = f.routeID ∧ f'.connGen = f.connGen ∧
        f'.pc = f.pc ∧ (f.channel = none → f'.channel = none ∧ ¬ among y) := by
    grind [map_eq_some_iff, Exchange.offer]
  have later : ∀ {y f}, s.exchanges.lookup y = some f →
      ∃ f', t.exchanges.lookup y = some f' ∧ f'.routeID = f.routeID ∧ f'.connGen = f.connGen ∧
        f'.pc = f.pc := by grind
  constructor
  all_goals grind

/-! ## Connections -/

/-- Step rule for one connection.  It may carry something new of an unfinished exchange. -/
theorem Ordered.relink (ok : Ordered s)
    (links : t.links = s.links.insert g link') (exchanges : t.exchanges = s.exchanges)
    (pending : t.pending = s.pending) (supply : t.nextExchange = s.nextExchange)
    (carry : ∀ {z R}, link'.Carries z R →
      (∃ link, s.links.lookup g = some link ∧ link.Carries z R) ∨
        ∃ e, s.exchanges.lookup z = some e ∧ e.routeID = R ∧ e.connGen = g ∧
          e.pc.written = true ∧ e.pc.active = true)
    (aimed : ∀ {request reply op}, link'.reader = .sending request reply op →
      op.exchange = request) (routed : link'.Routed) : Ordered t where
  fresh found := by grind
  owned found := by grind
  entered found := by grind
  unique foundY foundZ := by
    rw [exchanges] at foundY foundZ
    exact ok.unique foundY foundZ
  sent found carried := by grind
  alone found carried foundY active routeY genY := by grind
  aimed found := by grind
  routed found := by grind

/-- Step rule for a reader that starts, stops or goes back to reading. -/
theorem Ordered.reread (ok : Ordered s) (found : s.links.lookup g = some link)
    (links : t.links = s.links.insert g { link with reader := reader })
    (exchanges : t.exchanges = s.exchanges) (pending : t.pending = s.pending)
    (supply : t.nextExchange = s.nextExchange)
    (idle : ∀ {request reply op}, reader ≠ .sending request reply op) : Ordered t := by
  have routed : link.Routed := ok.routed found
  exact ok.relink links exchanges pending supply (fun carried => .inl ⟨link, found, carried⟩)
    (fun sending => absurd sending idle) routed

theorem Ordered.of_same (ok : Ordered s) (exchanges : t.exchanges = s.exchanges)
    (pending : t.pending = s.pending) (links : t.links = s.links)
    (supply : t.nextExchange = s.nextExchange) : Ordered t where
  fresh := by
    rw [exchanges, supply]
    exact ok.fresh
  owned := by
    rw [exchanges, pending]
    exact ok.owned
  entered := by
    rw [exchanges, pending]
    exact ok.entered
  unique := by
    rw [exchanges]
    exact ok.unique
  sent := by
    rw [exchanges, links]
    exact ok.sent
  alone := by
    rw [exchanges, links]
    exact ok.alone
  aimed := by
    rw [links]
    exact ok.aimed
  routed := by
    rw [links]
    exact ok.routed

/-! ## What a step may do to entries and replies -/

/-- The step is `failPending` of `connect` or the loop of `Shutdown`. -/
inductive Fails (s : State) : Action → ExchangeError → Prop where
  | connect (ok : Bool) : s.connecting = .failPending → Fails s (.connectNext ok) .connectionLost
  | shutdown : s.shutdown = .disconnected → Fails s .shutdown .clientClosed

/-- A pending entry goes by the exchange that created it, or it is failed: then the channel of
its exchange holds the error, unless it held an answer already. -/
@[grind] def RemovedByOwner (s t : State) (a : Action) : Prop :=
  ∀ R op, s.pending.lookup R = some op → t.pending.lookup R ≠ some op →
    a = .exchange op.exchange ∨
      ∃ error before after, Fails s a error ∧ s.exchanges.lookup op.exchange = some before ∧
        t.exchanges.lookup op.exchange = some after ∧
        after.channel = before.channel.or (some (.error error))

/-- A reply is put into the channel of its own exchange, and dropped only if that exchange is
not waiting. -/
def DeliveredToOwner (s : State) : Event → Prop
  | .delivered request target => target = request
  | .dropped request => ∀ e, s.exchanges.lookup request = some e → e.waiting = false

structure Kept (s t : State) (a : Action) (es : List Event) : Prop where
  ordered : Ordered t
  removed : RemovedByOwner s t a
  delivered : ∀ event ∈ es, DeliveredToOwner s event

variable {a : Action} {es : List Event} {g : Generation} {link : Link}

theorem removed_of_same (pending : t.pending = s.pending) : RemovedByOwner s t a := by
  grind

theorem Kept.silent (ordered : Ordered t) (pending : t.pending = s.pending) : Kept s t a [] :=
  ⟨ordered, removed_of_same pending, nofun⟩

theorem delivered_singleton (delivered : DeliveredToOwner s event) :
    ∀ event' ∈ [event], DeliveredToOwner s event' := by
  simpa using delivered

/-- A silent step of the machine is one of its function. -/
theorem quiet_some (stepped : quiet new = some (t, es)) :
    new = some t ∧ es = [] := by
  obtain ⟨_, found, same⟩ := map_eq_some_iff.mp stepped
  obtain ⟨rfl, rfl⟩ := Prod.mk.inj same
  exact ⟨found, rfl⟩

theorem exchange_kept (ok : Ordered s) (found : s.exchanges.lookup x = some e)
    (orderly : Orderly s (.exchange x)) (stepped : exchangeStep s x e = some t) :
    Kept s t (.exchange x) [] := by
  rw [exchangeStep] at stepped
  split at stepped
  · rename_i stage
    cases stepped
    have fresh : e.pc.active = false ∧ e.pc.written = false := by
      rw [stage]
      exact ⟨rfl, rfl⟩
    refine .silent ?_ rfl
    refine ok.advance found rfl rfl rfl rfl ?_ (by rintro ⟨⟩) ?_ (by simp) ?_ ?_
    · grind
    · grind
    · intro R op foundOp
      refine ⟨foundOp, ?_⟩
      rintro rfl
      obtain ⟨f, foundF, -, -, active⟩ := ok.owned foundOp
      rw [found] at foundF
      cases foundF
      rw [fresh.1] at active
      cases active
    · exact fun foundOp _ => foundOp
  · rename_i stage
    cases stepped
    obtain ⟨free, idle⟩ := orderly e found stage
    have vacant := ok.vacant found stage free
    refine ⟨ok.insertPending found stage free idle, ?_, by simp⟩
    intro R op foundOp gone
    refine absurd ?_ gone
    dsimp only [insertPending]
    rw [lookup_insert_ite, if_neg]
    · exact foundOp
    · grind
  · rename_i result stage
    cases stepped
    have active : e.pc.active = true := by
      rw [stage]
      rfl
    -- Under the key of the route there is no entry but the one of this exchange.
    refine ⟨?_, ?_, by simp⟩
    · refine ok.advance found rfl rfl rfl rfl (fun _ => rfl) (by rintro ⟨⟩) (fun _ => rfl)
        (by simp) ?_ ?_
      · grind [State.setExchange]
      · rintro R op foundOp (_ | ended)
        · grind [State.setExchange]
        · cases ended
    · grind [State.setExchange]
  · rename_i _ stage
    cases stepped
    refine .silent ?_ rfl
    refine ok.advance found rfl rfl rfl rfl (fun _ => rfl) (by rintro ⟨⟩) (fun _ => rfl)
      (by simp) ?_ ?_
    · intro R op foundOp
      refine ⟨foundOp, ?_⟩
      rintro rfl
      obtain ⟨f, foundF, -, -, active⟩ := ok.owned foundOp
      rw [found] at foundF
      cases foundF
      rw [stage] at active
      cases active
    · exact fun foundOp _ => foundOp
  all_goals cases stepped

theorem Ordered.leave (ok : Ordered s) (found : s.exchanges.lookup x = some e)
    (stage : e.pc = .write ∨ e.pc = .wait) (result : Answer) (channel : Option Answer) :
    Ordered (s.setExchange x { e with pc := .remove result, channel := channel }) := by
  exact ok.advance_active found rfl rfl rfl rfl rfl rfl (ExchangePc.active_of_unanswered stage) rfl
    (fun _ => rfl) nofun

theorem Operation.message_route (operation : Operation) :
    CoreMessage.route (operation.message R) = some R := by
  cases operation with
  | openRoute token => rfl
  | closeRoute => rfl
  | restore token => rfl

theorem write_kept (ok : Ordered s) (found : s.exchanges.lookup x = some e)
    (stage : e.pc = .write) (orderly : Orderly s (.write x sent)) :
    Kept s (writeStep s x e sent) (.write x sent) [] := by
  rw [writeStep]
  split
  · exact .silent (ok.leave found (.inl stage) _ _) rfl
  rename_i gen conn
  split
  · rename_i link foundLink
    have same : gen = e.connGen := orderly e found gen conn
    have waiting : Ordered (s.setExchange x { e with pc := .wait }) := by
      refine ok.advance_active found rfl rfl rfl rfl rfl rfl ?_ rfl (fun _ => rfl) ?_
      · rw [stage]
        rfl
      · exact fun _ empty => ⟨.inl stage, empty⟩
    refine .silent ?_ rfl
    have aimed : ∀ {request reply op}, link.reader = .sending request reply op →
        op.exchange = request := ok.aimed foundLink
    refine waiting.relink rfl rfl rfl rfl ?_ aimed ⟨?_, (ok.routed foundLink).2⟩
    rintro z R (⟨message, member, route⟩ | carried)
    · obtain old | new := mem_append.mp member
      · exact .inl ⟨link, foundLink, .inl ⟨message, old, route⟩⟩
      · obtain ⟨rfl, rfl⟩ := Prod.mk.inj (mem_singleton.mp new)
        refine .inr ⟨{ e with pc := .wait }, ?_, ?_, same.symm, rfl, rfl⟩
        · dsimp only [State.setExchange]
          rw [lookup_insert_ite, if_pos rfl]
        · rw [Operation.message_route] at route
          exact Option.some.inj route
    · exact .inl ⟨link, foundLink, .inr carried⟩
    · grind [Operation.message_route]
  · exact .silent (ok.leave found (.inl stage) _ _) rfl

variable {op : PendingOp}

theorem mem_pendingExchanges (found : s.pending.lookup R = some op) :
    op.exchange ∈ s.pending.entries.map fun entry => entry.2.exchange :=
  mem_map.mpr ⟨⟨R, op⟩, AList.mem_lookup_iff.mp found, rfl⟩

theorem Ordered.failPending (ok : Ordered s) (error : ExchangeError) :
    Ordered (s.failPending error) := by
  refine ok.offered (lookup_offerAll s _ (.error error)) rfl rfl ?_ ?_
  · intro R op found
    cases found
  · intro R op found other
    exact absurd (mem_pendingExchanges found) other

theorem failPending_removed (ok : Ordered s) (fails : Fails s a error)
    (exchanges : t.exchanges = (s.failPending error).exchanges) : RemovedByOwner s t a := by
  intro R op found _
  obtain ⟨e, foundE, -⟩ := ok.owned found
  refine .inr ⟨error, e, e.offer (.error error), fails, foundE, ?_, rfl⟩
  have looked := lookup_offerAll s (s.pending.entries.map fun entry => entry.2.exchange)
    (.error error) op.exchange
  rw [if_pos (mem_pendingExchanges found), foundE] at looked
  rw [exchanges]
  exact looked

theorem connect_kept (ok : Ordered s) (stepped : connectStep s okay = some t) :
    Kept s t (.connectNext okay) [] := by
  rw [connectStep.eq_def] at stepped
  split at stepped
  · cases stepped
  · cases stepped
    exact .silent (ok.of_same rfl rfl rfl rfl) rfl
  · rename_i stage
    cases stepped
    exact ⟨(ok.failPending .connectionLost).of_same rfl rfl rfl rfl,
      failPending_removed ok (.connect okay stage) rfl, nofun⟩
  · cases stepped
    exact .silent (ok.of_same rfl rfl rfl rfl) rfl
  · constructor <;> grind
  · rename_i gen _
    split at stepped
    · cases stepped
      cases found : s.links.lookup gen with
      | none => grind [Kept]
      | some link => constructor <;> grind [GoMap.modify, Ordered.reread]
    · cases stepped
      exact .silent (ok.of_same rfl rfl rfl rfl) rfl
  · cases stepped
    exact .silent (ok.of_same rfl rfl rfl rfl) rfl
  · cases stepped
    exact .silent (ok.of_same rfl rfl rfl rfl) rfl
  · cases stepped

variable {request : ExchangeID} {reply : Reply}

section

variable (ok : Ordered s) (found : s.links.lookup g = some link)

include ok found

/-- The operation that `dispatch` finds is the one that the reply is for. -/
theorem target_owner (member : (request, reply) ∈ link.replies)
    (target : s.target g reply = some op) : op.exchange = request := by
  rw [State.target] at target
  split at target
  · cases target
  rename_i R route
  split at target
  · cases target
  rename_i _ pending
  split at target
  · rename_i gen
    cases target
    obtain ⟨e, foundE, routeE, genE, active⟩ := ok.owned pending
    exact (ok.alone found (.inr ⟨reply, member, route⟩) foundE active routeE
      (genE.symm.trans gen)).symm
  · cases target

/-- If `dispatch` finds no operation, nobody waits for the reply. -/
theorem target_none (member : (request, reply) ∈ link.replies)
    (target : s.target g reply = none) : DeliveredToOwner s (.dropped request) := by
  intro e foundE
  obtain ⟨R, route⟩ := ne_none_iff_exists'.mp ((ok.routed found).2 _ member)
  obtain ⟨f, foundF, routeF, genF, -⟩ := ok.sent found (.inr ⟨reply, member, route⟩)
  rw [foundE] at foundF
  cases foundF
  cases waiting : e.waiting with
  | false => rfl
  | true =>
    obtain ⟨stage, empty⟩ := (Bool.and_eq_true _ _).mp waiting
    have pending := ok.entered foundE (.inr (of_decide_eq_true stage))
      (isNone_iff_eq_none.mp empty)
    rw [routeF, genF] at pending
    rw [State.target, route] at target
    dsimp only at target
    rw [pending] at target
    dsimp only at target
    rw [if_pos rfl] at target
    cases target

theorem read_kept (stepped : readStep s g link = some (t, es)) : Kept s t (.read g) es := by
  rw [readStep.eq_def] at stepped
  split at stepped
  · rename_i request reply rest _ replies
    have member : (request, reply) ∈ link.replies := by
      rw [replies]
      exact mem_cons_self
    have fewer : ∀ p ∈ rest, p ∈ link.replies := by grind
    have carry : ∀ {reader z R}, (Link.mk link.requests rest reader).Carries z R →
        link.Carries z R := by grind
    have routed : ∀ {reader}, (Link.mk link.requests rest reader).Routed := by
      intro reader
      exact ⟨(ok.routed found).1, fun p later => (ok.routed found).2 p (fewer p later)⟩
    split at stepped
    · rename_i _ target
      cases stepped
      refine .silent ?_ rfl
      refine ok.relink rfl rfl rfl rfl (fun carried => .inl ⟨link, found, carry carried⟩) ?_ routed
      intro request' reply' op' sending
      cases sending
      exact target_owner ok found member target
    · rename_i target
      cases stepped
      refine ⟨?_, removed_of_same rfl, delivered_singleton (target_none ok found member target)⟩
      refine ok.relink rfl rfl rfl rfl (fun carried => .inl ⟨link, found, carry carried⟩) ?_ routed
      intro request' reply' op' sending
      exact ok.aimed found sending
  · cases stepped

theorem send_kept (stepped : sendStep s g link = some (t, es)) : Kept s t (.send g) es := by
  rw [sendStep] at stepped
  split at stepped
  · rename_i request reply op sending
    have own := ok.aimed found sending
    have read : Ordered (s.setLink g { link with reader := .reading }) :=
      ok.reread found rfl rfl rfl rfl nofun
    split at stepped
    · cases stepped
      refine ⟨?_, removed_of_same rfl, delivered_singleton own⟩
      exact read.offered (lookup_offer _ op.exchange (.reply request reply)) rfl rfl
        (fun kept => kept) (fun kept _ => kept)
    · rename_i full
      cases stepped
      refine ⟨read, removed_of_same rfl, delivered_singleton ?_⟩
      intro e foundE
      rw [own, foundE] at full
      cases channel : e.channel with
      | none => simp [channel] at full
      | some answer => simp [Exchange.waiting, channel]
  · cases stepped

theorem answer_kept
    (stepped : answerStep s g link reply = some t) : Kept s t (.answer g reply) [] := by
  rw [answerStep] at stepped
  split at stepped
  · cases stepped
  rename_i request message rest requests
  split at stepped
  · cases stepped
    have asked : (request, message) ∈ link.requests := by
      rw [requests]
      exact mem_cons_self
    have fewer : ∀ p ∈ rest, p ∈ link.requests := by grind
    refine .silent ?_ rfl
    have aimed : ∀ {request reply op}, link.reader = .sending request reply op →
        op.exchange = request := ok.aimed found
    refine ok.relink rfl rfl rfl rfl ?_ aimed ⟨?_, ?_⟩
    · grind
    · intro p later
      exact (ok.routed found).1 p (fewer p later)
    · grind
  · cases stepped

end

/-! ## Every step -/

theorem shutdown_kept (ok : Ordered s) (stepped : shutdownStep s = some t) :
    Kept s t .shutdown [] := by
  rw [shutdownStep] at stepped
  split at stepped
  · cases stepped
    exact .silent (ok.of_same rfl rfl rfl rfl) rfl
  · cases stepped
    exact .silent (ok.of_same rfl rfl rfl rfl) rfl
  · rename_i stage
    cases stepped
    exact ⟨(ok.failPending .clientClosed).of_same rfl rfl rfl rfl,
      failPending_removed ok (.shutdown stage) rfl, nofun⟩
  · cases stepped

theorem restore_kept (ok : Ordered s)
    (stepped : restoreNextStep s R token = some t) : Kept s t (.restoreNext R token) [] := by
  rw [restoreNextStep] at stepped
  split at stepped
  · split at stepped
    · cases stepped
      exact .silent ((ok.begin (.restore token) R).of_same rfl rfl rfl rfl) rfl
    · cases stepped
  · cases stepped

/-- Every orderly step keeps the order, removes entries only as it may, and delivers replies to
their own exchanges. -/
theorem step_kept (ok : Ordered s) (orderly : Orderly s a) (stepped : step? s a = some (t, es)) :
    Kept s t a es := by
  cases a <;> dsimp only [step?] at stepped
  case call operation R =>
    obtain ⟨next, rfl⟩ := quiet_some stepped
    cases next
    split
    · exact .silent (ok.begin operation R) rfl
    · exact .silent ok rfl
  case exchange x =>
    split at stepped
    · cases stepped
    · rename_i e found
      obtain ⟨next, rfl⟩ := quiet_some stepped
      exact exchange_kept ok found orderly next
  case write x sent =>
    split at stepped
    · cases stepped
    rename_i e found
    split at stepped
    · rename_i stage
      obtain ⟨next, rfl⟩ := quiet_some stepped
      cases next
      exact write_kept ok found stage orderly
    · cases stepped
  case take x =>
    split at stepped
    · cases stepped
    rename_i e found
    split at stepped
    · rename_i result stage _
      obtain ⟨next, rfl⟩ := quiet_some stepped
      cases next
      exact .silent (ok.leave found (.inr stage) result none) rfl
    · cases stepped
  case giveUp x =>
    split at stepped
    · cases stepped
    rename_i e found
    split at stepped
    · rename_i stage
      obtain ⟨next, rfl⟩ := quiet_some stepped
      rw [giveUpStep] at next
      split at next
      · cases next
        exact .silent (ok.leave found (.inr stage) _ _) rfl
      split at next
      · cases next
      · cases next
        exact .silent (ok.leave found (.inr stage) _ _) rfl
    · cases stepped
  case connect reconnect =>
    split at stepped
    · obtain ⟨next, rfl⟩ := quiet_some stepped
      cases next
      exact .silent (ok.of_same rfl rfl rfl rfl) rfl
    · cases stepped
  case connectNext okay =>
    obtain ⟨next, rfl⟩ := quiet_some stepped
    exact connect_kept ok next
  case restoreNext R token =>
    obtain ⟨next, rfl⟩ := quiet_some stepped
    exact restore_kept ok next
  case restoreDone =>
    obtain ⟨next, rfl⟩ := quiet_some stepped
    rw [restoreDoneStep] at next
    split at next
    · grind [Kept]
    · cases next
  case read g => grind [read_kept, step?]
  case send g => grind [send_kept, step?]
  case readerExit g =>
    split at stepped
    · cases stepped
    rename_i link found
    split at stepped
    · obtain ⟨next, rfl⟩ := quiet_some stepped
      cases next
      exact .silent (ok.reread found rfl rfl rfl rfl (by simp)) rfl
    · cases stepped
  case answer g reply =>
    split at stepped
    · cases stepped
    · rename_i _ found
      obtain ⟨next, rfl⟩ := quiet_some stepped
      exact answer_kept ok found next
  case shutdown =>
    obtain ⟨next, rfl⟩ := quiet_some stepped
    exact shutdown_kept ok next

/-! ## Runs -/

theorem run_ordered (run : system.Run Orderly State.init trace s) : Ordered s :=
  run.invariant init_ordered fun before orderly stepped =>
    (step_kept before orderly stepped).ordered

/-- In every orderly run a pending entry is removed by the exchange that created it or failed
with an answer, and a reply is delivered to the exchange that has asked for it, if that exchange
is still waiting, and to no other. -/
theorem responses_reach_their_exchange {trace : List Event}
    (run : system.Run Orderly State.init trace s) (orderly : Orderly s a)
    (stepped : system.step? s a = some (t, es)) :
    RemovedByOwner s t a ∧ ∀ event ∈ es, DeliveredToOwner s event := by
  have kept := step_kept (run_ordered run) orderly stepped
  exact ⟨kept.removed, kept.delivered⟩

def connectActions (reconnect : Bool) : List Action :=
  .connect reconnect :: List.replicate 5 (.connectNext true)

/-- `OpenRoute` of route `7` up to its request on the wire; `x` is its exchange. -/
def requestActions (x : ExchangeID) : List Action :=
  [.call (.openRoute 9) 7, .exchange x, .exchange x, .write x true]

/-- One exchange and the reply to it. -/
theorem responses_reach_their_exchange_opened :
    ∃ trace s t es, system.Run Orderly State.init trace s ∧
      system.step? s (.send 1) = some (t, es) ∧ es = [.delivered 0 0] ∧
      RemovedByOwner s t (.send 1) ∧ ∀ event ∈ es, DeliveredToOwner s event := by
  have reached : system.reaches? Orderly
      (connectActions false ++ requestActions 0 ++
        [.answer 1 (.routeOpened 7 4000 (some 2)), .read 1])
      (.send 1) (fun _ _ es => es = [.delivered 0 0]) = true := by decide
  obtain ⟨trace, s, t, es, run, orderly, stepped, found⟩ := System.reaches?_run reached
  exact ⟨trace, s, t, es, run, stepped, of_decide_eq_true found,
    responses_reach_their_exchange run orderly stepped⟩

/-- Two calls open the same route.  The second one replaces the entry of the first, whose
deferred deletion then removes it: the second call waits, its entry is gone, and its channel is
empty. -/
theorem pending_entry_removed_by_other_exchange :
    ∃ trace s t e, system.Run free State.init trace s ∧
      system.step? s (.exchange 0) = some (t, []) ∧
      s.pending.lookup 7 = some ⟨1, 1⟩ ∧ t.pending.lookup 7 = none ∧
      t.exchanges.lookup 1 = some e ∧ e.waiting = true := by
  have reached : system.reaches? free
      (connectActions false ++ requestActions 0 ++ requestActions 1 ++ [.take 0])
      (.exchange 0) (fun s t es => es = [] ∧ s.pending.lookup 7 = some ⟨1, 1⟩ ∧
        t.pending.lookup 7 = none ∧
        t.exchanges.lookup 1 = some ⟨.openRoute 9, 7, 1, .wait, none⟩) = true := by decide
  obtain ⟨trace, s, t, _, run, -, stepped, found⟩ := System.reaches?_run reached
  obtain ⟨rfl, entry, gone, waiting⟩ := of_decide_eq_true found
  exact ⟨trace, s, t, _, run, stepped, entry, gone, waiting, rfl⟩

end NeonDoll.Relay.Client
