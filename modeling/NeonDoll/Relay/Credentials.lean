import NeonDoll.Relay.Joint
import NeonDoll.Relay.Pending

/-!
# The credentials of a route on both sides

`OpenRoute` keeps the credentials that the Relay has generated; `restoreRoutes` does not.  Both
sides agree about a route as long as it stays in the registry while the client has, or is about to
learn, credentials of it.
-/

namespace NeonDoll.Relay

open Lib Transition List GoMap Option

def Reply.opened : Reply → Option (RouteID × Token)
  | .routeOpened R _ credentials => some (R, credentials.getD 0)
  | _ => none

namespace Client

/-! ## What the client knows -/

def Answer.opened : Answer → Option Token
  | .reply _ answered => (Reply.opened answered).map Prod.snd
  | .error _ => none

/-- The answer that an exchange has taken out of its channel. -/
def ExchangePc.result : ExchangePc → Option Answer
  | .remove result => some result
  | .finish result => some result
  | _ => none

def Exchange.tokens (e : Exchange) : List Token :=
  (e.channel.toList ++ e.pc.result.toList).filterMap Answer.opened

def Reader.reply : Reader → Option Reply
  | .sending _ reply _ => some reply
  | _ => none

/-- The credentials of routes that are on their way to the client. -/
def Link.opened (link : Link) : List (RouteID × Token) :=
  (link.replies.map Prod.snd ++ link.reader.reply.toList).filterMap Reply.opened

/-- The client has stored the credentials for the route or is about to learn them. -/
inductive Knows (s : State) (R : RouteID) (token : Token) : Prop where
  | route {route : ManagedRoute} : s.routes.lookup R = some route →
      route.credentials = token → Knows s R token
  | link {g : Generation} {link : Link} : s.links.lookup g = some link →
      (R, token) ∈ link.opened → Knows s R token
  | exchange {x : ExchangeID} {e : Exchange} : s.exchanges.lookup x = some e →
      e.routeID = R → token ∈ e.tokens → Knows s R token

/-- The client knows any credentials for the route. -/
def State.aware (s : State) (R : RouteID) : Bool :=
  (s.routes.lookup R).isSome ||
    (s.links.entries.any fun entry => entry.2.opened.any fun known => known.1 = R) ||
    s.exchanges.entries.any fun entry => entry.2.routeID = R && !entry.2.tokens.isEmpty

theorem Knows.aware (knows : Knows s R token) : s.aware R = true := by
  rw [State.aware, Bool.or_eq_true, Bool.or_eq_true]
  cases knows with
  | route found _ =>
    refine .inl (.inl ?_)
    rw [found]
    rfl
  | link found member =>
    refine .inl (.inr ?_)
    refine any_eq_true.mpr ⟨_, AList.mem_lookup_iff.mp found, ?_⟩
    exact any_eq_true.mpr ⟨_, member, decide_eq_true rfl⟩
  | @exchange x e found same member =>
    refine .inr ?_
    refine any_eq_true.mpr ⟨_, AList.mem_lookup_iff.mp found, ?_⟩
    have some_ : e.tokens ≠ [] := ne_nil_of_mem member
    simp [same, some_]

/-- Pending operations and deliveries are filed under the route of their exchange. -/
@[grind] structure Keyed (s : State) : Prop where
  fresh : ∀ {x e}, s.exchanges.lookup x = some e → x < s.nextExchange
  pending : ∀ {R op}, s.pending.lookup R = some op →
    ∃ e, s.exchanges.lookup op.exchange = some e ∧ e.routeID = R
  sending : ∀ {g link request reply op}, s.links.lookup g = some link →
    link.reader = .sending request reply op →
    ∃ e, s.exchanges.lookup op.exchange = some e ∧ Reply.route reply = some e.routeID

theorem init_keyed : Keyed State.init where
  fresh found := nomatch found
  pending found := nomatch found
  sending found := nomatch found

/-- After a step the client is in order and knows nothing new. -/
structure Traced (s t : State) : Prop where
  keyed : Keyed t
  known : ∀ {R token}, Knows t R token → Knows s R token

variable {s t : State} {x : ExchangeID} {e e' : Exchange} {g : Generation} {link link' : Link}

/-! ## Step rules -/

/-- A step that leaves exchanges, links and routes alone and enters nothing. -/
theorem Traced.of_same (ok : Keyed s) (exchanges : t.exchanges = s.exchanges)
    (links : t.links = s.links) (routes : t.routes = s.routes)
    (supply : t.nextExchange = s.nextExchange) (pending : t.pending = s.pending) : Traced s t where
  keyed := by grind
  known knows := by
    cases knows with
    | route found same =>
      rw [routes] at found
      exact .route found same
    | link found member =>
      rw [links] at found
      exact .link found member
    | exchange found same member =>
      rw [exchanges] at found
      exact .exchange found same member

/-- No link knows more than before or reads another reply. -/
def LinksFewer (s t : State) : Prop :=
  ∀ {g link'}, t.links.lookup g = some link' → ∃ link, s.links.lookup g = some link ∧
    (∀ known ∈ link'.opened, known ∈ link.opened) ∧
      (link'.reader = link.reader ∨ link'.reader.reply = none)

/-- Exchanges move on or are answered.  No exchange changes its route, every one keeps its place,
and what it holds afterwards was known for its route before. -/
theorem Traced.of_exchanges (ok : Keyed s)
    (after : ∀ {y f'}, t.exchanges.lookup y = some f' → ∃ f, s.exchanges.lookup y = some f ∧
      f'.routeID = f.routeID ∧ ∀ token ∈ f'.tokens, Knows s f.routeID token)
    (kept : ∀ {y f}, s.exchanges.lookup y = some f →
      ∃ f', t.exchanges.lookup y = some f' ∧ f'.routeID = f.routeID)
    (supply : t.nextExchange = s.nextExchange)
    (pending : ∀ {R op}, t.pending.lookup R = some op → s.pending.lookup R = some op ∨
      ∃ f, s.exchanges.lookup op.exchange = some f ∧ f.routeID = R) (links : LinksFewer s t)
    (routes : ∀ {R route}, t.routes.lookup R = some route → Knows s R route.credentials) :
    Traced s t where
  keyed := by
    constructor
    · grind
    · grind
    intro g link' request reply op found reader
    obtain ⟨_, _, -, _ | none_⟩ := links found
    · grind
    · rw [reader] at none_
      cases none_
  known knows := by grind [Knows, LinksFewer]

theorem links_same (same : t.links = s.links) : LinksFewer s t := by grind [LinksFewer]

theorem Traced.advance (ok : Keyed s) (found : s.exchanges.lookup x = some e)
    (exchanges : t.exchanges = s.exchanges.insert x e') (route : e'.routeID = e.routeID)
    (fewer : ∀ token ∈ e'.tokens, token ∈ e.tokens) (supply : t.nextExchange = s.nextExchange)
    (pending : ∀ {R op}, t.pending.lookup R = some op → s.pending.lookup R = some op)
    (links : LinksFewer s t)
    (routes : ∀ {R route}, t.routes.lookup R = some route → Knows s R route.credentials) :
    Traced s t := by
  refine .of_exchanges ok ?_ ?_ supply (fun foundOp => .inl (pending foundOp)) links routes
  · grind [Knows]
  · grind

theorem Exchange.offer_tokens (member : token ∈ (e.offer answer).tokens) :
    token ∈ e.tokens ∨ Answer.opened answer = some token := by
  rw [tokens, mem_filterMap] at member
  obtain ⟨_, member, is⟩ := member
  have kept : ∀ {a}, a ∈ e.channel.toList ++ e.pc.result.toList → Answer.opened a = some token →
      token ∈ e.tokens := fun member is => mem_filterMap.mpr ⟨_, member, is⟩
  obtain channel | result := mem_append.mp member
  · dsimp only [offer] at channel
    cases occupied : e.channel with
    | none => grind
    | some before => grind
  · exact .inl (kept (mem_append_right _ result) is)

/-- Answers go into channels; each of them was known for the route of the exchange. -/
theorem Traced.offered [DecidablePred among] (ok : Keyed s)
    (exchanges : ∀ y, t.exchanges.lookup y = if among y then
      (s.exchanges.lookup y).map (Exchange.offer answer) else s.exchanges.lookup y)
    (learned : ∀ {y f token}, among y → s.exchanges.lookup y = some f →
      Answer.opened answer = some token → Knows s f.routeID token)
    (supply : t.nextExchange = s.nextExchange)
    (pending : ∀ {R op}, t.pending.lookup R = some op → s.pending.lookup R = some op)
    (links : LinksFewer s t) (routes : t.routes = s.routes) : Traced s t := by
  refine .of_exchanges ok ?_ ?_ supply (fun foundOp => .inl (pending foundOp)) links ?_
  · intro y f' foundY
    rw [exchanges] at foundY
    split at foundY
    · rename_i chosen
      obtain ⟨f, before, rfl⟩ := map_eq_some_iff.mp foundY
      refine ⟨f, before, rfl, fun token member => ?_⟩
      obtain held | new := Exchange.offer_tokens member
      · exact .exchange before rfl held
      · exact learned chosen before new
    · exact ⟨f', foundY, rfl, fun token member => .exchange foundY rfl member⟩
  · intro y f foundY
    rw [exchanges, foundY]
    split
    · exact ⟨_, rfl, rfl⟩
    · exact ⟨_, rfl, rfl⟩
  · intro R route foundR
    rw [routes] at foundR
    exact .route foundR rfl

theorem Traced.relink (ok : Keyed s) (links : t.links = s.links.insert g link')
    (exchanges : t.exchanges = s.exchanges) (routes : t.routes = s.routes)
    (supply : t.nextExchange = s.nextExchange) (pending : t.pending = s.pending)
    (old : ∀ {R token}, (R, token) ∈ link'.opened → Knows s R token)
    (aimed : ∀ {request reply op}, link'.reader = .sending request reply op →
      ∃ f, s.exchanges.lookup op.exchange = some f ∧ Reply.route reply = some f.routeID) :
    Traced s t where
  keyed := by grind
  known knows := by grind [Knows]

theorem Traced.begin (ok : Keyed s) (operation : Operation) (R : RouteID) :
    Traced s (s.begin operation R) := by
  have old : ∀ {y f}, s.exchanges.lookup y = some f →
      (s.begin operation R).exchanges.lookup y = some f := by grind [State.begin]
  constructor
  · constructor
    · grind [State.begin]
    · intro R' op found
      obtain ⟨f, foundF, route⟩ := ok.pending found
      exact ⟨f, old foundF, route⟩
    · intro g link request reply op found reader
      obtain ⟨f, foundF, route⟩ := ok.sending found reader
      exact ⟨f, old foundF, route⟩
  · intro R' token knows
    cases knows with
    | route found same => exact .route found same
    | link found member => exact .link found member
    | exchange found same member =>
      rcases lookup_insert_some found with ⟨-, rfl⟩ | ⟨-, found⟩
      · cases member
      · exact .exchange found same member

theorem Traced.trans (first : Traced s m) (second : Traced m t) : Traced s t :=
  ⟨second.keyed, fun knows => first.known (second.known knows)⟩

/-! ## Exchanges -/

theorem Exchange.tokens_of_held (held : ∀ answer ∈ e'.channel.toList ++ e'.pc.result.toList,
    answer ∈ e.channel.toList ++ e.pc.result.toList ∨ Answer.opened answer = none) :
    ∀ token ∈ e'.tokens, token ∈ e.tokens := by
  intro token member
  obtain ⟨answer, member, is⟩ := mem_filterMap.mp member
  obtain before | none_ := held answer member
  · exact mem_filterMap.mpr ⟨answer, before, is⟩
  · rw [none_] at is
    cases is

/-- What a call writes into the routes, it had learned for its route. -/
theorem recordResult_known (found : (recordResult routes e result).lookup R = some route) :
    (∃ before, routes.lookup R = some before ∧ before.credentials = route.credentials) ∨
      R = e.routeID ∧ Answer.opened result = some route.credentials := by
  rw [recordResult.eq_def] at found
  split at found
  · exact .inl ⟨route, found, rfl⟩
  split at found
  · split at found
    · rcases lookup_insert_some found with ⟨same, rfl⟩ | ⟨-, found⟩
      · exact .inr ⟨same, rfl⟩
      · exact .inl ⟨route, found, rfl⟩
    · grind
    · grind [map_eq_some_iff]
    · grind
    · exact .inl ⟨route, found, rfl⟩
  · exact .inl ⟨route, found, rfl⟩

section

variable (ok : Keyed s) (found : s.exchanges.lookup x = some e)

include ok found

/-- An exchange enters its operation under its own route. -/
theorem Traced.enter (route : e.routeID = R) (gen : Generation) : Traced s { s with
      pending := s.pending.insert R ⟨x, gen⟩
      exchanges := GoMap.modify s.exchanges x fun e => { e with pc := .write } } := by
  have settled : ∀ token ∈ ({ e with pc := .write } : Exchange).tokens, token ∈ e.tokens := by
    refine Exchange.tokens_of_held fun answer member => .inl ?_
    obtain channel | result := mem_append.mp member
    · exact mem_append_left _ channel
    · cases result
  refine .of_exchanges ok ?_ ?_ rfl ?_ (links_same rfl) (fun foundR => .route foundR rfl)
  · intro y f' foundY
    rw [lookup_modify, found] at foundY
    split at foundY
    · rename_i same
      cases foundY
      subst same
      exact ⟨e, found, rfl, fun token member => .exchange found rfl (settled token member)⟩
    · exact ⟨f', foundY, rfl, fun token member => .exchange foundY rfl member⟩
  · grind
  · grind

theorem insertPending_traced : Traced s (insertPending s x e) := by
  rw [insertPending]
  split
  · exact .enter ok found rfl e.connGen
  rename_i existing _
  -- The operation that is there already is failed first.
  have failed : Traced s (s.offer existing.exchange (.error .connectionLost)) :=
    .offered ok (lookup_offer s existing.exchange (.error .connectionLost))
      (by rintro _ _ _ _ _ ⟨⟩) rfl id (links_same rfl) rfl
  have here : ∃ f, (s.offer existing.exchange (.error .connectionLost)).exchanges.lookup x =
      some f ∧ f.routeID = e.routeID := by
    rw [lookup_offer, found]
    split
    · exact ⟨_, rfl, rfl⟩
    · exact ⟨e, rfl, rfl⟩
  obtain ⟨f, foundF, route⟩ := here
  exact failed.trans (.enter failed.keyed foundF route e.connGen)

theorem exchange_traced (stepped : exchangeStep s x e = some t) : Traced s t := by
  rw [exchangeStep] at stepped
  split at stepped
  · rename_i stage
    cases stepped
    refine .advance ok found rfl rfl ?_ rfl id (links_same rfl) (fun foundR => .route foundR rfl)
    refine Exchange.tokens_of_held fun answer member => .inl ?_
    rw [stage]
    exact member
  · cases stepped
    exact insertPending_traced ok found
  · rename_i result stage
    cases stepped
    refine .advance ok found rfl rfl ?_ rfl ?_ (links_same rfl) (fun foundR => .route foundR rfl)
    · refine Exchange.tokens_of_held fun answer member => .inl ?_
      rw [stage]
      exact member
    · grind [State.setExchange]
  · rename_i result stage
    cases stepped
    refine .advance ok found rfl rfl ?_ rfl id (links_same rfl) ?_
    · refine Exchange.tokens_of_held fun answer member => .inl ?_
      obtain channel | none_ := mem_append.mp member
      · exact mem_append_left _ channel
      · cases none_
    · intro R route foundR
      obtain ⟨_, foundB, same⟩ | ⟨rfl, learned⟩ := recordResult_known foundR
      · exact .route foundB same
      · refine .exchange found rfl (mem_filterMap.mpr ⟨result, ?_, learned⟩)
        rw [stage]
        exact mem_append_right _ mem_cons_self
  · cases stepped
  · cases stepped
  · cases stepped

theorem Traced.leave (result : Answer)
    (channel : Option Answer) (held : ∀ answer ∈ channel.toList ++ [result],
      answer ∈ e.channel.toList ∨ Answer.opened answer = none) :
    Traced s (s.setExchange x { e with pc := .remove result, channel := channel }) := by
  refine .advance ok found rfl rfl ?_ rfl id (links_same rfl) (fun foundR => .route foundR rfl)
  refine Exchange.tokens_of_held fun answer member => ?_
  obtain before | none_ := held answer member
  · exact .inl (mem_append_left _ before)
  · exact .inr none_

theorem Traced.fail (error : ExchangeError) :
    Traced s (s.setExchange x { e with pc := .remove (.error error) }) := by
  refine .leave ok found (.error error) e.channel fun answer member => ?_
  obtain before | new := mem_append.mp member
  · exact .inl before
  · obtain rfl := mem_singleton.mp new
    exact .inr rfl

theorem write_traced (stage : e.pc = .write) (sent : Bool) : Traced s (writeStep s x e sent) := by
  rw [writeStep.eq_def]
  split
  · exact .fail ok found .notConnected
  split
  · rename_i link foundLink
    refine .advance ok found rfl rfl ?_ rfl id ?_ (fun foundR => .route foundR rfl)
    · refine Exchange.tokens_of_held fun answer member => .inl ?_
      rw [stage]
      exact member
    intro g' link' foundL
    rcases lookup_insert_some foundL with ⟨rfl, rfl⟩ | ⟨-, foundL⟩
    · exact ⟨link, foundLink, fun _ member => member, .inl rfl⟩
    · exact ⟨link', foundL, fun _ member => member, .inl rfl⟩
  · exact .fail ok found .write

end

/-! ## Connections and replies -/

theorem failPending_traced (ok : Keyed s)
    (exchanges : t.exchanges = (s.failPending error).exchanges) (links : t.links = s.links)
    (routes : t.routes = s.routes) (supply : t.nextExchange = s.nextExchange)
    (pending : t.pending = ∅) : Traced s t := by
  have looked := lookup_offerAll s (s.pending.entries.map fun entry => entry.2.exchange)
    (.error error)
  have offered : ∀ y, t.exchanges.lookup y =
      if y ∈ s.pending.entries.map fun entry => entry.2.exchange then
        (s.exchanges.lookup y).map (Exchange.offer (.error error))
      else s.exchanges.lookup y := by
    intro y
    rw [exchanges]
    exact looked y
  refine .offered ok offered nofun supply ?_ (links_same links) routes
  intro R op found
  rw [pending] at found
  cases found

theorem connect_traced (ok : Keyed s) (stepped : connectStep s okay = some t) : Traced s t := by
  rw [connectStep.eq_def] at stepped
  split at stepped
  · cases stepped
  · cases stepped
    exact .of_same ok rfl rfl rfl rfl rfl
  · cases stepped
    exact failPending_traced ok rfl rfl rfl rfl rfl
  · cases stepped
    exact .of_same ok rfl rfl rfl rfl rfl
  · split at stepped
    · cases stepped
      exact .relink ok rfl rfl rfl rfl rfl (by rintro _ _ ⟨⟩) (by simp)
    · cases stepped
      exact .of_same ok rfl rfl rfl rfl rfl
  · rename_i gen _
    split at stepped
    · cases stepped
      cases found : s.links.lookup gen with
      | none =>
        refine .of_same ok rfl ?_ rfl rfl rfl
        rw [GoMap.modify, found]
      | some link =>
        have links : GoMap.modify s.links gen (fun link => { link with reader := .reading }) =
            s.links.insert gen { link with reader := .reading } := by
          rw [GoMap.modify, found]
        refine .relink ok links rfl rfl rfl rfl (fun member => .link found ?_) (by simp)
        obtain ⟨reply, member, is⟩ := mem_filterMap.mp member
        obtain queued | none_ := mem_append.mp member
        · exact mem_filterMap.mpr ⟨reply, mem_append_left _ queued, is⟩
        · cases none_
    · cases stepped
      exact .of_same ok rfl rfl rfl rfl rfl
  · cases stepped
    exact .of_same ok rfl rfl rfl rfl rfl
  · cases stepped
    exact .of_same ok rfl rfl rfl rfl rfl
  · cases stepped

theorem Link.opened_of_queued (member : known ∈ link'.opened)
    (queued : ∀ entry ∈ link'.replies, entry ∈ link.replies)
    (hand : ∀ reply, link'.reader.reply = some reply → (∃ z, (z, reply) ∈ link.replies) ∨
      link.reader.reply = some reply) : known ∈ link.opened := by
  obtain ⟨reply, member, is⟩ := mem_filterMap.mp member
  refine mem_filterMap.mpr ⟨reply, ?_, is⟩
  obtain inQueue | _ := mem_append.mp member
  · obtain ⟨entry, listed, rfl⟩ := mem_map.mp inQueue
    exact mem_append_left _ (mem_map_of_mem (queued entry listed))
  · grind

theorem Reply.route_of_opened
    (is : Reply.opened reply = some (R, token)) : Reply.route reply = some R := by
  cases reply with
  | routeOpened R' endpoint credentials =>
    cases is
    rfl
  | _ => cases is

theorem target_pending (target : s.target g reply = some op) :
    ∃ R, Reply.route reply = some R ∧ s.pending.lookup R = some op := by
  grind [State.target]

theorem read_traced (ok : Keyed s) (found : s.links.lookup g = some link)
    (stepped : readStep s g link = some (t, es)) : Traced s t := by
  rw [readStep.eq_def] at stepped
  split at stepped
  · rename_i request _ rest _ replies
    have queued : ∀ entry ∈ rest, entry ∈ link.replies := by grind
    split at stepped
    · rename_i _ target
      cases stepped
      refine .relink ok rfl rfl rfl rfl rfl (fun member => .link found ?_) ?_
      · refine Link.opened_of_queued member queued ?_
        intro reply' inHand
        obtain rfl := Option.some.inj inHand
        rw [replies]
        exact .inl ⟨request, mem_cons_self⟩
      · intro request' reply' op' reader
        cases reader
        obtain ⟨R, route, pending⟩ := target_pending target
        obtain ⟨f, foundF, same⟩ := ok.pending pending
        exact ⟨f, foundF, route.trans (congrArg some same.symm)⟩
    · cases stepped
      refine .relink ok rfl rfl rfl rfl rfl (fun member => .link found ?_) ?_
      · exact Link.opened_of_queued member queued fun _ inHand => .inr inHand
      · intro request' reply' op' reader
        exact ok.sending found reader
  · cases stepped

theorem send_traced (ok : Keyed s) (found : s.links.lookup g = some link)
    (stepped : sendStep s g link = some (t, es)) : Traced s t := by
  rw [sendStep.eq_def] at stepped
  split at stepped
  · rename_i request reply op reader
    have fewer : ∀ known ∈ ({ link with reader := .reading } : Link).opened, known ∈ link.opened :=
      fun known member => Link.opened_of_queued member (fun _ queued => queued) nofun
    split at stepped
    · cases stepped
      refine .offered ok (lookup_offer _ op.exchange (.reply request reply)) ?_ rfl id ?_ rfl
      · rintro y f _ rfl foundF opened
        obtain ⟨⟨R, _⟩, is, rfl⟩ := map_eq_some_iff.mp opened
        obtain ⟨_, foundF', route⟩ := ok.sending found reader
        obtain rfl := Option.some.inj (foundF.symm.trans foundF')
        obtain rfl := Option.some.inj ((Reply.route_of_opened is).symm.trans route)
        refine .link found (mem_filterMap.mpr ⟨reply, ?_, is⟩)
        rw [reader]
        exact mem_append_right _ mem_cons_self
      · intro g' link' foundL
        rcases lookup_insert_some foundL with ⟨rfl, rfl⟩ | ⟨-, foundL⟩
        · exact ⟨link, found, fewer, .inr rfl⟩
        · exact ⟨link', foundL, fun _ member => member, .inl rfl⟩
    · cases stepped
      exact .relink ok rfl rfl rfl rfl rfl (fun member => .link found (fewer _ member)) nofun
  · cases stepped

/-! ## Every step -/

variable {es : List Event}

/-- On its own the client learns nothing. -/
theorem step_traced (ok : Keyed s) (own : ∀ g reply, a ≠ .answer g reply)
    (stepped : step? s a = some (t, es)) : Traced s t := by
  cases a <;> dsimp only [step?] at stepped
  case call operation R =>
    obtain ⟨next, rfl⟩ := quiet_some stepped
    cases next
    split
    · exact .begin ok operation R
    · exact ⟨ok, id⟩
  case exchange x =>
    split at stepped
    · cases stepped
    · grind [quiet_some, exchange_traced]
  case write x sent =>
    split at stepped
    · cases stepped
    rename_i e found
    split at stepped
    · rename_i stage
      obtain ⟨next, rfl⟩ := quiet_some stepped
      cases next
      exact write_traced ok found stage sent
    · cases stepped
  case take x =>
    split at stepped
    · cases stepped
    rename_i e found
    split at stepped
    · rename_i result _ channel
      obtain ⟨next, rfl⟩ := quiet_some stepped
      cases next
      refine .leave ok found result none fun answer member => .inl ?_
      rw [channel]
      exact member
    · cases stepped
  case giveUp x =>
    split at stepped
    · cases stepped
    rename_i e found
    split at stepped
    · obtain ⟨next, rfl⟩ := quiet_some stepped
      rw [giveUpStep] at next
      split at next
      · cases next
        exact .fail ok found .clientClosed
      split at next
      · cases next
      · cases next
        exact .fail ok found .context
    · cases stepped
  case connect reconnect =>
    split at stepped
    · obtain ⟨next, rfl⟩ := quiet_some stepped
      cases next
      exact .of_same ok rfl rfl rfl rfl rfl
    · cases stepped
  case connectNext okay =>
    obtain ⟨next, rfl⟩ := quiet_some stepped
    exact connect_traced ok next
  case restoreNext R token =>
    obtain ⟨next, rfl⟩ := quiet_some stepped
    rw [restoreNextStep] at next
    split at next
    · split at next
      · cases next
        have begun : Traced s (s.begin (.restore token) R) := .begin ok (.restore token) R
        exact begun.trans (.of_same begun.keyed rfl rfl rfl rfl rfl)
      · cases next
    · cases next
  case restoreDone =>
    obtain ⟨next, rfl⟩ := quiet_some stepped
    rw [restoreDoneStep] at next
    split at next
    · split at next
      · cases next
        exact .of_same ok rfl rfl rfl rfl rfl
      · cases next
    · cases next
  case read g =>
    split at stepped
    · cases stepped
    · rename_i link found
      exact read_traced ok found stepped
  case send g =>
    split at stepped
    · cases stepped
    · rename_i link found
      exact send_traced ok found stepped
  case readerExit g =>
    split at stepped
    · cases stepped
    rename_i link found
    split at stepped
    · obtain ⟨next, rfl⟩ := quiet_some stepped
      cases next
      refine .relink ok rfl rfl rfl rfl rfl (fun member => .link found ?_) (by simp)
      exact Link.opened_of_queued member (fun _ queued => queued) (by rintro _ ⟨⟩)
    · cases stepped
  case answer g reply => exact absurd rfl (own g reply)
  case shutdown =>
    obtain ⟨next, rfl⟩ := quiet_some stepped
    rw [shutdownStep] at next
    split at next
    · cases next
      exact .of_same ok rfl rfl rfl rfl rfl
    · cases next
      exact .of_same ok rfl rfl rfl rfl rfl
    · cases next
      exact failPending_traced ok rfl rfl rfl rfl rfl
    · cases next

/-- From an answer of the Relay it learns what the answer carries. -/
theorem answer_known {reply : Reply} (ok : Keyed s)
    (stepped : step? s (.answer g reply) = some (t, es)) : Keyed t ∧ ∀ {R token}, Knows t R token →
      Knows s R token ∨ Reply.opened reply = some (R, token) := by
  dsimp only [step?] at stepped
  split at stepped
  · cases stepped
  rename_i link found
  obtain ⟨next, rfl⟩ := quiet_some stepped
  rw [answerStep] at next
  split at next
  · cases next
  split at next
  · cases next
    constructor
    · grind [State.setLink]
    intro R token knows
    cases knows with
    | route foundR same => exact .inl (.route foundR same)
    | exchange foundX same member => exact .inl (.exchange foundX same member)
    | link foundL member =>
      rcases lookup_insert_some foundL with ⟨-, rfl⟩ | ⟨-, foundL⟩
      · obtain ⟨reply', member, is⟩ := mem_filterMap.mp member
        have cases_ : reply' = reply ∨
            reply' ∈ link.replies.map Prod.snd ++ link.reader.reply.toList := by grind
        obtain rfl | before := cases_
        · exact .inr is
        · exact .inl (.link found (mem_filterMap.mpr ⟨reply', before, is⟩))
      · exact .inl (.link foundL member)
  · cases next

end Client

/-! ## What the Relay replies -/

/-- The reply that a failed `RouteOpen` has still to send. -/
def CorePc.stored : CorePc → Option Reply
  | .rollbackEndpoint _ _ reply _ => some reply
  | .rollbackRoute _ reply => some reply
  | _ => none

/-- A failed `RouteOpen` tells no credentials. -/
def Declining (s : State) : Prop :=
  ∀ c core reply, s.cores.lookup c = some core → core.pc.stored = some reply →
    Reply.opened reply = none

/-- The route of a `RouteOpened` that the connection is about to send. -/
def State.replying (s : State) (c : RegistrationID) : Option RouteID :=
  match s.cores.lookup c with
  | some ⟨_, .openReply routeID _⟩ => some routeID
  | _ => none

/-- After a step of a Core's goroutine the credentials in its replies are those of the registry. -/
structure Candid (s t : State) (c : RegistrationID) (es : List Event) : Prop where
  declining : Declining t
  current : ∀ {c' reply R token}, Event.reply c' reply ∈ es →
    Reply.opened reply = some (R, token) → s.replying c = some R ∧
      t.registry = s.registry ∧ token = (s.registry.routeCredentialsFromEntry R).getD 0

variable {cfg : Config} {s t : State} {es : List Event} {c : RegistrationID}
  {core core' : CoreConn} {R : RouteID} {socket : Option UDPEndpoint} {rand : Bool}

theorem init_declining : Declining (State.init cfg) := by
  simp [Declining, State.init]

section

variable (ok : Declining s) (cores : t.cores = s.cores.insert c core')
  (plain : ∀ {reply}, core'.pc.stored = some reply → Reply.opened reply = none)

include ok cores plain

theorem Declining.insert : Declining t := by
  grind [Declining]

theorem Candid.silent (quiet : ∀ {c reply}, Event.reply c reply ∈ es → Reply.opened reply = none) :
    Candid s t c es where
  declining := ok.insert cores plain
  current member opened := by
    rw [quiet member] at opened
    cases opened

end

theorem detachBody_setCore_cores :
    ((s.detachBody R).1.setCore c core).cores = s.cores.insert c core := by
  dsimp only [State.setCore]
  rw [(detachBody_frame s R).2.1]

theorem detachEvents_no_reply : Event.reply c' reply ∉ detachEvents c R cause target := by
  cases target with
  | none => exact not_mem_nil
  | some b =>
    intro member
    cases mem_singleton.mp member

theorem singleton_reply
    (plain : Reply.opened own = none) (member : Event.reply c' reply ∈ [Event.reply c own]) :
    Reply.opened reply = none := by
  cases mem_singleton.mp member
  exact plain

theorem dispatch_plain : (core.dispatch message).1.stored = none ∧
      ∀ reply ∈ (core.dispatch message).2, Reply.opened reply = none := by
  rw [CoreConn.dispatch.eq_def]
  split
  · exact ⟨rfl, by simp⟩
  · split
    · exact ⟨rfl, by simp⟩
    · exact ⟨rfl, by simp⟩
  · split
    · refine ⟨rfl, fun reply member => ?_⟩
      cases member
      rfl
    · exact ⟨rfl, by simp⟩
  · split
    · refine ⟨rfl, fun reply member => ?_⟩
      cases member
      rfl
    · split
      · exact ⟨rfl, by simp⟩
      · refine ⟨rfl, fun reply member => ?_⟩
        cases member
        rfl
  · exact ⟨rfl, by simp⟩

section

variable (ok : Declining s)

include ok

theorem forwardStep_candid
    (stepped : forwardStep cfg s c core core.pc = some (t, es)) : Candid s t c es := by
  unfold forwardStep at stepped
  split at stepped
  · split at stepped
    all_goals
      cases stepped
      exact .silent ok rfl nofun nofun
  · split at stepped
    · cases stepped
      exact .silent ok rfl nofun nofun
    · split at stepped
      · cases stepped
        refine .silent ok rfl nofun fun member => ?_
        cases mem_singleton.mp member
      · cases stepped
        exact .silent ok rfl nofun nofun
  · cases stepped
    refine .silent ok rfl nofun fun member => ?_
    cases mem_singleton.mp member
  · cases stepped

/-- The roll-back after a failed section of `RouteOpen`. -/
theorem Candid.rollback :
    Candid s (s.setCore c (core.rollback R port (.relayError code message R) thenClose)) c [] := by
  refine .silent ok rfl (fun stored => ?_) nofun
  cases stored
  rfl

theorem openStep_candid (found : s.cores.lookup c = some core)
    (stepped : openStep s c core socket rand core.pc = some (t, es)) : Candid s t c es := by
  obtain ⟨_, pc⟩ := core
  cases pc with
  | openBind R token =>
    dsimp only [openStep] at stepped
    split at stepped
    · cases stepped
      exact .silent ok rfl nofun (singleton_reply rfl)
    · cases stepped
      exact .silent ok rfl nofun nofun
  | openAllocate R token port =>
    dsimp only [openStep] at stepped
    split at stepped
    · cases stepped
      exact .silent ok rfl nofun nofun
    · cases stepped
      exact .silent ok rfl nofun nofun
    · cases stepped
      exact .rollback ok
  | openCompare | openOwned | openLocked =>
    dsimp only [openStep] at stepped
    split at stepped
    · cases stepped
      exact .silent ok rfl nofun nofun
    · cases stepped
      exact .rollback ok
  | endpointOwned R port =>
    dsimp only [openStep] at stepped
    split at stepped
    all_goals
      cases stepped
      exact .silent ok rfl nofun nofun
  | endpointLocked R port =>
    cases stepped
    exact .silent (c := c) ok (withRegistry_setCore_cores) nofun nofun
  | openReply R port =>
    cases stepped
    refine ⟨ok.insert rfl nofun, ?_⟩
    intro c' reply R' token member opened
    cases mem_singleton.mp member
    cases opened
    exact ⟨by rw [State.replying, found], rfl, rfl⟩
  | rollbackEndpoint R port reply thenClose =>
    have plain : Reply.opened reply = none := ok _ _ _ found rfl
    have next : ∀ {reply'}, (if thenClose then CorePc.rollbackRoute R reply else .idle).stored =
        some reply' → Reply.opened reply' = none := by
      intro reply' stored
      split at stored
      · cases stored
        exact plain
      · cases stored
    have replies : ∀ {c' reply'},
        Event.reply c' reply' ∈ (if thenClose then [] else [Event.reply c reply]) →
          Reply.opened reply' = none := by grind
    dsimp only [openStep] at stepped
    split at stepped
    · cases stepped
      refine .silent ok rfl next fun member => ?_
      obtain same | member := mem_cons.mp member
      · cases same
      · exact replies member
    · cases stepped
      exact .silent ok rfl next replies
  | rollbackRoute R reply =>
    have plain : Reply.opened reply = none := ok _ _ _ found rfl
    cases stepped
    exact .silent (c := c) ok (withRegistry_setCore_cores) nofun (singleton_reply plain)
  | _ => cases stepped

theorem closeStep_candid (stepped : closeStep s c core core.pc = some (t, es)) :
    Candid s t c es := by
  obtain ⟨_, pc⟩ := core
  cases pc with
  | closeEndpoint R =>
    dsimp only [closeStep] at stepped
    split at stepped
    · cases stepped
      refine .silent ok rfl nofun fun member => ?_
      cases mem_singleton.mp member
    · cases stepped
      exact .silent ok rfl nofun nofun
  | closeRoute R =>
    dsimp only [closeStep] at stepped
    split at stepped
    all_goals
      cases stepped
      exact .silent ok rfl nofun nofun
  | closeDetach R removed =>
    cases stepped
    refine .silent ok (detachBody_setCore_cores) nofun fun member => ?_
    obtain detached | replied := mem_append.mp member
    · exact absurd detached detachEvents_no_reply
    · exact singleton_reply rfl replied
  | _ => cases stepped

theorem downStep_candid (stepped : downStep s c core core.pc = some (t, es)) : Candid s t c es := by
  obtain ⟨_, pc⟩ := core
  cases pc with
  | downConns | downSink rest | downRemove rest =>
    cases stepped
    exact .silent ok rfl nofun nofun
  | downEndpoint removed rest =>
    cases rest with
    | nil =>
      cases stepped
      refine ⟨fun c' core' reply found stored => ?_, nofun⟩
      exact ok c' core' reply (lookup_erase_some found).2 stored
    | cons R rest =>
      dsimp only [downStep] at stepped
      split at stepped
      · cases stepped
        refine .silent ok rfl nofun fun member => ?_
        cases mem_singleton.mp member
      · cases stepped
        exact .silent ok rfl nofun nofun
  | downDetach removed R rest =>
    cases stepped
    exact .silent ok (detachBody_setCore_cores) nofun fun member =>
      absurd member detachEvents_no_reply
  | _ => cases stepped

theorem coreStep_candid (found : s.cores.lookup c = some core)
    (stepped : coreStep cfg s c core socket rand = some (t, es)) : Candid s t c es := by
  rw [coreStep] at stepped
  split at stepped
  case h_1 =>
    cases stepped
    exact .silent ok rfl (by rintro _ ⟨⟩) (by simp)
  case h_2 =>
    cases stepped
    exact .silent ok rfl (by rintro _ ⟨⟩) (singleton_reply rfl)
  case h_3 => cases stepped
  case h_4 message pc =>
    obtain ⟨plain, replies⟩ := dispatch_plain
    generalize core.dispatch message = dispatched at stepped plain replies
    obtain ⟨_, own⟩ := dispatched
    cases stepped
    refine .silent ok (withRegistry_setCore_cores) ?_ ?_
    · intro reply stored
      rw [plain] at stored
      cases stored
    intro c' reply member
    cases own with
    | none => cases member
    | some answer => exact singleton_reply (replies answer rfl) member
  case h_5 | h_6 | h_7 => exact forwardStep_candid ok stepped
  case h_8 | h_9 | h_10 | h_11 | h_12 | h_13 | h_14 | h_15 | h_16 | h_17 =>
    exact openStep_candid ok found stepped
  case h_18 | h_19 | h_20 => exact closeStep_candid ok stepped
  case h_21 | h_22 | h_23 | h_24 | h_25 => exact downStep_candid ok stepped

theorem step_declining (stepped : step? cfg s a = some (t, es)) : Declining t := by
  have same : t.cores = s.cores → Declining t := by
    intro cores c core reply found
    rw [cores] at found
    exact ok c core reply found
  cases a <;> dsimp only [step?] at stepped
  case core c socket rand =>
    split at stepped
    · rename_i _ found
      exact (coreStep_candid ok found stepped).declining
    · cases stepped
  case connect token idGenerated =>
    have after : t = (connectStep cfg s token idGenerated).1 := by rw [Option.some.inj stepped]
    rw [after, connectStep]
    split
    · exact ok
    split
    · exact ok
    split
    · exact ok
    · split
      · exact ok
      · exact ok.insert rfl (by rintro _ ⟨⟩)
  case receive c message | disconnect c =>
    split at stepped
    · cases stepped
      exact ok.insert rfl (by rintro _ ⟨⟩)
    · cases stepped
  case attach message =>
    have after : t = (attachStep s message).1 := by rw [Option.some.inj stepped]
    rw [after, attachStep]
    split
    · exact ok
    · exact ok
  case body b =>
    split at stepped
    · cases stepped
    · exact same (bodyStep_same stepped).2
  case tick | sweep | sweepClose | datagram R source | bodyReceive b frame | bodyDisconnect b
    | drainTake b | drainWrite b | drainStop b =>
    repeat' split at stepped
    all_goals first
      | cases stepped; done
      | (cases stepped; exact ok)

end

namespace Joint

/-! ## Both sides -/

/-- The step of the Relay that can take routes out or reply. -/
def Action.relayed (s : State) : Action → Option Relay.Action
  | .serve gen socket rand => (s.peers.lookup gen).map (.core · socket rand)
  | .relay a => some a
  | _ => none

/-- No route leaves the registry while the client knows credentials of it: while it is tracked or an
answer with credentials of it is on its way.  A `RouteOpened` is sent for a route in the
registry. -/
def KeepsKnown (cfg : Config) (s : State) (a : Action) : Prop :=
  ∀ b ∈ a.relayed s, (∀ R ∈ s.relay.registry.routes.keys, s.client.aware R = true →
      ¬s.relay.takesOut cfg R b) ∧
    ∀ c ∈ b.peer, ∀ R ∈ s.relay.replying c, R ∈ s.relay.registry.routes

instance (cfg : Config) (s : State) (a : Action) : Decidable (KeepsKnown cfg s a) :=
  inferInstanceAs (Decidable (∀ b ∈ a.relayed s, (∀ R ∈ s.relay.registry.routes.keys, _ → _) ∧
    ∀ c ∈ b.peer, ∀ R ∈ s.relay.replying c, R ∈ s.relay.registry.routes))

/-- Whatever the client knows of a route is what the registry holds. -/
def Agree (client : Client.State) (relay : Relay.State) : Prop :=
  ∀ R token, Client.Knows client R token →
    ∃ entry, relay.registry.routes.lookup R = some entry ∧ token = entry.credentials

structure Agreed (s : State) : Prop where
  keyed : Client.Keyed s.client
  declining : Declining s.relay
  agree : Agree s.client s.relay

theorem init_agreed : Agreed (State.init cfg) where
  keyed := Client.init_keyed
  declining := init_declining
  agree R token knows := by
    cases knows with
    | route found => cases found
    | link found => cases found
    | exchange found => cases found

variable {cfg : Config} {s t : State} {es : List Event}

/-- A step of the Relay changes no credentials that the client knows. -/
theorem Agree.relay {before after : Relay.State} (ok : Agree client before)
    (keeps : ∀ R ∈ before.registry.routes.keys, client.aware R = true → ¬before.takesOut cfg R b)
    (stepped : Relay.step? cfg before b = some (after, es)) : Agree client after := by
  intro R token knows
  obtain ⟨entry, held, same⟩ := ok R token knows
  have listed : R ∈ before.registry.routes.keys :=
    AList.mem_keys.mp ((mem_iff_lookup _ _).mpr ⟨entry, held⟩)
  have move := step_route stepped R
  generalize after.registry.routes.lookup R = now at move ⊢
  cases move with
  | kept => exact ⟨entry, held, same⟩
  | removed _ out => exact absurd out (keeps R listed knows.aware)
  | refreshed _ found unchanged =>
    cases held.symm.trans found
    exact ⟨_, rfl, same.trans unchanged.symm⟩
  | allocated _ _ absent => cases held.symm.trans absent

theorem step_agreed (ok : Agreed s) (guard : KeepsKnown cfg s a)
    (stepped : step? cfg s a = some (t, es)) : Agreed t := by
  obtain ⟨permitted, done⟩ | ⟨b, done, relayed⟩ | ⟨serving, done, heard⟩ := step_moves stepped
  · rename_i a next _
    have own : ∀ g reply, a ≠ .answer g reply := by
      rintro g reply rfl
      cases permitted
    have traced := Client.step_traced ok.keyed own done
    exact ⟨traced.keyed, ok.declining, fun R token knows =>
      ok.agree R token (traced.known knows)⟩
  · refine ⟨ok.keyed, step_declining ok.declining done, ok.agree.relay ?_ done⟩
    intro R listed aware out
    obtain rfl := relayed R out
    exact (guard b rfl).1 R listed aware out
  · rename_i gen c socket rand next events client
    obtain ⟨keeps, held⟩ := guard (.core c socket rand) (by rw [Action.relayed, serving]; rfl)
    have agree : Agree s.client next := ok.agree.relay keeps done
    rw [hear] at heard
    split at heard
    · cases heard
      exact ⟨ok.keyed, step_declining ok.declining done, agree⟩
    rename_i _ replied
    obtain ⟨⟨_, _⟩, answered, rfl⟩ := map_eq_some_iff.mp heard
    obtain ⟨keyed, known⟩ := Client.answer_known ok.keyed answered
    refine ⟨keyed, step_declining ok.declining done, ?_⟩
    intro R token knows
    obtain before | opened := known knows
    · exact agree R token before
    obtain ⟨_, member⟩ := commandReply_mem replied
    have candid : Candid s.relay next c events := by
      dsimp only [Relay.step?] at done
      split at done
      · rename_i _ found
        exact coreStep_candid ok.declining found done
      · cases done
    obtain ⟨replying, same, current⟩ := candid.current member opened
    obtain ⟨entry, here⟩ := (mem_iff_lookup _ _).mp (held c rfl R replying)
    refine ⟨entry, same ▸ here, ?_⟩
    rw [current, Registry.routeCredentialsFromEntry, here]
    rfl

/-- As long as no route leaves the registry while the client knows credentials of it, the
credentials of every route that the client tracks are the ones that the Relay holds for it. -/
theorem tracked_credentials_agree {trace : List Event}
    (run : (system cfg).Run (KeepsKnown cfg) (State.init cfg) trace s) {R : RouteID}
    {route : Client.ManagedRoute} (tracked : s.client.routes.lookup R = some route) :
    ∃ entry, s.relay.registry.routes.lookup R = some entry ∧
      route.credentials = entry.credentials := by
  have agreed : Agreed s := run.invariant (init_agreed) fun ok guard stepped =>
    step_agreed ok guard stepped
  exact agreed.agree R _ (.route tracked rfl)

/-- The sections that connect the client under the generation and register it. -/
def joinActions (gen : Client.Generation) (reconnect : Bool) : List Action :=
  .client (.connect reconnect) :: List.replicate 4 (.client (.connectNext true)) ++
    [.accept gen 1 true, .serve gen none true, .serve gen none true, .client (.connectNext true)]

/-- The sections of an exchange that asks for a route, with those of the Relay in between. -/
def exchangeActions (gen : Client.Generation) (x : Client.ExchangeID) : List Action :=
  [.client (.exchange x), .client (.exchange x), .client (.write x true), .handOver gen] ++
    List.replicate 8 (.serve gen (some 4000) true) ++
    [.client (.read gen), .client (.send gen), .client (.take x), .client (.exchange x)]

/-- A route that is opened and tracked. -/
theorem tracked_credentials_agree_opened : ∃ trace s,
      (system sampleConfig).Run (KeepsKnown sampleConfig) (State.init sampleConfig) trace s ∧
      s.client.routes.lookup 7 = some ⟨2, 4000⟩ ∧
      ∃ entry, s.relay.registry.routes.lookup 7 = some entry ∧ 2 = entry.credentials := by
  have reached : (system sampleConfig).reaches? (KeepsKnown sampleConfig)
      (joinActions 1 false ++ .client (.call (.openRoute 9) 7) :: exchangeActions 1 0)
      (.client (.exchange 0)) (fun _ t _ => t.client.routes.lookup 7 = some ⟨2, 4000⟩) = true := by
    decide
  obtain ⟨_, s, t, _, run, guard, stepped, found⟩ := System.reaches?_run reached
  have tracked := of_decide_eq_true found
  have whole := System.Run.tail run guard stepped
  exact ⟨_, t, whole, tracked, tracked_credentials_agree whole tracked⟩

/-- The connection is lost and the Relay drops the route.  After the reconnect `restoreRoutes`
has it allocated again: it is open on the current connection with new credentials, and the
client still tracks it with the old ones. -/
theorem restored_credentials_differ :
    ∃ trace s, (system sampleConfig).Run free (State.init sampleConfig) trace s ∧
      s.client.conn = some 2 ∧ s.client.connected = true ∧ s.client.connecting = .idle ∧
      s.peers.lookup 2 = some 3 ∧ s.client.routes.lookup 7 = some ⟨2, 4000⟩ ∧
      s.relay.registry.routes.lookup 7 = some ⟨.open, 3, 4, 0, some 4000⟩ := by
  have reached : (system sampleConfig).reaches? free
      (joinActions 1 false ++ .client (.call (.openRoute 9) 7) :: exchangeActions 1 0 ++
        [.client (.exchange 0), .hangUp 1] ++ List.replicate 6 (.serve 1 none true) ++
        .client (.readerExit 1) :: joinActions 2 true ++
        [.client (.connectNext true), .client (.restoreNext 7 2)] ++ exchangeActions 2 1 ++
        [.client (.exchange 1), .client .restoreDone])
      (.client (.connectNext true)) (fun _ t _ => t.client.conn = some 2 ∧
        t.client.connected = true ∧ t.client.connecting = .idle ∧ t.peers.lookup 2 = some 3 ∧
        t.client.routes.lookup 7 = some ⟨2, 4000⟩ ∧
        t.relay.registry.routes.lookup 7 = some ⟨.open, 3, 4, 0, some 4000⟩) = true := by decide
  obtain ⟨_, s, t, _, run, guard, stepped, found⟩ := System.reaches?_run reached
  exact ⟨_, t, .tail run guard stepped, of_decide_eq_true found⟩

end Joint

end NeonDoll.Relay
