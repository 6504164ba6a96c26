import NeonDoll.DollLink.Execution

/-!
# Every request gets the result that answers it

The dispatcher turns whatever the permission check and the executor do into a result that
passes the checks of the client.  The client files a request under an identifier that no other
request has, so a result that answers the request resolves it and nothing else.
-/

namespace NeonDoll.DollLink.Execution

open Lib Transition List Nat

variable {J : Type}

/-! ## Validation -/

variable {bodyID id : Text}

theorem validateEnvelope_ok
    (done : validateEnvelope id timestamp bodyID = .ok ()) : id ≠ [] ∧ bodyID ≠ [] := by
  unfold validateEnvelope at done
  split at done
  · cases done
  rename_i named
  split at done
  · cases done
  split at done
  · cases done
  split at done
  · cases done
  rename_i body
  exact ⟨named, body⟩

theorem validateEnvelope_utcNow (named : id ≠ [])
    (body : bodyID ≠ []) : validateEnvelope id (.utcNow clock) bodyID = .ok () := by
  have late : (Timestamp.utcNow clock).nanoseconds ≠ 0 := by
    change 62135596800 * 1000000000 + (clock : Int) ≠ 0
    omega
  rw [validateEnvelope, if_neg named, if_neg late, if_neg (by simp [Timestamp.utcNow]), if_neg body]

theorem Request.validate_ok {r : Request J} {sender : Sender} (done : r.validate sender = .ok ()) :
    r.id ≠ [] ∧ r.bodyID ≠ [] ∧ r.payload.executionID ≠ [] := by
  unfold Request.validate at done
  split at done
  · cases done
  split at done
  · cases done
  split at done
  · cases done
  rename_i envelope
  obtain ⟨named, body⟩ := validateEnvelope_ok envelope
  split at done
  · cases done
  split at done
  · cases done
  rename_i complete
  exact ⟨named, body, fun blank => complete (.inl blank)⟩

theorem Result.validate_of_parts {r : Result J} (type : r.type = typeResult)
    (envelope : validateEnvelope r.id r.timestamp r.bodyID = .ok ()) (answer : r.correlationID ≠ [])
    (execution : r.payload.executionID ≠ []) (terminal : r.payload.status ∈ statuses) :
    r.validate .body = .ok () := by
  rw [Result.validate, if_neg (not_not_intro rfl), if_neg (not_not_intro type), envelope]
  exact (if_neg answer).trans ((if_neg execution).trans (if_neg (not_not_intro terminal)))

/-! ## The dispatcher -/

namespace Dispatcher

variable {d : Dispatcher} {env : Surroundings J} {request : Request J} {status : Text}
  {value : Option J}

theorem result_validate (named : request.id ≠ []) (execution : request.payload.executionID ≠ [])
    (terminal : status ∈ statuses) : (d.result env request status value).validate .body = .ok () :=
  Result.validate_of_parts rfl (validateEnvelope_utcNow env.uuid.property d.named) named
    execution terminal

theorem result_answers (here : request.bodyID = d.bodyID) :
    (d.result env request status value).validateResponseTo request = .ok () := by
  rw [Result.validateResponseTo]
  simp [result, here]

theorem statusOf_terminal : statusOf e ∈ statuses := by
  unfold statusOf
  split
  · decide
  split
  · decide
  split
  · decide
  split
  · decide
  · split
    all_goals decide

def Permitted (env : Surroundings J) (request : Request J) : Prop :=
  ∃ allow, env.permission = some allow ∧ allow request = true

/-- The call is the one of the executor that the request asks for. -/
def Asked (request : Request J) (call : Call J) : Prop :=
  call = .executeCapability request.payload.capability request.payload.operation
    request.payload.arguments

/-- What the dispatcher does with a request. -/
inductive Handles (d : Dispatcher) (env : Surroundings J) (request : Request J) :
    List (Call J) × Except ExecutionError (Result J) → Prop where
  | rejected (error : ExecutionError)
      (cause : request.id = [] ∨ request.bodyID = [] ∨ request.payload.executionID = [] ∨
        request.bodyID ≠ d.bodyID) : Handles d env request ([], .error error)
  | answered (calls : List (Call J)) (status : Text) (value : Option J)
      (here : request.bodyID = d.bodyID) (named : request.id ≠ [])
      (execution : request.payload.executionID ≠ []) (terminal : status ∈ statuses)
      (quiet : ∀ call ∈ calls, call.executes = false) :
      Handles d env request (calls, .ok (d.result env request status value))
  | executed (call : Call J) (status : Text) (value : Option J)
      (here : request.bodyID = d.bodyID) (valid : request.validate .core = .ok ())
      (terminal : status ∈ statuses) (permitted : Permitted env request)
      (asked : Asked request call) :
      Handles d env request
        ([.allowExecution request, call], .ok (d.result env request status value))

theorem authorize_handles (here : request.bodyID = d.bodyID)
    (valid : request.validate .core = .ok ()) :
    Handles d env request ((d.authorize env request).1, .ok (d.authorize env request).2) := by
  obtain ⟨id, _, execution⟩ := Request.validate_ok valid
  unfold authorize
  split
  · exact .answered [] statusDenied none here id execution (by decide) (by simp)
  rename_i allow check
  split
  · rename_i allowed
    have permitted : Permitted env request := ⟨allow, check, allowed⟩
    unfold execute
    simp only
    split
    · rename_i result _
      exact .executed _ statusSuccess result here valid (by decide) permitted rfl
    · rename_i e _
      exact .executed _ (statusOf e) none here valid (statusOf_terminal) permitted rfl
  · exact .answered [.allowExecution request] statusDenied none here id execution (by decide)
      (by simp [Call.executes])

theorem handles (d : Dispatcher) (env : Surroundings J) (request : Request J) :
    Handles d env request (d.handleExecutionRequest env request) := by
  rw [handleExecutionRequest]
  split
  · constructor
    grind
  · rename_i named
    push Not at named
    obtain ⟨id, _, execution⟩ := named
    split
    · rename_i other
      exact .rejected _ (.inr (.inr (.inr other)))
    rename_i same
    have here : request.bodyID = d.bodyID := not_not.mp same
    split
    · exact .answered [] statusInvalid none here id execution (by decide) (by simp)
    rename_i valid
    split
    · exact .answered [] statusExpired none here id execution (by decide) (by simp)
    · exact .answered [] statusCancelled none here id execution (by decide) (by simp)
    · exact authorize_handles here valid

theorem executes_once : ((d.handleExecutionRequest env request).1.filter Call.executes).length ≤ 1 ∧
      ∀ call ∈ (d.handleExecutionRequest env request).1, call.executes = true →
        request.validate .core = .ok () ∧ request.bodyID = d.bodyID ∧ Permitted env request ∧
          Asked request call := by
  have handled := handles d env request
  generalize d.handleExecutionRequest env request = out at handled
  cases handled with
  | rejected error cause => simp
  | answered calls status value here named execution terminal quiet =>
    grind [filter_eq_nil_iff]
  | executed call status value here valid terminal permitted asked =>
    constructor
    · rw [asked]
      exact le_refl 1
    intro other member executes
    obtain rfl | member := mem_cons.mp member
    · cases executes
    · obtain rfl := mem_singleton.mp member
      exact ⟨valid, here, permitted, asked⟩

theorem answers (d : Dispatcher) (env : Surroundings J) (valid : request.validate .core = .ok ())
    (here : request.bodyID = d.bodyID) :
    ∃ result, (d.handleExecutionRequest env request).2 = .ok result ∧
      result.validate .body = .ok () ∧ result.validateResponseTo request = .ok () ∧
      result.bodyID = d.bodyID ∧ result.correlationID = request.id := by
  obtain ⟨named, _, execution⟩ := Request.validate_ok valid
  have handled := handles d env request
  generalize d.handleExecutionRequest env request = out at handled
  cases handled with
  | rejected error cause => grind
  | answered calls status value _ _ _ terminal quiet
  | executed call status value _ _ terminal permitted asked =>
    exact ⟨_, rfl, result_validate named execution terminal, result_answers here, rfl, rfl⟩

end Dispatcher

/-! ## The client -/

namespace Client

variable {uuids : Uuids} {c t : Client J}

/-- A step enters one new request, or it enters none. -/
inductive Moves (uuids : Uuids) (c : Client J) (es : List (ClientEvent J)) (t : Client J) :
    Prop where
  | opened (r : Request J) (valid : r.validate .core = .ok ())
      (id : r.id = (uuids.text c.next).val) (body : r.bodyID = c.bodyID)
      (pending : t.pending = c.pending.insert r.id ⟨r, c.next⟩) (next : t.next = c.next + 1)
      (same : t.bodyID = c.bodyID) (events : es = [.sent c.next r])
  | other (pending : ∀ id p, t.pending.lookup id = some p → c.pending.lookup id = some p)
      (next : c.next ≤ t.next) (same : t.bodyID = c.bodyID)
      (quiet : ∀ call r, .sent call r ∉ es)

theorem remove_moves (c : Client J) (id : Text) :
    (∀ key p, (c.remove id call).1.pending.lookup key = some p → c.pending.lookup key = some p) ∧
      (c.remove id call).1.next = c.next ∧ (c.remove id call).1.bodyID = c.bodyID := by
  rw [remove]
  split
  · exact ⟨fun _ _ found => found, rfl, rfl⟩
  · grind

theorem execute_moves
    (stepped : c.execute uuids dollID payload = (t, es)) : Moves uuids c es t := by
  simp only [execute] at stepped
  split at stepped
  · cases stepped
    exact .other (fun _ _ found => found) (le_succ _) rfl (by simp)
  rename_i valid
  split at stepped
  · cases stepped
    exact .other (fun _ _ found => found) (le_succ _) rfl (by simp)
  · cases stepped
    exact .opened (c.requestOf uuids dollID payload) valid rfl rfl rfl rfl rfl rfl

theorem handleResult_moves (c : Client J) (result : Result J) :
    (∀ key p, (c.handleResult result).1.pending.lookup key = some p →
      c.pending.lookup key = some p) ∧
      (c.handleResult result).1.next = c.next ∧ (c.handleResult result).1.bodyID = c.bodyID := by
  rw [handleResult]
  split
  · exact ⟨fun _ _ found => found, rfl, rfl⟩
  · grind

theorem close_moves : Moves uuids c [] (c.close reason) := by
  rw [close]
  split
  · exact .other (fun _ _ found => found) (le_refl _) rfl (by simp)
  · exact .other nofun (le_refl _) rfl (by simp)

theorem step_moves (stepped : c.step? uuids a = some (t, es)) : Moves uuids c es t := by
  cases a <;> simp only [step?] at stepped
  case tick elapsed =>
    cases stepped
    exact .other (fun _ _ found => found) (le_refl _) rfl (by simp)
  case execute dollID payload => exact execute_moves (Option.some.inj stepped)
  case sendDone call ok =>
    split at stepped
    · rename_i request _
      split at stepped
      · cases stepped
        exact .other (fun _ _ found => found) (le_refl _) rfl (by simp)
      · cases stepped
        obtain ⟨pending, next, body⟩ := remove_moves c request.id
        exact .other pending (le_of_eq next.symm) body (by simp)
    · cases stepped
  case receive call =>
    split at stepped
    · cases stepped
      exact .other (fun _ _ found => found) (le_refl _) rfl (by simp)
    · cases stepped
  case contextDone call error =>
    split at stepped
    · rename_i request _
      obtain ⟨pending, next, body⟩ := remove_moves c request.id
      split at stepped
      · rename_i _ done
        rw [done] at pending next body
        cases stepped
        exact .other pending (le_of_eq next.symm) body (by simp)
      · cases stepped
        exact .other (fun _ _ found => found) (le_refl _) rfl (by simp)
    · cases stepped
  case handleResult result =>
    obtain ⟨_, _, _⟩ := handleResult_moves c result
    split at stepped
    all_goals grind [Moves]
  case close reason =>
    cases stepped
    exact close_moves

/-- What is known of the requests that were sent: only they are pending, each under its own
identifier. -/
structure Filed (uuids : Uuids) (bodyID : Text) (trace : List (ClientEvent J)) (c : Client J) :
    Prop where
  body : c.bodyID = bodyID
  sent : ∀ call r, .sent call r ∈ trace → call < c.next ∧ r.id = (uuids.text call).val ∧
    r.validate .core = .ok () ∧ r.bodyID = bodyID
  once : ∀ call r r', .sent call r ∈ trace → .sent call r' ∈ trace → r = r'
  pending : ∀ id p, c.pending.lookup id = some p →
    .sent p.call p.request ∈ trace ∧ id = p.request.id

theorem filed_new : Filed uuids bodyID [] (Client.new bodyID : Client J) := by
  constructor
  case body => rfl
  case sent => exact nofun
  case once => exact nofun
  case pending => exact nofun

variable {trace : List (ClientEvent J)}

theorem step_filed (h : Filed uuids bodyID trace c) (stepped : c.step? uuids a = some (t, es)) :
    Filed uuids bodyID (trace ++ es) t := by
  cases step_moves stepped with
  | other pending next same quiet =>
    have old : ∀ {call r}, .sent call r ∈ trace ++ es → .sent call r ∈ trace := by grind
    constructor
    case body => exact same.trans h.body
    case sent => grind [Filed]
    case once => exact fun call r r' left right => h.once call r r' (old left) (old right)
    case pending => grind [Filed]
  | opened r valid id body pending next same events =>
    subst events
    have split : ∀ {call r'}, .sent call r' ∈ trace ++ [.sent c.next r] →
        .sent call r' ∈ trace ∨ call = c.next ∧ r' = r := by simp
    constructor
    case body => exact same.trans h.body
    case sent => grind [Filed]
    case once =>
      intro call r1 r2 left right
      -- The number of the new call is not yet used.
      obtain older | ⟨new, rfl⟩ := split left
      · obtain older' | ⟨new, -⟩ := split right
        · exact h.once call r1 r2 older older'
        · have drawn := (h.sent _ _ older).1
          rw [new] at drawn
          exact absurd drawn (lt_irrefl _)
      · obtain older | ⟨-, rfl⟩ := split right
        · have drawn := (h.sent _ _ older).1
          rw [new] at drawn
          exact absurd drawn (lt_irrefl _)
        · rfl
    case pending => grind [Filed]

theorem run_filed (run : (Client.system uuids bodyID).Run free (Client.new bodyID) trace c) :
    Filed uuids bodyID trace c :=
  run.history (P := Filed uuids bodyID) (filed_new)
    fun h _ stepped => step_filed h stepped

variable {call : CallID}

theorem Filed.pending_of_sent (h : Filed uuids bodyID trace c) (sent : .sent call r ∈ trace) :
    c.pending.lookup r.id = some ⟨r, call⟩ ∨ c.pending.lookup r.id = none := by
  cases found : c.pending.lookup r.id with
  | none => exact .inr rfl
  | some p =>
    obtain ⟨member, named⟩ := h.pending r.id p found
    have ids : uuids.text call = uuids.text p.call := by
      apply Subtype.ext
      rw [← (h.sent call r sent).2.1, ← (h.sent _ _ member).2.1, named]
    have same : call = p.call := uuids.injective ids
    subst same
    have requests := h.once _ _ _ sent member
    subst requests
    exact .inl rfl

variable {result : Result J}

section

variable (valid : result.validate .body = .ok ()) (body : result.bodyID = c.bodyID)

include valid body

theorem handleResult_pending
    (id : result.correlationID = r.id) (answers : result.validateResponseTo r = .ok ())
    (found : c.pending.lookup r.id = some ⟨r, call⟩) : c.handleResult result =
      ({ c with
          pending := c.pending.erase r.id
          buffers := c.buffers.insert call (.ok result) }, .ok ()) := by
  rw [← id] at found ⊢
  simp only [handleResult, valid, if_neg (not_not.mpr body), found, answers]

theorem handleResult_unsolicited
    (found : c.pending.lookup result.correlationID = none) :
    c.handleResult result = (c, .error (.unsolicited result.correlationID)) := by
  simp only [handleResult, valid, if_neg (not_not.mpr body), found]

end

end Client

/-- A request that the client has sent reaches the executor of a Body at most once, and only if
it is valid, addressed to that Body and permitted.  The result of its Body passes the checks of
the client.  The client accepts it as long as the request is pending: it takes the request out
and hands the result to the call that sent it, and to no other.  Once the call is given up, the
result changes nothing. -/
theorem execution_end_to_end (uuids : Uuids) (bodyID : Text) {trace : List (ClientEvent J)}
    {c : Client J} (run : (Client.system uuids bodyID).Run free (Client.new bodyID) trace c)
    {call : CallID} {r : Request J} (sent : .sent call r ∈ trace) (d : Dispatcher)
    (env : Surroundings J) : ((d.handleExecutionRequest env r).1.filter Call.executes).length ≤ 1 ∧
      (∀ x ∈ (d.handleExecutionRequest env r).1, x.executes = true →
        r.validate .core = .ok () ∧ r.bodyID = d.bodyID ∧ Dispatcher.Permitted env r ∧
          Dispatcher.Asked r x) ∧
      (d.bodyID = bodyID → ∃ result, (d.handleExecutionRequest env r).2 = .ok result ∧
        result.validate .body = .ok () ∧ result.validateResponseTo r = .ok () ∧
        (c.pending.lookup r.id = some ⟨r, call⟩ ∧
            c.handleResult result =
              ({ c with
                  pending := c.pending.erase r.id
                  buffers := c.buffers.insert call (.ok result) }, .ok ()) ∨
          c.pending.lookup r.id = none ∧
            c.handleResult result = (c, .error (.unsolicited r.id)))) := by
  have filed := Client.run_filed run
  obtain ⟨-, -, valid, body⟩ := filed.sent call r sent
  obtain ⟨once, only⟩ := Dispatcher.executes_once
  refine ⟨once, only, ?_⟩
  intro same
  have here : r.bodyID = d.bodyID := body.trans same.symm
  obtain ⟨result, returned, passes, answers, resultBody, correlation⟩ :=
    Dispatcher.answers d env valid here
  have client : result.bodyID = c.bodyID := by rw [resultBody, same, filed.body]
  refine ⟨result, returned, passes, answers, ?_⟩
  obtain found | found := filed.pending_of_sent sent
  · exact .inl ⟨found, Client.handleResult_pending passes client correlation answers found⟩
  · grind [Client.handleResult_unsolicited]

/-! ## A sample exchange -/

def sampleUuids : Uuids :=
  { text := fun n => ⟨List.replicate (n + 1) 'u', by simp⟩
    injective := by
      intro n m same
      have lengths := congrArg List.length (congrArg Subtype.val same)
      simpa using lengths }

def sampleBody : Dispatcher := ⟨['b'], by decide⟩

def samplePayload : RequestPayload Unit := ⟨['e'], ['c'], ['o'], some ()⟩

/-- A Body that permits everything and whose executor fails. -/
def sampleSurroundings : Surroundings Unit :=
  { context := none
    permission := some fun _ => true
    executor := fun _ _ _ => .error ⟨false, false, true, false, false⟩
    uuid := ⟨['r'], by decide⟩
    clock := 5 }

def sampleRequest : Request Unit :=
  (Client.new ['b']).requestOf sampleUuids ['d'] samplePayload

def sampleClient : Client Unit :=
  ((Client.new ['b']).execute sampleUuids ['d'] samplePayload).1

/-- The client sends a request, the executor does not support it, and the client accepts the
answer. -/
theorem execution_end_to_end_sample :
    ∃ result, (sampleBody.handleExecutionRequest sampleSurroundings sampleRequest).2 = .ok result ∧
      result.payload.status = statusUnsupported ∧
      sampleClient.handleResult result =
        ({ sampleClient with
            pending := sampleClient.pending.erase sampleRequest.id
            buffers := sampleClient.buffers.insert 0 (.ok result) }, .ok ()) := by
  have run : (Client.system sampleUuids ['b']).Run free (Client.new ['b'])
      ([] ++ [.sent 0 sampleRequest]) sampleClient :=
    .tail (a := .execute ['d'] samplePayload) (.refl _) trivial rfl
  obtain ⟨-, -, answered⟩ := execution_end_to_end sampleUuids ['b'] run mem_cons_self
    sampleBody sampleSurroundings
  obtain ⟨result, returned, -, -, outcome⟩ := answered rfl
  refine ⟨result, returned, ?_, ?_⟩
  · cases returned
    rfl
  · obtain ⟨-, accepted⟩ | ⟨missing, -⟩ := outcome
    · exact accepted
    · cases missing

end NeonDoll.DollLink.Execution
