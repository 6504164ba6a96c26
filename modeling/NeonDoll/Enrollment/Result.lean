import NeonDoll.Enrollment.Admission

/-!
# Polling for the result of an enrollment

`Result` of `Core/Enrollment/service.go` next to the calls of the enrollment service.  It takes
no mutex: any number of calls interleave with each other and with the call that is in progress,
at every store operation.  The pairing service is left out.
-/

namespace NeonDoll.Persistence.Store

def incrementAttempts (s : Store) (requestID : RequestID) : Store :=
  { s with
    pendings := Lib.GoMap.modify s.pendings requestID fun p =>
      { p with attemptCount := p.attemptCount + 1 } }

end NeonDoll.Persistence.Store

namespace NeonDoll.Enrollment

open Lib Persistence

structure ResultRequest where
  version : Nat
  coreID : CoreID
  requestID : RequestID
  bodyPublicKey : Option BodyKey
  bodyNonce : Option Nat
  signature : Nat
  deriving DecidableEq

structure ResultConfig extends Config where
  verifyEnrollmentResult : ResultRequest → Bool

inductive ResultError where
  | unsupportedVersion
  | coreIdentity
  | unknownRequest
  | rateLimited
  | invalidProof
  | replayed
  | store
  /-- "enrollment: committed receipt unavailable". -/
  | receiptUnavailable
  deriving DecidableEq

/-- The status in a response; `expired` is never stored. -/
inductive ResultStatus where
  | pending
  | denied
  | enrolled
  | expired
  deriving DecidableEq

/-- Where a call of `Result` stands: the next store operation. -/
inductive ResultPc where
  | fetching (req : ResultRequest)
  | incrementing (requestID : RequestID)
  | consuming (requestID : RequestID) (pending : PendingEnrollment) (nonce : Nat)
  | receiving (requestID : RequestID)
  deriving DecidableEq

abbrev CallID := Nat

structure Service where
  admission : State
  /-- The table `enrollment_result_nonces`. -/
  nonces : List (RequestID × Nat)
  results : GoMap CallID ResultPc
  nextCall : CallID

inductive ServiceEvent where
  | admission (event : Event)
  | result (call : CallID) (requestID : RequestID) (status : ResultStatus)
      (receipt : Option EnrollmentReceipt)
  | resultFailed (error : ResultError)
  deriving DecidableEq

inductive ServiceAction where
  | admission (action : Action)
  | result (req : ResultRequest)
  | resultStep (call : CallID) (ok : Bool)
  deriving DecidableEq

def statusOf (now : Time) (pending : PendingEnrollment) : ResultStatus :=
  match pending.status with
  | .pending => if now < pending.expiresAt then .pending else .expired
  | .denied => .denied
  | .enrolled => .enrolled

namespace Service

def init (cfg : ResultConfig) : Service :=
  { admission := State.init cfg.toConfig, nonces := [], results := ∅, nextCall := 0 }

def resultAt (s : Service) (call : CallID) (pc : ResultPc) : Service × List ServiceEvent :=
  ({ s with results := s.results.insert call pc }, [])

def resultDone (s : Service) (call : CallID) (event : ServiceEvent) :
    Service × List ServiceEvent :=
  ({ s with results := s.results.erase call }, [event])

def resultStep (cfg : ResultConfig) (s : Service) (call : CallID) (pc : ResultPc) (ok : Bool) :
    Service × List ServiceEvent :=
  match pc with
  | .fetching req =>
    match if ok then s.admission.store.pendings.lookup req.requestID else none with
    | none => s.resultDone call (.resultFailed .unknownRequest)
    | some pending =>
      if cfg.maxAttempts ≤ pending.attemptCount then
        s.resultDone call (.resultFailed .rateLimited)
      else if cfg.verifyEnrollmentResult req ∧
          req.bodyPublicKey = some pending.bodyPublicKey then
        match req.bodyNonce with
        | none => s.resultDone call (.resultFailed .invalidProof)
        | some nonce => s.resultAt call (.consuming req.requestID pending nonce)
      else s.resultAt call (.incrementing req.requestID)
  | .incrementing requestID =>
    -- the error of `IncrementAttempts` is ignored
    let store :=
      if ok then s.admission.store.incrementAttempts requestID else s.admission.store
    resultDone { s with admission := { s.admission with store := store } } call
      (.resultFailed .invalidProof)
  | .consuming requestID pending nonce =>
    if ok then
      if (requestID, nonce) ∈ s.nonces then s.resultDone call (.resultFailed .replayed)
      else
        let consumed := { s with nonces := (requestID, nonce) :: s.nonces }
        match statusOf s.admission.now pending with
        | .enrolled => consumed.resultAt call (.receiving requestID)
        | status => consumed.resultDone call (.result call requestID status none)
    else s.resultDone call (.resultFailed .store)
  | .receiving requestID =>
    match if ok then s.admission.store.receipts.lookup requestID else none with
    | none => s.resultDone call (.resultFailed .receiptUnavailable)
    | some receipt => s.resultDone call (.result call requestID .enrolled (some receipt))

/-- The checks of `Result` before it reads the store. -/
def resultStart (cfg : ResultConfig) (s : Service) (req : ResultRequest) :
    Service × List ServiceEvent :=
  if req.version ≠ enrollmentVersion then (s, [.resultFailed .unsupportedVersion])
  else if req.coreID ≠ cfg.coreID then (s, [.resultFailed .coreIdentity])
  else
    ({ s with
      results := s.results.insert s.nextCall (.fetching req), nextCall := s.nextCall + 1 }, [])

end Service

/-- The action belongs to the pairing service. -/
def Action.pairing : Action → Bool
  | .pair _ => true
  | .pairStep _ => true
  | _ => false

def Service.step? (cfg : ResultConfig) (s : Service) :
    ServiceAction → Option (Service × List ServiceEvent)
  | .admission action =>
    if action.pairing then none
    else
      match Enrollment.step? cfg.toConfig s.admission action with
      | none => none
      | some (t, events) => some ({ s with admission := t }, events.map .admission)
  | .result req => some (s.resultStart cfg req)
  | .resultStep call ok =>
    match s.results.lookup call with
    | none => none
    | some pc => some (s.resultStep cfg call pc ok)

/-- The enrollment service with its polling calls. -/
def Service.system (cfg : ResultConfig) : Transition.System Service ServiceAction ServiceEvent :=
  ⟨Service.init cfg, Service.step? cfg⟩

end NeonDoll.Enrollment
