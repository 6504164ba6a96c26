import NeonDoll.Body.Guard
import NeonDoll.Lib.GoMap

/-!
# Resolution of Bodies

`Core/BodyResolver/resolver.go`: the candidates that meet a requirement, the constraints of
the task and the policy of the Owner, in the order in which they are tried.
-/

namespace NeonDoll.BodyResolver

open Lib Body

/-- A `map[string]string`. -/
abbrev Labels := List (Text × Text)

structure Capability where
  id : Text
  operations : List Text
  available : Bool
  constraints : Labels
  deriving DecidableEq

/-- What a Body answers while a resolution looks at it: `resolution` is the error of
`ResolveCapability` for the required operation. -/
structure BodyView where
  id : Body.BodyID
  kind : BodyKind
  resolution : Option ResolutionFailure
  describe : List Capability
  deriving DecidableEq

structure ActionRequirement where
  capability : Text
  operation : Text
  requiredResources : Labels
  requiredData : Labels
  requiredCapabilityConstraints : Labels
  deriving DecidableEq

structure TaskConstraints where
  allowedBodyIDs : List Body.BodyID
  excludedBodyIDs : List Body.BodyID
  allowedKinds : List BodyKind
  requiredAttributes : Labels
  deriving DecidableEq

structure OwnerPolicy where
  allowedBodyIDs : List Body.BodyID
  deniedBodyIDs : List (Body.BodyID × Text)
  deriving DecidableEq

structure Candidate where
  body : Option BodyView
  resources : Labels
  data : Labels
  attributes : Labels
  unavailable : Bool
  preference : Int
  deriving DecidableEq

inductive RejectionCode where
  | unsupportedCapability
  | unsupportedOperation
  | unavailable
  | capabilityConstraint
  | missingResource
  | missingData
  | taskConstraint
  | ownerPolicy
  deriving DecidableEq

/-- The detail of a rejection: a text, or the format of `matchValues` with its values. -/
inductive Detail where
  | text (text : Text)
  | requiredUnavailable (label key value : Text)
  deriving DecidableEq

structure Rejection where
  code : RejectionCode
  detail : Detail
  deriving DecidableEq

structure ExecutionCandidate where
  body : BodyView
  capability : Capability
  preference : Int
  deriving DecidableEq

structure RejectedCandidate where
  bodyID : Body.BodyID
  reasons : List Rejection
  deriving DecidableEq

structure Result where
  requirement : ActionRequirement
  eligible : List ExecutionCandidate
  rejected : List RejectedCandidate
  deriving DecidableEq

inductive ResolveError where
  | invalidRequest
  | duplicateCandidate (id : Body.BodyID)
  | noEligibleCandidates
  deriving DecidableEq

def Result.zero : Result := ⟨⟨[], [], [], [], []⟩, [], []⟩

/-- Texts in the order in which Go compares strings. -/
def textLe (a b : Text) : Bool := decide (¬ b < a)

/-- A rejection for every required value that is not available, by key. -/
def matchValues (code : RejectionCode) (label : Text) (required available : Labels) :
    List Rejection :=
  let keys := required.insertionSort fun a b => textLe a.1 b.1
  (keys.filter fun entry => available.lookup entry.1 ≠ some entry.2).map fun entry =>
    ⟨code, .requiredUnavailable label entry.1 entry.2⟩

def noCapability : Capability := ⟨[], [], false, []⟩

def resolutionRejection (failure : ResolutionFailure) : Rejection :=
  match failure.error with
  | .unsupportedCapability => ⟨.unsupportedCapability, .text failure.text⟩
  | .unsupportedOperation => ⟨.unsupportedOperation, .text failure.text⟩
  | .unavailable => ⟨.unavailable, .text failure.text⟩
  | .other => ⟨.unavailable, .text "capability resolution failed".toList⟩

def evaluateCapability (body : BodyView) (requirement : ActionRequirement) :
    Capability × List Rejection :=
  match body.resolution with
  | some failure => (noCapability, [resolutionRejection failure])
  | none =>
    match body.describe.find? fun capability => capability.id = requirement.capability with
    | some capability =>
      (capability, matchValues .capabilityConstraint "capability constraint".toList
        requirement.requiredCapabilityConstraints capability.constraints)
    | none =>
      (noCapability,
        [⟨.unsupportedCapability, .text "resolved capability is not described".toList⟩])

def rejectIf (condition : Bool) (code : RejectionCode) (text : Text) : List Rejection :=
  if condition then [⟨code, .text text⟩] else []

/-- The rejection of a Body that the Owner denies, with the reason the Owner gives. -/
def deniedByOwner (policy : OwnerPolicy) (id : Body.BodyID) : List Rejection :=
  match policy.deniedBodyIDs.lookup id with
  | none => []
  | some detail =>
    [⟨.ownerPolicy, .text (if detail.trimSpace = [] then
      "Body is denied by owner policy".toList else detail)⟩]

/-- The reasons against a candidate, in the order of the source. -/
def rejections (requirement : ActionRequirement) (constraints : TaskConstraints)
    (policy : OwnerPolicy) (candidate : Candidate) (body : BodyView) : List Rejection :=
  (evaluateCapability body requirement).2 ++
    rejectIf candidate.unavailable .unavailable "candidate execution path is unavailable".toList ++
    matchValues .missingResource "resource".toList requirement.requiredResources
      candidate.resources ++
    matchValues .missingData "data".toList requirement.requiredData candidate.data ++
    rejectIf (constraints.allowedBodyIDs ≠ [] ∧ body.id ∉ constraints.allowedBodyIDs)
      .taskConstraint "Body is not in the task allowlist".toList ++
    rejectIf (body.id ∈ constraints.excludedBodyIDs)
      .taskConstraint "Body is excluded by task constraints".toList ++
    rejectIf (constraints.allowedKinds ≠ [] ∧ body.kind ∉ constraints.allowedKinds)
      .taskConstraint "Body kind is not allowed".toList ++
    matchValues .taskConstraint "attribute".toList constraints.requiredAttributes
      candidate.attributes ++
    rejectIf (policy.allowedBodyIDs ≠ [] ∧ body.id ∉ policy.allowedBodyIDs)
      .ownerPolicy "Body is not allowed by owner policy".toList ++
    deniedByOwner policy body.id

/-- The loop of `Resolve`; `seen` are the identities so far. -/
def classify (requirement : ActionRequirement) (constraints : TaskConstraints)
    (policy : OwnerPolicy) : List Body.BodyID → Result → List Candidate → Except ResolveError Result
  | _, result, [] => .ok result
  | seen, result, candidate :: rest =>
    match candidate.body with
    | none => .error .invalidRequest
    | some body =>
      if body.id = [] then .error .invalidRequest
      else if body.id ∈ seen then .error (.duplicateCandidate body.id)
      else
        let reasons := rejections requirement constraints policy candidate body
        let result :=
          if reasons = [] then
            { result with eligible := result.eligible ++
                [⟨body, (evaluateCapability body requirement).1, candidate.preference⟩] }
          else { result with rejected := result.rejected ++ [⟨body.id, reasons⟩] }
        classify requirement constraints policy (body.id :: seen) result rest

/-- Higher preferences come first, then the smaller identity. -/
def tryBefore (a b : ExecutionCandidate) : Prop :=
  a.preference > b.preference ∨ a.preference = b.preference ∧ textLe a.body.id b.body.id = true

instance (a b : ExecutionCandidate) : Decidable (tryBefore a b) :=
  inferInstanceAs (Decidable (_ ∨ _))

/-- `Resolve` returns its lists together with the error when no candidate is left. -/
def resolve (requirement : ActionRequirement) (constraints : TaskConstraints)
    (policy : OwnerPolicy) (candidates : List Candidate) : Result × Option ResolveError :=
  if requirement.capability.trimSpace = [] ∨ requirement.operation.trimSpace = [] then
    (Result.zero, some .invalidRequest)
  else
    match classify requirement constraints policy [] ⟨requirement, [], []⟩ candidates with
    | .error e => (Result.zero, some e)
    | .ok result =>
      let sorted : Result :=
        { result with
          eligible := result.eligible.insertionSort tryBefore
          rejected := result.rejected.insertionSort fun a b => textLe a.bodyID b.bodyID }
      (sorted, if sorted.eligible = [] then some .noEligibleCandidates else none)

variable {requirement : ActionRequirement} {constraints : TaskConstraints} {result : Result}

section

variable (classified : classify requirement constraints policy seen start candidates = .ok result)

include classified

theorem classify_requirement :
    result.requirement = start.requirement := by
  induction candidates generalizing seen start with
  | nil =>
    cases classified
    rfl
  | cons candidate rest ih => grind [classify]

theorem classify_eligible
    (known : ∀ candidate ∈ start.eligible, candidate.body.id ≠ []) :
    ∀ candidate ∈ result.eligible, candidate.body.id ≠ [] := by
  induction candidates generalizing seen start with
  | nil =>
    cases classified
    exact known
  | cons candidate rest ih => grind [classify]

end

section

variable (resolved : resolve requirement constraints policy candidates = (result, none))

include resolved

theorem resolve_requirement :
    result.requirement = requirement := by
  rw [resolve] at resolved
  split at resolved
  · cases resolved
  split at resolved
  · cases resolved
  · rename_i classified
    rw [← (Prod.mk.inj resolved).1]
    exact classify_requirement classified

/-- A successful resolution is of a capability and an operation that are not blank, and finds
Bodies with an identity. -/
theorem resolve_eligible :
    requirement.capability ≠ [] ∧ requirement.operation ≠ [] ∧ result.eligible ≠ [] ∧
      ∀ candidate ∈ result.eligible, candidate.body.id ≠ [] := by
  rw [resolve] at resolved
  split at resolved
  · cases resolved
  rename_i present
  rw [not_or] at present
  refine ⟨fun blank => present.1 (by rw [blank]; rfl),
    fun blank => present.2 (by rw [blank]; rfl), ?_⟩
  split at resolved
  · cases resolved
  obtain ⟨sorted, some_left⟩ := Prod.mk.inj resolved
  rw [← sorted]
  refine ⟨fun empty => ?_, ?_⟩
  · rw [if_pos empty] at some_left
    cases some_left
  · grind [classify_eligible, List.mem_insertionSort]

end

end NeonDoll.BodyResolver
