import NeonDoll.Lib.GoMap
import NeonDoll.Lib.Text

/-!
# External identities

`Core/ExternalIdentity/resolver.go`: the mappings that the configuration gives from identities
observed by a gateway to principals of Core.  The resolver trims the parts of an identity on
both sides and consults nothing else.
-/

namespace NeonDoll.ExternalIdentity

open Lib Text

/-- The configured text of an authority; texts that are no authority are `other`. -/
inductive Authority where
  | participant
  | owner
  | peer
  | other (name : Text)
  deriving DecidableEq

structure Identity where
  gatewayInstanceID : Text
  platform : Text
  subjectID : Text
  deriving DecidableEq

structure Principal where
  id : Text
  authority : Authority
  deriving DecidableEq

structure Mapping where
  identity : Identity
  principal : Principal
  deriving DecidableEq

structure IdentityKey where
  gateway : Text
  platform : Text
  subject : Text
  deriving DecidableEq

/-- `context` is the error of a context that has ended. -/
inductive IdentityError where
  | invalidIdentity
  | unmapped
  | context
  deriving DecidableEq

/-- Why a configuration is refused, with the index of the mapping. -/
inductive MappingError where
  | invalid (index : Nat)
  | duplicate (index : Nat)
  | conflicting (principal : Text) (index : Nat)
  deriving DecidableEq

def validatedKey (identity : Identity) : Option IdentityKey :=
  let gateway := trimSpace identity.gatewayInstanceID
  let platform := trimSpace identity.platform
  let subject := trimSpace identity.subjectID
  if gateway = [] ∨ platform = [] ∨ subject = [] then none
  else some ⟨gateway, platform, subject⟩

def validPrincipal (principal : Principal) : Bool :=
  trimSpace principal.id ≠ [] ∧
    (principal.authority = .participant ∨ principal.authority = .owner ∨
      principal.authority = .peer)

def Mapping.resolved (m : Mapping) : Principal := ⟨trimSpace m.principal.id, m.principal.authority⟩

/-- The second map holds the authority of each principal. -/
structure MemoryResolver where
  mappings : GoMap IdentityKey Principal
  principals : GoMap Text Authority

/-- One round of the loop of `NewMemoryResolver`. -/
def MemoryResolver.add (r : MemoryResolver) (index : Nat) (m : Mapping) :
    Except MappingError MemoryResolver :=
  match validatedKey m.identity with
  | none => .error (.invalid index)
  | some key =>
    if validPrincipal m.principal = false then .error (.invalid index)
    else if key ∈ r.mappings then .error (.duplicate index)
    else if (r.principals.lookup m.resolved.id).any fun known => known ≠ m.resolved.authority then
      .error (.conflicting m.resolved.id index)
    else
      .ok
        { mappings := r.mappings.insert key m.resolved
          principals := r.principals.insert m.resolved.id m.resolved.authority }

def MemoryResolver.addAll (r : MemoryResolver) (index : Nat) :
    List Mapping → Except MappingError MemoryResolver
  | [] => .ok r
  | m :: rest =>
    match r.add index m with
    | .error e => .error e
    | .ok next => next.addAll (index + 1) rest

def newMemoryResolver (mappings : List Mapping) : Except MappingError MemoryResolver :=
  (⟨∅, ∅⟩ : MemoryResolver).addAll 0 mappings

/-- `Resolve`, in a live context.  The claims that an event carries are no argument of it. -/
def MemoryResolver.resolve (r : MemoryResolver) (identity : Identity) :
    Except IdentityError Principal :=
  match validatedKey identity with
  | none => .error .invalidIdentity
  | some key =>
    match r.mappings.lookup key with
    | none => .error .unmapped
    | some principal => .ok principal

def MemoryResolver.lookupPrincipal (r : MemoryResolver) (id : Text) :
    Except IdentityError Principal :=
  if trimSpace id = [] then .error .invalidIdentity
  else
    match r.principals.lookup (trimSpace id) with
    | none => .error .unmapped
    | some authority => .ok ⟨trimSpace id, authority⟩

/-- A configuration that was accepted, with the resolver made of it. -/
structure Identities where
  configured : List Mapping
  resolver : MemoryResolver
  built : newMemoryResolver configured = .ok resolver

/-! ## What is resolved was configured -/

/-- The configuration maps an identity to a principal, spaces around its parts aside. -/
def Maps (configured : List Mapping) (identity : Identity) (principal : Principal) : Prop :=
  ∃ m ∈ configured, m.resolved = principal ∧
    ∃ key, validatedKey m.identity = some key ∧ validatedKey identity = some key

theorem MemoryResolver.add_mappings {r next : MemoryResolver} (added : r.add index m = .ok next) :
    ∃ key, validatedKey m.identity = some key ∧ m.resolved.id ≠ [] ∧
      next.mappings = r.mappings.insert key m.resolved := by
  grind [MemoryResolver.add, validPrincipal, Mapping.resolved]

variable {principal : Principal}

theorem MemoryResolver.addAll_mappings {mappings : List Mapping} {r last : MemoryResolver}
    {index : Nat} {key : IdentityKey}
    (added : r.addAll index mappings = .ok last)
    (found : last.mappings.lookup key = some principal) : r.mappings.lookup key = some principal ∨
      principal.id ≠ [] ∧
        ∃ m ∈ mappings, validatedKey m.identity = some key ∧ m.resolved = principal := by
  induction mappings generalizing r index with
  | nil =>
    cases added
    exact .inl found
  | cons m rest ih =>
    unfold addAll at added
    split at added
    · cases added
    rename_i _ added_one
    obtain ⟨_, _, _, _⟩ := add_mappings added_one
    rcases ih added with _ | ⟨named, later, member, facts⟩
    · grind
    · exact .inr ⟨named, later, List.mem_cons_of_mem m member, facts⟩

theorem Identities.resolve_maps (i : Identities) {identity : Identity}
    (resolved : i.resolver.resolve identity = .ok principal) :
    principal.id ≠ [] ∧ Maps i.configured identity principal := by
  unfold MemoryResolver.resolve at resolved
  split at resolved
  · cases resolved
  rename_i key valid
  split at resolved
  · cases resolved
  rename_i found
  cases resolved
  rcases MemoryResolver.addAll_mappings i.built found with before | ⟨named, m, member, own, same⟩
  · cases before
  · exact ⟨named, m, member, same, key, own, valid⟩

end NeonDoll.ExternalIdentity
