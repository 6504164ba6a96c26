import NeonDoll.DollNetwork.Signing
import NeonDoll.Lib.Netip

/-!
# Pairing a Body with an invitation

`PairWithInvitation` of `pairing_client.go`: the response of the Core is validated and mapped to the
membership of the Body, which is then saved.
-/

namespace NeonDoll.Body.Pairing

open Lib

structure PairResponse where
  version : Int
  networkID : Text
  bodyPeerID : Text
  bodyAddresses : List Text
  corePeerID : Text
  coreWGPublicKey : Bytes
  coreAddresses : List Text

structure Membership where
  networkID : Text
  peerID : Text
  bodyPeerID : Text
  bodyIPv6 : Text
  corePeerID : Text
  coreWGKeyB64 : Bytes

/-- `netip.ParseAddr` and `netip.ParsePrefix`: whether the address they read is an IPv6 one. -/
structure Parsers where
  parseAddr : Text → Option Bool
  parsePrefix : Text → Option Bool

variable (net : Parsers)

/-- One round of the loop of `validOverlayAddress`. -/
def Parsers.isOverlay (a : Text) : Bool :=
  a ≠ [] && (net.parseAddr a).getD ((net.parsePrefix a).getD false)

def validOverlayAddress (addrs : List Text) : Option Text := addrs.find? net.isOverlay

inductive ResponseError where
  | version (version : Int)
  | networkID
  | bodyPeerID
  | corePeerID
  | bodyAddress
  | coreAddress
  | coreWGPublicKey (err : DollNetwork.SigningError)

def validatePairResponse (resp : PairResponse) : Except ResponseError Unit :=
  if resp.version ≠ 1 then .error (.version resp.version)
  else if resp.networkID = [] then .error .networkID
  else if resp.bodyPeerID = [] then .error .bodyPeerID
  else if resp.corePeerID = [] then .error .corePeerID
  else if validOverlayAddress net resp.bodyAddresses = none then .error .bodyAddress
  else if validOverlayAddress net resp.coreAddresses = none then .error .coreAddress
  else
    match DollNetwork.decodeWgPublicKey resp.coreWGPublicKey with
    | .error err => .error (.coreWGPublicKey err)
    | .ok _ => .ok ()

def firstAddress (addrs : List Text) : Text := addrs.headD []

def membershipFromResponse (resp : PairResponse) : Membership where
  networkID := resp.networkID
  peerID := resp.bodyPeerID
  bodyPeerID := resp.bodyPeerID
  bodyIPv6 := firstAddress resp.bodyAddresses
  corePeerID := resp.corePeerID
  coreWGKeyB64 := resp.coreWGPublicKey

/-- What the membership file holds. -/
inductive File where
  | absent
  | unreadable
  | stored (m : Membership)

/-- The steps from the invitation to the answer of the Core. -/
inductive Op where
  | nilInvitation
  | nilClient
  | loadIdentity
  | invitationValidity
  | chooseEndpoint
  | buildRequest
  | encodeRequest
  | parseURL
  | createRequest
  | sendRequest
  | readResponse

inductive PairingError where
  | loadMembership
  | existingMembership (networkID bodyPeerID : Text)
  | step (op : Op)
  | denied (status : Nat)
  | decodeResponse
  | validateResponse (err : ResponseError)
  | persistMembership

/-- What the calls return: the first step that fails, the status of the answer, its body if it
decodes, and whether the save succeeds. -/
structure Calls where
  failed : Option Op
  status : Nat
  response : Option PairResponse
  saved : Bool

def pairWithInvitation (file : File) (calls : Calls) :
    File × Except PairingError (PairResponse × Membership) :=
  match file, calls.failed, calls.response with
  | .unreadable, _, _ => (file, .error .loadMembership)
  | .stored m, _, _ => (file, .error (.existingMembership m.networkID m.bodyPeerID))
  | .absent, some op, _ => (file, .error (.step op))
  | .absent, none, response =>
    if calls.status < 200 ∨ 300 ≤ calls.status then (file, .error (.denied calls.status))
    else
      match response with
      | none => (file, .error .decodeResponse)
      | some resp =>
        match validatePairResponse net resp with
        | .error err => (file, .error (.validateResponse err))
        | .ok _ =>
          let m := membershipFromResponse resp
          -- `writeFileAtomic` renames a complete file or leaves the old one
          if calls.saved then (.stored m, .ok (resp, m)) else (file, .error .persistMembership)

/-- A success persists an overlay address of the response, an error keeps the file. -/
def Usable (file : File) (calls : Calls) : Prop :=
  match pairWithInvitation net file calls with
  | (after, .error _) => after = file
  | (after, .ok (resp, m)) =>
    after = .stored m ∧ m.bodyIPv6 ∈ resp.bodyAddresses ∧ net.isOverlay m.bodyIPv6 = true

/-- A response that says all it should, with an overlay address somewhere in each list. -/
structure PairResponse.Complete (resp : PairResponse) : Prop where
  version : resp.version = 1
  networkID : resp.networkID ≠ []
  bodyPeerID : resp.bodyPeerID ≠ []
  corePeerID : resp.corePeerID ≠ []
  bodyAddress : ∃ a ∈ resp.bodyAddresses, net.isOverlay a = true
  coreAddress : ∃ a ∈ resp.coreAddresses, net.isOverlay a = true
  coreWGPublicKey : ∃ key, DollNetwork.decodeWgPublicKey resp.coreWGPublicKey = .ok key

/-- Nothing fails from the file to the save, and the Core answers with a complete response. -/
structure Calls.Succeed (calls : Calls) (file : File) (resp : PairResponse) : Prop where
  unpaired : file = .absent
  answered : calls.failed = none
  accepted : 200 ≤ calls.status ∧ calls.status < 300
  decoded : calls.response = some resp
  complete : resp.Complete net
  saved : calls.saved = true

theorem validOverlayAddress_none (addrs : List Text) :
    validOverlayAddress net addrs = none ↔ ¬∃ a ∈ addrs, net.isOverlay a = true := by
  rw [validOverlayAddress, List.find?_eq_none]
  push Not
  rfl

theorem validatePairResponse_ok_iff (resp : PairResponse) :
    validatePairResponse net resp = .ok () ↔ resp.Complete net := by
  unfold validatePairResponse
  constructor
  · intro valid
    repeat' split at valid
    all_goals try cases valid
    rename_i version networkID bodyPeerID corePeerID bodyAddress coreAddress _ key decoded
    rw [validOverlayAddress_none, not_not] at bodyAddress coreAddress
    exact ⟨not_not.mp version, networkID, bodyPeerID, corePeerID, bodyAddress, coreAddress,
      key, decoded⟩
  · intro complete
    obtain ⟨key, decoded⟩ := complete.coreWGPublicKey
    have body := (validOverlayAddress_none net resp.bodyAddresses).not.mpr
      (not_not.mpr complete.bodyAddress)
    have core := (validOverlayAddress_none net resp.coreAddresses).not.mpr
      (not_not.mpr complete.coreAddress)
    rw [if_neg (not_not.mpr complete.version), if_neg complete.networkID,
      if_neg complete.bodyPeerID, if_neg complete.corePeerID, if_neg body, if_neg core, decoded]

/-- Pairing stores the membership of a response whose calls all succeed, and keeps the file if there
is none. -/
theorem pairWithInvitation_cases (file : File) (calls : Calls) :
    (∃ resp, calls.Succeed net file resp ∧ pairWithInvitation net file calls =
        (.stored (membershipFromResponse resp), .ok (resp, membershipFromResponse resp))) ∨
      (∀ resp, ¬calls.Succeed net file resp) ∧
        ∃ err, pairWithInvitation net file calls = (file, .error err) := by
  unfold pairWithInvitation
  cases file with
  | unreadable => exact .inr ⟨fun _ ok => (by cases ok.unpaired), _, rfl⟩
  | stored m => exact .inr ⟨fun _ ok => (by cases ok.unpaired), _, rfl⟩
  | absent =>
    cases failed : calls.failed with
    | some op => exact .inr ⟨fun _ ok => (by cases failed.symm.trans ok.answered), _, rfl⟩
    | none =>
      by_cases denied : calls.status < 200 ∨ 300 ≤ calls.status
      · refine .inr ⟨fun _ ok => ?_, _, if_pos denied⟩
        have := ok.accepted
        omega
      simp only [if_neg denied]
      cases decoded : calls.response with
      | none => exact .inr ⟨fun _ ok => (by cases decoded.symm.trans ok.decoded), _, rfl⟩
      | some resp =>
        have same : ∀ other, calls.Succeed net .absent other → other = resp := fun other ok =>
          Option.some.inj (ok.decoded.symm.trans decoded)
        have valid := validatePairResponse_ok_iff net resp
        dsimp only
        cases checked : validatePairResponse net resp with
        | error err =>
          refine .inr ⟨fun other ok => ?_, _, rfl⟩
          cases checked.symm.trans (valid.mpr (same other ok ▸ ok.complete))
        | ok _ =>
          cases saved : calls.saved with
          | false => exact .inr ⟨fun _ ok => (by cases saved.symm.trans ok.saved), _, rfl⟩
          | true =>
            exact .inl ⟨resp, ⟨rfl, failed, by omega, decoded, valid.mp checked, saved⟩, rfl⟩

/-- Pairing is as it should be exactly if, where all its calls succeed, the first Body address of
the response is an overlay address itself. -/
theorem paired_membership_usable_iff (file : File) (calls : Calls) :
    Usable net file calls ↔ ∀ resp, calls.Succeed net file resp →
      net.isOverlay (firstAddress resp.bodyAddresses) = true := by
  unfold Usable
  rcases pairWithInvitation_cases net file calls with ⟨resp, succeeded, paired⟩ | ⟨never, _, failed⟩
  · rw [paired]
    constructor
    · rintro ⟨_, _, overlay⟩ other succeeds
      cases succeeds.decoded.symm.trans succeeded.decoded
      exact overlay
    · intro overlay
      have first := overlay resp succeeded
      refine ⟨rfl, ?_, first⟩
      cases listed : resp.bodyAddresses with
      | nil =>
        rw [listed] at first
        cases first
      | cons a rest =>
        rw [membershipFromResponse, listed]
        exact .head _
  · rw [failed]
    exact iff_of_true rfl fun resp succeeds => absurd succeeds (never resp)

/-- Whether the texts that `Netip` reads are those of IPv6 addresses. -/
def netip : Parsers where
  parseAddr t := (Netip.readAddr t).map (·.bitLen = 128)
  parsePrefix t := (Netip.readCidr t).map (·.addr.bitLen = 128)

def sample : PairResponse where
  version := 1
  networkID := ['n']
  bodyPeerID := ['b']
  bodyAddresses := ["10.0.0.1".toList, "fd00::1".toList]
  corePeerID := ['c']
  coreWGPublicKey := List.replicate 43 65 ++ [61]
  coreAddresses := ["fd00::2".toList]

/-- The second Body address is validated and the first one, an IPv4 address, is persisted. -/
theorem first_address_persisted : ¬Usable netip .absent ⟨none, 200, some sample, true⟩ := by
  have paired : pairWithInvitation netip .absent ⟨none, 200, some sample, true⟩ =
      (.stored (membershipFromResponse sample), .ok (sample, membershipFromResponse sample)) := rfl
  unfold Usable
  rw [paired]
  exact fun usable => absurd usable.2.2 (by decide)

end NeonDoll.Body.Pairing
