import NeonDoll.Relay.Probe

/-!
# Reachability probes of a Body

`Body/path_probe.go` has its own encoder and verifier of probes.  They agree with those of the
Relay byte for byte: a request is answered exactly by a registry that holds the route with the
credential, both verifiers accept the answer, and neither accepts a request or an answer for
another route or nonce.
-/

namespace NeonDoll.Body

open Lib Relay List Nat Bytes

section Messages

variable (hmac : Token → Bytes → Bytes)

def computeProbeHMAC (magic : Bytes) (routeID : RouteID) (nonce : Bytes) (credential : Token) :
    Bytes :=
  hmac credential (magic ++ Bytes.putLittle 8 routeID ++ nonce)

def encodeProbeRequest (routeID : RouteID) (nonce : Bytes) (credential : Token) : Bytes :=
  let buf := List.replicate 52 0
  let buf := Bytes.copyTo buf 0 4 (Bytes.ascii "NLPR".toList)
  let buf := Bytes.copyTo buf 4 12 (Bytes.putLittle 8 routeID)
  let buf := Bytes.copyTo buf 12 20 nonce
  let mac := computeProbeHMAC hmac (Bytes.ascii "NLPR".toList) routeID nonce credential
  Bytes.copyTo buf 20 52 mac

def verifyProbeResponse (data : Bytes) (routeID : RouteID) (nonce : Bytes) (credential : Token) :
    Except Text Unit :=
  if data.length < 52 then
    .error ("response too short: ".toList ++ Nat.toDigits 10 data.length ++ " < 52".toList)
  else if data.take 4 ≠ Bytes.ascii "NLPS".toList then .error "bad response magic".toList
  else if Bytes.little ((data.drop 4).take 8) ≠ routeID then .error "route ID mismatch".toList
  else if (data.drop 12).take 8 ≠ nonce then .error "nonce mismatch".toList
  else
    let expected := computeProbeHMAC hmac (Bytes.ascii "NLPS".toList) routeID nonce credential
    if (data.drop 20).take 32 ≠ expected then .error "HMAC mismatch".toList
    else .ok ()

end Messages

variable {hmac : Token → Bytes → Bytes} {registry : Registry} {token : Token}

/-! ## Acceptance -/

/-- The datagram is a response for the route and the nonce under the token. -/
@[mk_iff]
structure Responds (hmac : Token → Bytes → Bytes) (data : Bytes) (routeID : RouteID)
    (nonce : Bytes) (token : Token) : Prop where
  long : probeDatagramSize ≤ data.length
  magic : data.take 4 = probeMagicResp
  route : probeRoute data = routeID
  fresh : probeNonce data = nonce
  mac : (data.drop 20).take 32 = probeHMAC hmac probeMagicResp routeID nonce token

theorem check_ok_iff {failed : Prop} [Decidable failed] {rest : Except Text Unit} :
    (if failed then .error e else rest) = .ok () ↔ ¬failed ∧ rest = .ok () := by
  split
  · exact ⟨by rintro ⟨⟩, fun passed => absurd ‹_› passed.1⟩
  · exact ⟨fun ok => ⟨‹_›, ok⟩, And.right⟩

theorem verifyProbeResponse_relay_ok_iff :
    Relay.verifyProbeResponse hmac data routeID nonce token = .ok () ↔
      Responds hmac data routeID nonce token := by
  rw [responds_iff, Relay.verifyProbeResponse]
  simp only [check_ok_iff, not_not, not_lt, and_true]

/-- The two verifiers accept the same datagrams. -/
theorem verifyProbeResponse_ok_iff : verifyProbeResponse hmac data routeID nonce token = .ok () ↔
      Responds hmac data routeID nonce token := by
  rw [responds_iff, verifyProbeResponse]
  simp only [check_ok_iff, not_not, not_lt, and_true]
  rfl

/-- A datagram with the fields of a response is one for its own route and nonce only. -/
theorem Responds.fields {magic mac nonce' : Bytes} {routeID' : RouteID} (four : magic.length = 4)
    (wide : routeID' < 2 ^ 64) (eight : nonce'.length = probeNonceSize)
    (responds : Responds hmac (probeDatagram magic routeID' nonce' mac) routeID nonce token) :
    magic = probeMagicResp ∧ routeID' = routeID ∧ nonce' = nonce := by
  grind [take_probeDatagram, probeRoute_probeDatagram, probeNonce_probeDatagram, Responds]

/-! ## Agreement -/

/-- The HMAC tells the keys in use and the messages of probes apart. -/
def Separates (hmac : Token → Bytes → Bytes) (inUse : Token → Prop) : Prop :=
  ∀ key key' message message', inUse key → inUse key' → message.length = 20 →
    message'.length = 20 → hmac key message = hmac key' message' → key = key' ∧ message = message'

theorem probeRoute_lt : probeRoute data < 2 ^ 64 := by
  have bound := Bytes.little_lt ((data.drop 4).take 8)
  have short : ((data.drop 4).take 8).length ≤ 8 := List.length_take_le _ _
  exact Nat.lt_of_lt_of_le bound (Nat.pow_le_pow_right (by decide) short)

/-- A request is answered by the registries that hold the route with the token, and by no
others. -/
theorem request_answered_iff (size : ∀ token message, (hmac token message).length = probeHMACSize)
    (separates : Separates hmac inUse) (known : inUse token)
    (held : ∀ R entry, registry.route R = some entry → inUse entry.credentials)
    (wide : routeID < 2 ^ 64) (eight : nonce.length = probeNonceSize) (answer : Bytes) :
    handleProbe hmac registry (encodeProbeRequest hmac routeID nonce token) = some answer ↔
      (∃ entry, registry.route routeID = some entry ∧ entry.credentials = token) ∧
      answer = probeDatagram probeMagicResp routeID nonce
        (probeHMAC hmac probeMagicResp routeID nonce token) := by
  have request : encodeProbeRequest hmac routeID nonce token =
      probeDatagram probeMagicReq routeID nonce
        (probeHMAC hmac probeMagicReq routeID nonce token) := probeRequest_eq size eight
  have four : probeMagicReq.length = 4 := rfl
  have mac : (probeHMAC hmac probeMagicReq routeID nonce token).length = probeHMACSize := size _ _
  have short : (probeMagicReq ++ Bytes.putLittle 8 routeID ++ nonce).length = 20 := by
    rw [length_append, length_append, four, length_putLittle, eight, probeNonceSize]
  rw [request, handleProbe_eq_some_iff size (length_probeDatagram four eight mac),
    probeRoute_probeDatagram four wide, probeNonce_probeDatagram four eight,
    mac_probeDatagram four eight mac]
  constructor
  · rintro ⟨entry, -, found, same, rfl⟩
    obtain ⟨key, -⟩ := separates _ _ _ _ known (held routeID entry found) short short same
    rw [← key]
    exact ⟨⟨entry, found, key.symm⟩, rfl⟩
  · rintro ⟨⟨entry, found, rfl⟩, rfl⟩
    exact ⟨entry, take_probeDatagram four, found, rfl, rfl⟩

/-- The Body's probes and the Relay's agree: encoders, answers and verifiers. -/
theorem probe_agreement (hmac : Token → Bytes → Bytes)
    (size : ∀ token message, (hmac token message).length = probeHMACSize)
    {inUse : Token → Prop} (separates : Separates hmac inUse) (registry : Registry)
    (held : ∀ R entry, registry.route R = some entry → inUse entry.credentials)
    {routeID : RouteID} (wide : routeID < 2 ^ 64) {nonce : Bytes}
    (eight : nonce.length = probeNonceSize) {token : Token} (known : inUse token) :
    encodeProbeRequest hmac routeID nonce token = probeRequest hmac routeID nonce token ∧
    ((∃ answer, handleProbe hmac registry (encodeProbeRequest hmac routeID nonce token) =
        some answer) ↔
      ∃ entry, registry.route routeID = some entry ∧ entry.credentials = token) ∧
    (∀ answer, handleProbe hmac registry (encodeProbeRequest hmac routeID nonce token) =
        some answer →
      Relay.verifyProbeResponse hmac answer routeID nonce token = .ok () ∧
        verifyProbeResponse hmac answer routeID nonce token = .ok ()) ∧
    (∀ routeID' nonce' token', nonce'.length = probeNonceSize →
      Relay.verifyProbeResponse hmac (encodeProbeRequest hmac routeID' nonce' token') routeID nonce
          token ≠ .ok () ∧
        verifyProbeResponse hmac (encodeProbeRequest hmac routeID' nonce' token') routeID nonce
          token ≠ .ok ()) ∧
    ∀ (registry' : Registry) (data answer : Bytes), data.length = probeDatagramSize →
      handleProbe hmac registry' data = some answer →
      (probeRoute data ≠ routeID ∨ probeNonce data ≠ nonce) →
      Relay.verifyProbeResponse hmac answer routeID nonce token ≠ .ok () ∧
        verifyProbeResponse hmac answer routeID nonce token ≠ .ok () := by
  have answers := request_answered_iff size separates known held wide eight
  simp only [verifyProbeResponse_relay_ok_iff, verifyProbeResponse_ok_iff, and_self, ne_eq]
  refine ⟨rfl, ?_, ?_, ?_, ?_⟩
  · constructor
    · rintro ⟨answer, answered⟩
      exact ((answers answer).mp answered).1
    · intro holds
      exact ⟨_, (answers _).mpr ⟨holds, rfl⟩⟩
  · intro answer answered
    obtain ⟨-, rfl⟩ := (answers answer).mp answered
    have four : probeMagicResp.length = 4 := rfl
    have mac : (probeHMAC hmac probeMagicResp routeID nonce token).length = probeHMACSize :=
      size _ _
    exact ⟨le_of_eq (length_probeDatagram four eight mac).symm, take_probeDatagram four,
      probeRoute_probeDatagram four wide, probeNonce_probeDatagram four eight,
      mac_probeDatagram four eight mac⟩
  · intro routeID' nonce' token' eight' responds
    have request : encodeProbeRequest hmac routeID' nonce' token' =
        probeDatagram probeMagicReq routeID' nonce'
          (probeHMAC hmac probeMagicReq routeID' nonce' token') := probeRequest_eq size eight'
    rw [request] at responds
    have magic := responds.magic
    rw [take_probeDatagram (show probeMagicReq.length = 4 from rfl)] at magic
    exact absurd magic (by decide)
  · intro registry' data answer whole answered differ responds
    have eight' : (probeNonce data).length = probeNonceSize := by
      rw [probeNonce, length_take, length_drop, whole]
      rfl
    obtain ⟨entry, -, -, -, rfl⟩ := (handleProbe_eq_some_iff size whole).mp answered
    obtain ⟨-, route, fresh⟩ :=
      responds.fields (show probeMagicResp.length = 4 from rfl) (probeRoute_lt) eight'
    exact differ.elim (fun other => other route) (fun other => other fresh)

/-! ## A sample -/

/-- A stand-in for the HMAC: the first twenty bytes of the message, then the key. -/
def sampleHmac (key : Token) (message : Bytes) : Bytes :=
  (message ++ List.replicate 20 0).take 20 ++ Bytes.putBig 12 key

def sampleNonce : Bytes := [1, 2, 3, 4, 5, 6, 7, 8]

/-- A registry that holds route `7` with the token `5`. -/
def sampleRegistry : Registry :=
  ⟨∅, AList.singleton 7 ⟨.open, 1, 5, 0, none⟩, 8, 8⟩

theorem probe_agreement_sample : ∃ answer, handleProbe sampleHmac sampleRegistry
        (encodeProbeRequest sampleHmac 7 sampleNonce 5) = some answer ∧
      Relay.verifyProbeResponse sampleHmac answer 7 sampleNonce 5 = .ok () ∧
      verifyProbeResponse sampleHmac answer 7 sampleNonce 5 = .ok () := by
  have size : ∀ token message, (sampleHmac token message).length = probeHMACSize := by
    intro token message
    rw [sampleHmac, length_append, length_putBig, length_take, length_append,
      length_replicate, probeHMACSize]
    omega
  have separates : Separates sampleHmac (· < 256 ^ 12) := by
    intro key key' message message' small small' length length' same
    have whole : ∀ m : Bytes, m.length = 20 → (m ++ List.replicate 20 0).take 20 = m :=
      fun m twenty => take_left' twenty
    rw [sampleHmac, sampleHmac, whole message length, whole message' length'] at same
    obtain ⟨messages, keys⟩ := append_inj same (length.trans length'.symm)
    exact ⟨putBig_injective small small' keys, messages⟩
  have held : ∀ R entry, sampleRegistry.route R = some entry → entry.credentials < 256 ^ 12 := by
    intro R entry found
    have only := AList.mem_lookup_iff.mp found
    cases mem_singleton.mp only
    decide
  obtain ⟨-, answered, accepted, -, -⟩ := probe_agreement sampleHmac size separates sampleRegistry
    held (show 7 < 2 ^ 64 by decide) (show sampleNonce.length = probeNonceSize from rfl)
    (show 5 < 256 ^ 12 by decide)
  obtain ⟨answer, sent⟩ := answered.mpr ⟨_, rfl, rfl⟩
  exact ⟨answer, sent, accepted answer sent⟩

end NeonDoll.Body
