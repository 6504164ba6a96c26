import NeonDoll.DollNetwork.Signing

/-!
# Transcripts are unambiguous

Every field of a transcript stands behind its length, so the transcript determines the message
type and the fields.  The types of all signed messages differ, and the number and the meaning
of the fields follow from the type.
-/

namespace NeonDoll.DollNetwork

open Lib Bytes EnrollmentReceipt

/-! ## The transcript -/

theorem bind_ok {ε α β : Type} {x : Except ε α} {f : α → Except ε β} {b : β}
    (done : x >>= f = .ok b) : ∃ a, x = .ok a ∧ f a = .ok b := by
  cases x with
  | error e => cases done
  | ok a => exact ⟨a, rfl, done⟩

variable {field : SignedField}

theorem stringField_ok
    (done : stringField value = .ok field) : signable value = true ∧ field = ⟨value⟩ := by
  unfold stringField at done
  split at done
  · exact ⟨‹_›, (Except.ok.inj done).symm⟩
  · cases done

theorem rawField_ok (done : rawField value = .ok field) : field = ⟨value⟩ := by
  unfold rawField at done
  split at done
  · exact (Except.ok.inj done).symm
  · cases done

theorem foldl_appendField (fields : List SignedField) :
    fields.foldl (fun message field => appendField message field.value) start =
      start ++ Bytes.frames 4 (fields.map SignedField.value) := by
  induction fields generalizing start with
  | nil => simp [frames]
  | cons field rest ih =>
    rw [List.foldl_cons, ih]
    simp [appendField, frames, frame]

/-- A transcript is the domain, the type and the fields, the last two behind their lengths. -/
theorem signedMessage_ok {messageType x : Bytes} {fields : List SignedField}
    (done : signedMessage messageType fields = .ok x) :
    (∀ f ∈ messageType :: fields.map SignedField.value, f.length < 256 ^ 4) ∧
      x = signingDomain ++ Bytes.frames 4 (messageType :: fields.map SignedField.value) := by
  obtain ⟨_, typed, done⟩ := bind_ok done
  obtain ⟨_, rfl⟩ := stringField_ok typed
  have bound : ∀ value, signable value = true → value.length < 256 ^ 4 := by
    intro value ok
    have small : value.length ≤ maxSignedString := (of_decide_eq_true ok).2
    exact Nat.lt_of_le_of_lt small (by decide)
  split at done
  · constructor
    · grind
    · rw [← Except.ok.inj done, foldl_appendField]
      simp [appendField, frames, frame]
  · cases done

theorem signedMessage_injective
    {fields fields' : List SignedField} (left : signedMessage messageType fields = .ok x)
    (right : signedMessage messageType' fields' = .ok x) :
    messageType = messageType' ∧ fields = fields' := by
  obtain ⟨short, rfl⟩ := signedMessage_ok left
  obtain ⟨short', same⟩ := signedMessage_ok right
  have frames := frames_injective (by decide) short short' (List.append_cancel_left same)
  obtain ⟨types, values⟩ := List.cons.inj frames
  refine ⟨types, List.map_injective_iff.mpr ?_ values⟩
  rintro ⟨a⟩ ⟨b⟩ rfl
  rfl

/-! ## The fields of each message -/

def SignedValue.bytes : SignedValue → Bytes
  | .string value => value
  | .raw value => value

theorem SignedValue.field_ok {value : SignedValue}
    (done : value.field = .ok field) : field = ⟨value.bytes⟩ := by
  cases value with
  | string value => exact (stringField_ok done).2
  | raw value => exact rawField_ok done

variable {signed : List SignedField}

theorem fields_ok {values : List SignedValue}
    (done : fields values = .ok signed) : signed = values.map fun value => ⟨value.bytes⟩ := by
  induction values generalizing signed with
  | nil => exact (Except.ok.inj done).symm
  | cons value rest ih =>
    obtain ⟨_, first, done⟩ := bind_ok done
    obtain ⟨_, second, done⟩ := bind_ok done
    rw [← Except.ok.inj done, SignedValue.field_ok first, ih second]
    rfl

section Fields

variable {signed : List SignedField}

theorem EnrollmentBeginRequest.fields_ok {r : EnrollmentBeginRequest}
    (done : r.fields = .ok signed) :
    ∃ publicKey wgKey nonce, decodeBodyPublicKey r.bodyPublicKey = .ok publicKey ∧
      decodeWgPublicKey r.wgPublicKey = .ok wgKey ∧ decodeNonce r.bodyNonce = .ok nonce ∧
      signed = [⟨r.coreID⟩, ⟨r.requestID⟩, ⟨publicKey⟩, ⟨wgKey⟩, ⟨nonce⟩] := by
  obtain ⟨publicKey, key, done⟩ := bind_ok done
  obtain ⟨wgKey, wg, done⟩ := bind_ok done
  obtain ⟨nonce, fresh, done⟩ := bind_ok done
  exact ⟨publicKey, wgKey, nonce, key, wg, fresh, DollNetwork.fields_ok done⟩

theorem EnrollmentRedeemRequest.fields_ok {r : EnrollmentRedeemRequest}
    (done : r.fields = .ok signed) :
    ∃ publicKey wgKey nonce, decodeBodyPublicKey r.bodyPublicKey = .ok publicKey ∧
      decodeWgPublicKey r.wgPublicKey = .ok wgKey ∧ decodeNonce r.bodyNonce = .ok nonce ∧
      signed = [⟨r.coreID⟩, ⟨r.requestID⟩, ⟨r.invitationID⟩, ⟨r.invitationSecret⟩, ⟨publicKey⟩,
        ⟨wgKey⟩, ⟨nonce⟩] := by
  obtain ⟨publicKey, key, done⟩ := bind_ok done
  obtain ⟨wgKey, wg, done⟩ := bind_ok done
  obtain ⟨nonce, fresh, done⟩ := bind_ok done
  exact ⟨publicKey, wgKey, nonce, key, wg, fresh, DollNetwork.fields_ok done⟩

theorem EnrollmentResultRequest.fields_ok {r : EnrollmentResultRequest}
    (done : r.fields = .ok signed) :
    ∃ publicKey nonce, decodeBodyPublicKey r.bodyPublicKey = .ok publicKey ∧
      decodeNonce r.bodyNonce = .ok nonce ∧
      signed = [⟨r.coreID⟩, ⟨r.requestID⟩, ⟨publicKey⟩, ⟨nonce⟩] := by
  obtain ⟨publicKey, key, done⟩ := bind_ok done
  obtain ⟨nonce, fresh, done⟩ := bind_ok done
  exact ⟨publicKey, nonce, key, fresh, DollNetwork.fields_ok done⟩

theorem EnrollmentPendingResponse.fields_ok {r : EnrollmentPendingResponse}
    (done : r.fields = .ok signed) : ∃ nonce, decodeNonce r.coreNonce = .ok nonce ∧
      signed = [⟨r.coreID⟩, ⟨r.requestID⟩, ⟨r.bodyKeyFingerprint⟩, ⟨nonce⟩, ⟨r.approvalCode⟩,
        ⟨r.expiresAt.text⟩] := by
  obtain ⟨nonce, fresh, done⟩ := bind_ok done
  exact ⟨nonce, fresh, DollNetwork.fields_ok done⟩

theorem EnrollmentReceipt.fields_ok {r : EnrollmentReceipt} (done : r.fields = .ok signed) :
    signed = [⟨r.coreID⟩, ⟨r.requestID⟩, ⟨r.bodyID⟩, ⟨r.bodyPublicKeyFingerprint⟩,
      ⟨r.membershipReference⟩, ⟨r.issuedAt.text⟩] :=
  DollNetwork.fields_ok done

theorem authField_string (plain : (count ≠ 7 ∧ count ≠ 6) ∨ (index ≠ 3 ∧ index ≠ 4))
    (done : authField count index value = .ok field) : field = ⟨value⟩ := by
  rw [authField, if_neg (by omega)] at done
  exact (stringField_ok done).2

theorem authField_nonce {value : Bytes} (nonce : (count = 7 ∨ count = 6) ∧ (index = 3 ∨ index = 4))
    (done : authField count index value = .ok field) :
    ∃ raw, decodeNonce value = .ok raw ∧ field = ⟨raw⟩ := by
  rw [authField, if_pos (by omega)] at done
  obtain ⟨raw, decoded, done⟩ := bind_ok done
  exact ⟨raw, decoded, rawField_ok done⟩

theorem authFieldsFrom_cons {value : Bytes} {rest : List Bytes}
    (done : authFieldsFrom count index (value :: rest) = .ok signed) :
    ∃ field later, authField count index value = .ok field ∧
      authFieldsFrom count (index + 1) rest = .ok later ∧ signed = field :: later := by
  obtain ⟨field, first, done⟩ := bind_ok done
  obtain ⟨later, second, done⟩ := bind_ok done
  exact ⟨field, later, first, second, (Except.ok.inj done).symm⟩

theorem authFieldsFrom_strings (plain : (count ≠ 7 ∧ count ≠ 6) ∨ 4 < index)
    (done : authFieldsFrom count index values = .ok signed) : signed = values.map .mk := by
  induction values generalizing index signed with
  | nil =>
    cases done
    rfl
  | cons value rest ih =>
    obtain ⟨_, _, first, others, rfl⟩ := authFieldsFrom_cons done
    rw [authField_string (by omega) first, ih (by omega) others, List.map_cons]

theorem authFieldsFrom_nonces
    (nonces : count = 7 ∨ count = 6)
    (done : authFieldsFrom count 0 (a :: b :: c :: n :: m :: rest) = .ok signed) :
    ∃ bodyNonce coreNonce, decodeNonce n = .ok bodyNonce ∧ decodeNonce m = .ok coreNonce ∧
      signed = ⟨a⟩ :: ⟨b⟩ :: ⟨c⟩ :: ⟨bodyNonce⟩ :: ⟨coreNonce⟩ :: rest.map .mk := by
  obtain ⟨_, _, first, d0, rfl⟩ := authFieldsFrom_cons done
  obtain ⟨_, _, second, d1, rfl⟩ := authFieldsFrom_cons d0
  obtain ⟨_, _, third, d2, rfl⟩ := authFieldsFrom_cons d1
  obtain ⟨_, _, fourth, d3, rfl⟩ := authFieldsFrom_cons d2
  obtain ⟨_, _, fifth, d4, rfl⟩ := authFieldsFrom_cons d3
  obtain ⟨bodyNonce, body, rfl⟩ := authField_nonce (by omega) fourth
  obtain ⟨coreNonce, core, rfl⟩ := authField_nonce (by omega) fifth
  rw [authField_string (by omega) first, authField_string (by omega) second,
    authField_string (by omega) third, authFieldsFrom_strings (by omega) d4]
  exact ⟨bodyNonce, coreNonce, body, core, rfl⟩

theorem Challenge.fields_ok {r : Challenge} (done : r.fields = .ok signed) :
    ∃ bodyNonce coreNonce, decodeNonce r.bodyNonce = .ok bodyNonce ∧
      decodeNonce r.coreNonce = .ok coreNonce ∧
      signed = [⟨r.coreID⟩, ⟨r.bodyID⟩, ⟨r.sessionID⟩, ⟨bodyNonce⟩, ⟨coreNonce⟩,
        ⟨r.expiresAt.text⟩, ⟨r.algorithm⟩] :=
  authFieldsFrom_nonces (.inl rfl) done

theorem Proof.fields_ok {r : Proof} (done : r.fields = .ok signed) :
    ∃ bodyNonce coreNonce, decodeNonce r.bodyNonce = .ok bodyNonce ∧
      decodeNonce r.coreNonce = .ok coreNonce ∧
      signed = [⟨r.coreID⟩, ⟨r.bodyID⟩, ⟨r.sessionID⟩, ⟨bodyNonce⟩, ⟨coreNonce⟩,
        ⟨r.algorithm⟩] :=
  authFieldsFrom_nonces (.inr rfl) done

theorem Accept.fields_ok {r : Accept} (done : r.fields = .ok signed) :
    signed = [⟨r.coreID⟩, ⟨r.bodyID⟩, ⟨r.sessionID⟩, ⟨r.status⟩] :=
  authFieldsFrom_strings (.inl (by simp)) done

end Fields

theorem Time.text_injective {a b : Time} (same : a.text = b.text) : a.seconds = b.seconds :=
  Rfc3339.format_injective same

/-! ## Any two messages -/

/-- A message of the enrollment or of the authentication family. -/
inductive Message where
  | begin (request : EnrollmentBeginRequest)
  | redeem (request : EnrollmentRedeemRequest)
  | result (request : EnrollmentResultRequest)
  | pending (response : EnrollmentPendingResponse)
  | receipt (receipt : EnrollmentReceipt)
  | challenge (value : Challenge)
  | proof (value : Proof)
  | accept (value : Accept)

namespace Message

def kind : Message → Kind
  | .begin _ => .begin
  | .redeem _ => .redeem
  | .result _ => .result
  | .pending _ => .pending
  | .receipt _ => .receipt
  | .challenge _ => .challenge
  | .proof _ => .proof
  | .accept _ => .accept

def fields : Message → Except SigningError (List SignedField)
  | .begin r => r.fields
  | .redeem r => r.fields
  | .result r => r.fields
  | .pending r => r.fields
  | .receipt r => r.fields
  | .challenge r => r.fields
  | .proof r => r.fields
  | .accept r => r.fields

def transcript (m : Message) : Except SigningError Bytes := do
  let fields ← m.fields
  signedMessage m.kind.text fields

/-- Two messages of one kind have the same values in every field that their transcript has. -/
def Agrees : Message → Message → Prop
  | .begin a, .begin b => a.coreID = b.coreID ∧ a.requestID = b.requestID ∧
      decodeBodyPublicKey a.bodyPublicKey = decodeBodyPublicKey b.bodyPublicKey ∧
      decodeWgPublicKey a.wgPublicKey = decodeWgPublicKey b.wgPublicKey ∧
      decodeNonce a.bodyNonce = decodeNonce b.bodyNonce
  | .redeem a, .redeem b => a.coreID = b.coreID ∧ a.requestID = b.requestID ∧
      a.invitationID = b.invitationID ∧ a.invitationSecret = b.invitationSecret ∧
      decodeBodyPublicKey a.bodyPublicKey = decodeBodyPublicKey b.bodyPublicKey ∧
      decodeWgPublicKey a.wgPublicKey = decodeWgPublicKey b.wgPublicKey ∧
      decodeNonce a.bodyNonce = decodeNonce b.bodyNonce
  | .result a, .result b => a.coreID = b.coreID ∧ a.requestID = b.requestID ∧
      decodeBodyPublicKey a.bodyPublicKey = decodeBodyPublicKey b.bodyPublicKey ∧
      decodeNonce a.bodyNonce = decodeNonce b.bodyNonce
  | .pending a, .pending b => a.coreID = b.coreID ∧ a.requestID = b.requestID ∧
      a.bodyKeyFingerprint = b.bodyKeyFingerprint ∧
      decodeNonce a.coreNonce = decodeNonce b.coreNonce ∧ a.approvalCode = b.approvalCode ∧
      a.expiresAt.seconds = b.expiresAt.seconds
  | .receipt a, .receipt b => a.coreID = b.coreID ∧ a.requestID = b.requestID ∧
      a.bodyID = b.bodyID ∧ a.bodyPublicKeyFingerprint = b.bodyPublicKeyFingerprint ∧
      a.membershipReference = b.membershipReference ∧ a.issuedAt.seconds = b.issuedAt.seconds
  | .challenge a, .challenge b => a.coreID = b.coreID ∧ a.bodyID = b.bodyID ∧
      a.sessionID = b.sessionID ∧ decodeNonce a.bodyNonce = decodeNonce b.bodyNonce ∧
      decodeNonce a.coreNonce = decodeNonce b.coreNonce ∧
      a.expiresAt.seconds = b.expiresAt.seconds ∧ a.algorithm = b.algorithm
  | .proof a, .proof b => a.coreID = b.coreID ∧ a.bodyID = b.bodyID ∧
      a.sessionID = b.sessionID ∧ decodeNonce a.bodyNonce = decodeNonce b.bodyNonce ∧
      decodeNonce a.coreNonce = decodeNonce b.coreNonce ∧ a.algorithm = b.algorithm
  | .accept a, .accept b => a.coreID = b.coreID ∧ a.bodyID = b.bodyID ∧
      a.sessionID = b.sessionID ∧ a.status = b.status
  | _, _ => False

end Message

theorem Kind.text_injective {k k' : Kind} (same : k.text = k'.text) : k = k' := by
  cases k
  all_goals cases k'
  all_goals
    first
    | rfl
    | exact absurd same (by decide)

theorem EnrollmentReceipt.agrees_of_fields
    (left : a.fields = .ok signed) (right : b.fields = .ok signed) :
    (Message.receipt a).Agrees (.receipt b) := by
  obtain rfl := fields_ok left
  have same := fields_ok right
  simp only [List.cons.injEq, SignedField.mk.injEq, and_true] at same
  obtain ⟨core, request, body, fingerprint, membership, time⟩ := same
  exact ⟨core, request, body, fingerprint, membership, Time.text_injective time⟩

theorem Message.agrees_of_fields {m m' : Message}
    (kinds : m.kind = m'.kind) (left : m.fields = .ok signed) (right : m'.fields = .ok signed) :
    m.Agrees m' := by
  cases m with
  | begin a =>
    cases m' with
    | begin b =>
      obtain ⟨_, _, _, key, wg, nonce, rfl⟩ := EnrollmentBeginRequest.fields_ok left
      obtain ⟨_, _, _, key', wg', nonce', same⟩ := EnrollmentBeginRequest.fields_ok right
      simp only [List.cons.injEq, SignedField.mk.injEq, and_true] at same
      obtain ⟨core, request, rfl, rfl, rfl⟩ := same
      exact ⟨core, request, key.trans key'.symm, wg.trans wg'.symm, nonce.trans nonce'.symm⟩
    | _ => cases kinds
  | redeem a =>
    cases m' with
    | redeem b =>
      obtain ⟨_, _, _, key, wg, nonce, rfl⟩ := EnrollmentRedeemRequest.fields_ok left
      obtain ⟨_, _, _, key', wg', nonce', same⟩ := EnrollmentRedeemRequest.fields_ok right
      simp only [List.cons.injEq, SignedField.mk.injEq, and_true] at same
      obtain ⟨core, request, invitation, secret, rfl, rfl, rfl⟩ := same
      exact ⟨core, request, invitation, secret, key.trans key'.symm, wg.trans wg'.symm,
        nonce.trans nonce'.symm⟩
    | _ => cases kinds
  | result a =>
    cases m' with
    | result b =>
      obtain ⟨_, _, key, nonce, rfl⟩ := EnrollmentResultRequest.fields_ok left
      obtain ⟨_, _, key', nonce', same⟩ := EnrollmentResultRequest.fields_ok right
      simp only [List.cons.injEq, SignedField.mk.injEq, and_true] at same
      obtain ⟨core, request, rfl, rfl⟩ := same
      exact ⟨core, request, key.trans key'.symm, nonce.trans nonce'.symm⟩
    | _ => cases kinds
  | pending a =>
    cases m' with
    | pending b =>
      obtain ⟨_, nonce, rfl⟩ := EnrollmentPendingResponse.fields_ok left
      obtain ⟨_, nonce', same⟩ := EnrollmentPendingResponse.fields_ok right
      simp only [List.cons.injEq, SignedField.mk.injEq, and_true] at same
      obtain ⟨core, request, fingerprint, rfl, code, time⟩ := same
      exact ⟨core, request, fingerprint, nonce.trans nonce'.symm, code, Time.text_injective time⟩
    | _ => cases kinds
  | receipt a =>
    cases m' with
    | receipt b => exact EnrollmentReceipt.agrees_of_fields left right
    | _ => cases kinds
  | challenge a =>
    cases m' with
    | challenge b =>
      obtain ⟨_, _, body, core, rfl⟩ := Challenge.fields_ok left
      obtain ⟨_, _, body', core', same⟩ := Challenge.fields_ok right
      simp only [List.cons.injEq, SignedField.mk.injEq, and_true] at same
      obtain ⟨coreID, bodyID, session, rfl, rfl, time, algorithm⟩ := same
      exact ⟨coreID, bodyID, session, body.trans body'.symm, core.trans core'.symm,
        Time.text_injective time, algorithm⟩
    | _ => cases kinds
  | proof a =>
    cases m' with
    | proof b =>
      obtain ⟨_, _, body, core, rfl⟩ := Proof.fields_ok left
      obtain ⟨_, _, body', core', same⟩ := Proof.fields_ok right
      simp only [List.cons.injEq, SignedField.mk.injEq, and_true] at same
      obtain ⟨coreID, bodyID, session, rfl, rfl, algorithm⟩ := same
      exact ⟨coreID, bodyID, session, body.trans body'.symm, core.trans core'.symm, algorithm⟩
    | _ => cases kinds
  | accept a =>
    cases m' with
    | accept b =>
      obtain rfl := Accept.fields_ok left
      have same := Accept.fields_ok right
      simp only [List.cons.injEq, SignedField.mk.injEq, and_true] at same
      exact same
    | _ => cases kinds

theorem Message.transcript_ok {m : Message} {x : Bytes} (done : m.transcript = .ok x) :
    ∃ signed, m.fields = .ok signed ∧ signedMessage m.kind.text signed = .ok x :=
  bind_ok done

theorem Message.agrees_of_transcript {m m' : Message} {x : Bytes} (left : m.transcript = .ok x)
    (right : m'.transcript = .ok x) : m.kind = m'.kind ∧ m.Agrees m' := by
  obtain ⟨signed, fields, done⟩ := transcript_ok left
  obtain ⟨signed', fields', done'⟩ := transcript_ok right
  obtain ⟨texts, rfl⟩ := signedMessage_injective done done'
  have kinds := Kind.text_injective texts
  exact ⟨kinds, agrees_of_fields kinds fields fields'⟩

/-- A signature verifies for at most one message under a key. -/
def Ed25519.Binding (ed : Ed25519) : Prop :=
  ∀ key message message' signature, ed.verify key message signature = true →
    ed.verify key message' signature = true → message = message'

/-! ## Verification -/

variable {invalid : SigningError}

theorem verify_ok
    (done : verify ed invalid key kind encoded signed = .ok ()) :
    ∃ signature x, decodeSignature encoded = .ok signature ∧
      signedMessage kind.text signed = .ok x ∧ ed.verify key x signature = true := by
  obtain ⟨signature, decoded, done⟩ := bind_ok done
  obtain ⟨x, message, done⟩ := bind_ok done
  split at done
  · rename_i verified
    exact ⟨signature, x, decoded, message, verified⟩
  · cases done

namespace Message

def signature : Message → Bytes
  | .begin r => r.signature
  | .redeem r => r.signature
  | .result r => r.signature
  | .pending r => r.signature
  | .receipt r => r.signature
  | .challenge r => r.signature
  | .proof r => r.signature
  | .accept r => r.signature

/-- The requests of a Body carry the key that they are verified with. -/
def signer (key : Bytes) : Message → Except SigningError Bytes
  | .begin r => decodeBodyPublicKey r.bodyPublicKey
  | .redeem r => decodeBodyPublicKey r.bodyPublicKey
  | .result r => decodeBodyPublicKey r.bodyPublicKey
  | _ => .ok key

/-- Verification of a message with a key that is known for its sender. -/
def verify (ed : Ed25519) (key : Bytes) : Message → Except SigningError Unit
  | .begin r => verifyEnrollmentBegin ed r
  | .redeem r => verifyEnrollmentRedeem ed r
  | .result r => verifyEnrollmentResult ed r
  | .pending r => verifyEnrollmentPending ed key r
  | .receipt r => verifyEnrollmentReceipt ed key r
  | .challenge r => verifyChallenge ed key r
  | .proof r => verifyProof ed key r
  | .accept r => verifyAccept ed key r

def Signed (ed : Ed25519) (key : Bytes) (m : Message) : Prop :=
  ∃ used signature x, m.signer key = .ok used ∧ decodeSignature m.signature = .ok signature ∧
    m.transcript = .ok x ∧ ed.verify used x signature = true

variable {ed : Ed25519} {key : Bytes} {m n : Message}

theorem signed_of_verify (signer : m.signer key = .ok used)
    (done : (m.fields >>= DollNetwork.verify ed invalid used m.kind m.signature) = .ok ()) :
    m.Signed ed key := by
  obtain ⟨_, fields, done⟩ := bind_ok done
  obtain ⟨signature, x, decoded, message, verified⟩ := verify_ok done
  refine ⟨used, signature, x, signer, decoded, ?_, verified⟩
  rw [transcript, fields]
  exact message

theorem signed_of_ok (done : m.verify ed key = .ok ()) : m.Signed ed key := by
  cases m with
  | begin r | redeem r =>
    obtain ⟨_, _, done⟩ := bind_ok done
    obtain ⟨used, signer, done⟩ := bind_ok done
    exact signed_of_verify signer done
  | result r =>
    obtain ⟨_, _, done⟩ := bind_ok done
    obtain ⟨_, signer, done⟩ := bind_ok done
    exact signed_of_verify signer done
  | pending r | receipt r | challenge r | proof r | accept r => exact signed_of_verify rfl done

theorem agrees_of_verify (binding : ed.Binding) {key' : Bytes} (left : m.verify ed key = .ok ())
    (right : n.verify ed key' = .ok ()) (signers : m.signer key = n.signer key')
    (signatures : decodeSignature m.signature = decodeSignature n.signature) :
    m.kind = n.kind ∧ m.Agrees n := by
  obtain ⟨used, signature, x, signer, decoded, transcript, verified⟩ := signed_of_ok left
  obtain ⟨_, _, x', signer', decoded', transcript', verified'⟩ := signed_of_ok right
  rw [signer, signer'] at signers
  rw [decoded, decoded'] at signatures
  obtain rfl := Except.ok.inj signers
  obtain rfl := Except.ok.inj signatures
  obtain rfl := binding used x x' signature verified verified'
  exact agrees_of_transcript transcript transcript'

end Message

/-! ## Receipts -/

/-- The values of a receipt that are no part of its transcript. -/
structure Unsigned where
  version : Int
  status : Bytes
  permissions : List Bytes
  nanoseconds : Nat
  zone : Int

/-- The receipt with other unsigned values. -/
def EnrollmentReceipt.alter (r : EnrollmentReceipt) (u : Unsigned) : EnrollmentReceipt :=
  { r with
    version := u.version
    status := u.status
    permissions := u.permissions
    issuedAt := { r.issuedAt with nanoseconds := u.nanoseconds, zone := u.zone } }

def sampleReceipt : EnrollmentReceipt :=
  { version := 1
    requestID := Bytes.ascii "request".toList
    status := Bytes.ascii "enrolled".toList
    bodyID := Bytes.ascii "body".toList
    coreID := Bytes.ascii "core".toList
    bodyPublicKeyFingerprint := Bytes.ascii "fingerprint".toList
    permissions := [Bytes.ascii "speak".toList]
    membershipReference := Bytes.ascii "peer".toList
    issuedAt := ⟨1700000000, 0, 0⟩
    signature := List.replicate 86 65 }

/-- The receipt with every permission, another version and another status. -/
def alteredReceipt : EnrollmentReceipt :=
  sampleReceipt.alter
    { version := 2
      status := Bytes.ascii "denied".toList
      permissions := [Bytes.ascii "speak".toList, Bytes.ascii "admin".toList]
      nanoseconds := 0
      zone := 0 }

def sampleKey : Bytes := List.replicate 32 7

/-- The scheme accepts the transcript of the sample receipt only. -/
def sampleScheme : Ed25519 :=
  ⟨fun _ message _ => (Message.receipt sampleReceipt).transcript.toOption = some message⟩

theorem sampleScheme_binding : sampleScheme.Binding := by
  intro _ message message' _ left right
  have first := of_decide_eq_true left
  rw [of_decide_eq_true right] at first
  exact (Option.some.inj first).symm

theorem sampleReceipt_verifies :
    verifyEnrollmentReceipt sampleScheme sampleKey sampleReceipt = .ok () := by
  decide +kernel

theorem alteredReceipt_verifies :
    verifyEnrollmentReceipt sampleScheme sampleKey alteredReceipt = .ok () :=
  sampleReceipt_verifies

/-! ## What a signature binds -/

/-- A transcript determines the type and the fields that it was made of.  Two messages with the
same transcript are of the same kind and agree in every field that is signed, and so do two
messages that verify with the same key and the same signature. -/
theorem transcripts_unambiguous :
    (∀ messageType messageType' fields fields' x, signedMessage messageType fields = .ok x →
      signedMessage messageType' fields' = .ok x →
      messageType = messageType' ∧ fields = fields') ∧
    (∀ (m m' : Message) x, m.transcript = .ok x → m'.transcript = .ok x →
      m.kind = m'.kind ∧ m.Agrees m') ∧
    ∀ ed : Ed25519, ed.Binding → ∀ (m m' : Message) key key', m.verify ed key = .ok () →
      m'.verify ed key' = .ok () → m.signer key = m'.signer key' →
      decodeSignature m.signature = decodeSignature m'.signature →
      m.kind = m'.kind ∧ m.Agrees m' := by
  refine ⟨?_, ?_, ?_⟩
  · intro _ _ _ _ _ left right
    exact signedMessage_injective left right
  · intro _ _ _ left right
    exact Message.agrees_of_transcript left right
  · intro ed binding m m' key key' left right
    exact Message.agrees_of_verify binding left right

/-- Two receipts that verify with one signature. -/
theorem transcripts_unambiguous_receipt :
    (Message.receipt alteredReceipt).Agrees (.receipt sampleReceipt) :=
  (transcripts_unambiguous.2.2 sampleScheme sampleScheme_binding (.receipt alteredReceipt)
    (.receipt sampleReceipt) sampleKey sampleKey alteredReceipt_verifies sampleReceipt_verifies
    rfl rfl).2

/-- Receipts that verify with the same key and signature have the same identities and the same
second of issue.  The version, the status, the permissions and the fraction of the second can
be altered at will. -/
theorem receipt_signature_binds {ed : Ed25519} (binding : ed.Binding) {key : Bytes}
    {a b : EnrollmentReceipt} (left : verifyEnrollmentReceipt ed key a = .ok ())
    (right : verifyEnrollmentReceipt ed key b = .ok ())
    (same : decodeSignature a.signature = decodeSignature b.signature) :
    a.coreID = b.coreID ∧ a.requestID = b.requestID ∧ a.bodyID = b.bodyID ∧
      a.bodyPublicKeyFingerprint = b.bodyPublicKeyFingerprint ∧
      a.membershipReference = b.membershipReference ∧
      a.issuedAt.seconds = b.issuedAt.seconds ∧
      ∀ u, verifyEnrollmentReceipt ed key (a.alter u) = .ok () := by
  have agree : (Message.receipt a).Agrees (.receipt b) :=
    (Message.agrees_of_verify binding (m := .receipt a) (n := .receipt b) left right rfl same).2
  obtain ⟨core, request, body, fingerprint, membership, second⟩ := agree
  exact ⟨core, request, body, fingerprint, membership, second, fun _ => left⟩

theorem receipt_signature_binds_sample : alteredReceipt.bodyID = sampleReceipt.bodyID ∧
      ∀ u, verifyEnrollmentReceipt sampleScheme sampleKey (alteredReceipt.alter u) = .ok () := by
  obtain ⟨_, _, body, _, _, _, altered⟩ :=
    receipt_signature_binds sampleScheme_binding alteredReceipt_verifies sampleReceipt_verifies rfl
  exact ⟨body, altered⟩

/-- Two receipts with one signature that grant different permissions. -/
theorem receipt_permissions_unbound :
    ∃ ed : Ed25519, ed.Binding ∧ ∃ key a b, verifyEnrollmentReceipt ed key a = .ok () ∧
      verifyEnrollmentReceipt ed key b = .ok () ∧ a.signature = b.signature ∧
      a.version ≠ b.version ∧ a.status ≠ b.status ∧ a.permissions ≠ b.permissions := by
  refine ⟨sampleScheme, sampleScheme_binding, sampleKey, sampleReceipt, alteredReceipt,
    sampleReceipt_verifies, alteredReceipt_verifies, rfl, ?_, ?_, ?_⟩
  all_goals decide

end NeonDoll.DollNetwork
