import NeonDoll.Lib.Base64
import NeonDoll.Lib.Rfc3339

/-!
# Signed messages of the Doll Network

The transcript of `DollNetwork/enrollment_signing.go`, the messages of
`DollNetwork/enrollment.go` that are signed with it, and the frames of
`DollLink/Authentication/types.go`, with their verification.  A message is signed over the same
fields as it is verified.  Go strings are byte strings; the signature scheme is a parameter.
-/

namespace NeonDoll.DollNetwork

open Lib

/-- The part of a `time.Time` that the code reads, and the parts that it drops. -/
structure Time where
  seconds : Int
  nanoseconds : Nat
  zone : Int
  deriving DecidableEq

/-- `UTC().Format(time.RFC3339)`. -/
def Time.text (t : Time) : Bytes := Rfc3339.format t.seconds

/-- `verify publicKey message signature`. -/
structure Ed25519 where
  verify : Bytes → Bytes → Bytes → Bool

inductive SigningError where
  | stringLength
  | fieldLength
  | invalidFieldLength
  | publicKey
  | nonce
  | signature
  | wgPublicKeyEncoding
  | wgPublicKeyLength (length : Nat)
  | unsupportedVersion
  | invalidProof
  | authentication
  deriving DecidableEq

/-! ## The transcript -/

def signingDomain : Bytes := Bytes.ascii "NEONDOLL-SIGN-V1".toList ++ [0]

def maxSignedString : Nat := 256

structure SignedField where
  value : Bytes
  deriving DecidableEq

def signable (value : Bytes) : Bool := value ≠ [] ∧ value.length ≤ maxSignedString

def stringField (value : Bytes) : Except SigningError SignedField :=
  if signable value then .ok ⟨value⟩ else .error .stringLength

def rawField (value : Bytes) : Except SigningError SignedField :=
  if signable value then .ok ⟨value⟩ else .error .fieldLength

def appendField (dst field : Bytes) : Bytes := dst ++ Bytes.putBig 4 field.length ++ field

def signedMessage (messageType : Bytes) (fields : List SignedField) :
    Except SigningError Bytes := do
  let typeField ← stringField messageType
  if fields.all fun field => signable field.value then
    return fields.foldl (fun message field => appendField message field.value)
      (appendField signingDomain typeField.value)
  else throw .invalidFieldLength

/-- A value that is signed as a text or as raw bytes. -/
inductive SignedValue where
  | string (value : Bytes)
  | raw (value : Bytes)
  deriving DecidableEq

def SignedValue.field : SignedValue → Except SigningError SignedField
  | .string value => stringField value
  | .raw value => rawField value

def fields : List SignedValue → Except SigningError (List SignedField)
  | [] => return []
  | value :: rest => do
    let field ← value.field
    let later ← fields rest
    return field :: later

/-! ## Encoded values -/

def decodeBodyPublicKey (encoded : Bytes) : Except SigningError Bytes :=
  match Base64.decodeRawURL encoded with
  | none => .error .publicKey
  | some raw => if raw.length = 32 then .ok raw else .error .publicKey

def decodeNonce (encoded : Bytes) : Except SigningError Bytes :=
  match Base64.decodeRawURL encoded with
  | none => .error .nonce
  | some raw => if raw.length = 32 then .ok raw else .error .nonce

def decodeSignature (encoded : Bytes) : Except SigningError Bytes :=
  match Base64.decodeRawURL encoded with
  | none => .error .signature
  | some raw => if raw.length = 64 then .ok raw else .error .signature

def decodeWgPublicKey (encoded : Bytes) : Except SigningError Bytes :=
  match Base64.decodeStd encoded with
  | none => .error .wgPublicKeyEncoding
  | some raw => if raw.length = 32 then .ok raw else .error (.wgPublicKeyLength raw.length)

/-! ## The messages of an enrollment -/

def enrollmentVersion : Int := 1

structure EnrollmentBeginRequest where
  version : Int
  requestID : Bytes
  coreID : Bytes
  bodyPublicKey : Bytes
  wgPublicKey : Bytes
  bodyNonce : Bytes
  signature : Bytes
  deriving DecidableEq

structure EnrollmentRedeemRequest where
  version : Int
  requestID : Bytes
  coreID : Bytes
  invitationID : Bytes
  invitationSecret : Bytes
  bodyPublicKey : Bytes
  wgPublicKey : Bytes
  bodyNonce : Bytes
  signature : Bytes
  deriving DecidableEq

structure EnrollmentPendingResponse where
  version : Int
  requestID : Bytes
  coreID : Bytes
  bodyKeyFingerprint : Bytes
  coreNonce : Bytes
  approvalCode : Bytes
  expiresAt : Time
  signature : Bytes
  deriving DecidableEq

structure EnrollmentResultRequest where
  version : Int
  requestID : Bytes
  coreID : Bytes
  bodyPublicKey : Bytes
  bodyNonce : Bytes
  signature : Bytes
  deriving DecidableEq

structure EnrollmentReceipt where
  version : Int
  requestID : Bytes
  status : Bytes
  bodyID : Bytes
  coreID : Bytes
  bodyPublicKeyFingerprint : Bytes
  permissions : List Bytes
  membershipReference : Bytes
  issuedAt : Time
  signature : Bytes
  deriving DecidableEq

/-- The fields of `SignEnrollmentBegin` and `VerifyEnrollmentBegin`. -/
def EnrollmentBeginRequest.fields (request : EnrollmentBeginRequest) :
    Except SigningError (List SignedField) := do
  let publicKey ← decodeBodyPublicKey request.bodyPublicKey
  let wgKey ← decodeWgPublicKey request.wgPublicKey
  let nonce ← decodeNonce request.bodyNonce
  DollNetwork.fields [.string request.coreID, .string request.requestID, .raw publicKey,
    .raw wgKey, .raw nonce]

def EnrollmentRedeemRequest.fields (request : EnrollmentRedeemRequest) :
    Except SigningError (List SignedField) := do
  let publicKey ← decodeBodyPublicKey request.bodyPublicKey
  let wgKey ← decodeWgPublicKey request.wgPublicKey
  let nonce ← decodeNonce request.bodyNonce
  DollNetwork.fields [.string request.coreID, .string request.requestID,
    .string request.invitationID, .string request.invitationSecret, .raw publicKey, .raw wgKey,
    .raw nonce]

def EnrollmentResultRequest.fields (request : EnrollmentResultRequest) :
    Except SigningError (List SignedField) := do
  let publicKey ← decodeBodyPublicKey request.bodyPublicKey
  let nonce ← decodeNonce request.bodyNonce
  DollNetwork.fields [.string request.coreID, .string request.requestID, .raw publicKey,
    .raw nonce]

def EnrollmentPendingResponse.fields (response : EnrollmentPendingResponse) :
    Except SigningError (List SignedField) := do
  let coreNonce ← decodeNonce response.coreNonce
  DollNetwork.fields [.string response.coreID, .string response.requestID,
    .string response.bodyKeyFingerprint, .raw coreNonce, .string response.approvalCode,
    .string response.expiresAt.text]

def EnrollmentReceipt.fields (receipt : EnrollmentReceipt) :
    Except SigningError (List SignedField) :=
  DollNetwork.fields [.string receipt.coreID, .string receipt.requestID, .string receipt.bodyID,
    .string receipt.bodyPublicKeyFingerprint, .string receipt.membershipReference,
    .string receipt.issuedAt.text]

/-! ## The frames of Body authentication -/

structure Challenge where
  version : Int
  type : Bytes
  coreID : Bytes
  bodyID : Bytes
  sessionID : Bytes
  bodyNonce : Bytes
  coreNonce : Bytes
  expiresAt : Time
  algorithm : Bytes
  signature : Bytes
  deriving DecidableEq

structure Proof where
  version : Int
  type : Bytes
  coreID : Bytes
  bodyID : Bytes
  sessionID : Bytes
  bodyNonce : Bytes
  coreNonce : Bytes
  algorithm : Bytes
  signature : Bytes
  deriving DecidableEq

structure Accept where
  version : Int
  type : Bytes
  coreID : Bytes
  bodyID : Bytes
  sessionID : Bytes
  status : Bytes
  signature : Bytes
  deriving DecidableEq

/-- The fourth and the fifth of six or seven values are nonces. -/
def authField (count index : Nat) (value : Bytes) : Except SigningError SignedField :=
  if (count = 7 ∧ (index = 3 ∨ index = 4)) ∨ (count = 6 ∧ (index = 3 ∨ index = 4)) then do
    let raw ← decodeNonce value
    rawField raw
  else stringField value

def authFieldsFrom (count : Nat) : Nat → List Bytes → Except SigningError (List SignedField)
  | _, [] => return []
  | index, value :: rest => do
    let field ← authField count index value
    let later ← authFieldsFrom count (index + 1) rest
    return field :: later

def authFields (values : List Bytes) : Except SigningError (List SignedField) :=
  authFieldsFrom values.length 0 values

def Challenge.fields (value : Challenge) : Except SigningError (List SignedField) :=
  authFields [value.coreID, value.bodyID, value.sessionID, value.bodyNonce, value.coreNonce,
    value.expiresAt.text, value.algorithm]

def Proof.fields (value : Proof) : Except SigningError (List SignedField) :=
  authFields [value.coreID, value.bodyID, value.sessionID, value.bodyNonce, value.coreNonce,
    value.algorithm]

def Accept.fields (value : Accept) : Except SigningError (List SignedField) :=
  authFields [value.coreID, value.bodyID, value.sessionID, value.status]

/-! ## Verification -/

/-- The kinds of signed messages. -/
inductive Kind where
  | begin
  | redeem
  | result
  | pending
  | receipt
  | challenge
  | proof
  | accept
  deriving DecidableEq

def Kind.text : Kind → Bytes
  | .begin => Bytes.ascii "enrollment.begin".toList
  | .redeem => Bytes.ascii "enrollment.redeem".toList
  | .result => Bytes.ascii "enrollment.result.request".toList
  | .pending => Bytes.ascii "enrollment.pending".toList
  | .receipt => Bytes.ascii "enrollment.receipt".toList
  | .challenge => Bytes.ascii "body.auth.challenge".toList
  | .proof => Bytes.ascii "body.auth.proof".toList
  | .accept => Bytes.ascii "body.auth.accept".toList

/-- `verify` of both packages; they differ in the last error only. -/
def verify (ed : Ed25519) (invalid : SigningError) (publicKey : Bytes) (kind : Kind)
    (encodedSignature : Bytes) (fields : List SignedField) : Except SigningError Unit := do
  let signature ← decodeSignature encodedSignature
  let message ← signedMessage kind.text fields
  if ed.verify publicKey message signature then return () else throw invalid

/-- The version check that the requests of a Body go through. -/
def checkVersion (version : Int) : Except SigningError Unit :=
  if version = enrollmentVersion then .ok () else .error .unsupportedVersion

def verifyEnrollmentBegin (ed : Ed25519) (request : EnrollmentBeginRequest) :
    Except SigningError Unit := do
  checkVersion request.version
  let publicKey ← decodeBodyPublicKey request.bodyPublicKey
  let fields ← request.fields
  verify ed .invalidProof publicKey .begin request.signature fields

def verifyEnrollmentRedeem (ed : Ed25519) (request : EnrollmentRedeemRequest) :
    Except SigningError Unit := do
  checkVersion request.version
  let publicKey ← decodeBodyPublicKey request.bodyPublicKey
  let fields ← request.fields
  verify ed .invalidProof publicKey .redeem request.signature fields

def verifyEnrollmentResult (ed : Ed25519) (request : EnrollmentResultRequest) :
    Except SigningError Unit := do
  checkVersion request.version
  let publicKey ← decodeBodyPublicKey request.bodyPublicKey
  let fields ← request.fields
  verify ed .invalidProof publicKey .result request.signature fields

def verifyEnrollmentPending (ed : Ed25519) (publicKey : Bytes)
    (response : EnrollmentPendingResponse) : Except SigningError Unit := do
  let fields ← response.fields
  verify ed .invalidProof publicKey .pending response.signature fields

def verifyEnrollmentReceipt (ed : Ed25519) (publicKey : Bytes) (receipt : EnrollmentReceipt) :
    Except SigningError Unit := do
  let fields ← receipt.fields
  verify ed .invalidProof publicKey .receipt receipt.signature fields

def verifyChallenge (ed : Ed25519) (key : Bytes) (value : Challenge) :
    Except SigningError Unit := do
  let fields ← value.fields
  verify ed .authentication key .challenge value.signature fields

def verifyProof (ed : Ed25519) (key : Bytes) (value : Proof) : Except SigningError Unit := do
  let fields ← value.fields
  verify ed .authentication key .proof value.signature fields

def verifyAccept (ed : Ed25519) (key : Bytes) (value : Accept) : Except SigningError Unit := do
  let fields ← value.fields
  verify ed .authentication key .accept value.signature fields

end NeonDoll.DollNetwork
