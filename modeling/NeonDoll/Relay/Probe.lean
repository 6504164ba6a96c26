import NeonDoll.Lib.Bytes
import NeonDoll.Lib.Text
import NeonDoll.Relay.Registry

/-!
# Reachability probes at the Relay

`Core/Relay/probe.go`: a probe is a datagram of 52 bytes with a magic, the route, a nonce and an
HMAC under the credential of the route.  The HMAC is a parameter whose key is the credential.
-/

namespace NeonDoll.Relay

open Lib List Bytes

def probeMagicReq : Bytes := Bytes.ascii "NLPR".toList

def probeMagicResp : Bytes := Bytes.ascii "NLPS".toList

def probeNonceSize : Nat := 8

def probeHMACSize : Nat := 32

/-- Magic, route, nonce and HMAC. -/
def probeDatagramSize : Nat := 4 + 8 + probeNonceSize + probeHMACSize

section Messages

variable (hmac : Token → Bytes → Bytes)

def probeHMAC (magic : Bytes) (routeID : RouteID) (nonce : Bytes) (token : Token) : Bytes :=
  hmac token (magic ++ Bytes.putLittle 8 routeID ++ nonce)

def probeRequest (routeID : RouteID) (nonce : Bytes) (token : Token) : Bytes :=
  let buf := List.replicate probeDatagramSize 0
  let buf := Bytes.copyTo buf 0 4 probeMagicReq
  let buf := Bytes.copyTo buf 4 12 (Bytes.putLittle 8 routeID)
  let buf := Bytes.copyTo buf 12 20 nonce
  Bytes.copyTo buf 20 52 (probeHMAC hmac probeMagicReq routeID nonce token)

def probeRoute (data : Bytes) : RouteID := Bytes.little ((data.drop 4).take 8)

def probeNonce (data : Bytes) : Bytes := (data.drop 12).take 8

/-- The response to a datagram of the right size, if there is one. -/
def handleProbe (registry : Registry) (data : Bytes) : Option Bytes :=
  if data.take 4 ≠ probeMagicReq then none
  else
    let routeID := probeRoute data
    let nonce := probeNonce data
    match registry.route routeID with
    | none => none
    | some entry =>
      let expectedMAC := hmac entry.credentials
        (probeMagicReq ++ Bytes.putLittle 8 routeID ++ nonce)
      if (data.drop 20).take 32 ≠ expectedMAC then none
      else
        let respMAC := hmac entry.credentials
          (probeMagicResp ++ Bytes.putLittle 8 routeID ++ nonce)
        let resp := List.replicate probeDatagramSize 0
        let resp := Bytes.copyTo resp 0 4 probeMagicResp
        let resp := Bytes.copyTo resp 4 12 (Bytes.putLittle 8 routeID)
        let resp := Bytes.copyTo resp 12 20 nonce
        some (Bytes.copyTo resp 20 52 respMAC)

def verifyProbeResponse (data : Bytes) (routeID : RouteID) (nonce : Bytes) (token : Token) :
    Except Text Unit :=
  if data.length < probeDatagramSize then
    .error ("probe response too short: ".toList ++ Nat.toDigits 10 data.length ++ " < ".toList ++
      Nat.toDigits 10 probeDatagramSize)
  else if data.take 4 ≠ probeMagicResp then .error "probe response: bad magic".toList
  else if probeRoute data ≠ routeID then .error "probe response: route ID mismatch".toList
  else if probeNonce data ≠ nonce then .error "probe response: nonce mismatch".toList
  else if (data.drop 20).take 32 ≠ probeHMAC hmac probeMagicResp routeID nonce token then
    .error "probe response: HMAC mismatch".toList
  else .ok ()

end Messages

/-! ## Layout -/

def probeDatagram (magic : Bytes) (routeID : RouteID) (nonce mac : Bytes) : Bytes :=
  magic ++ Bytes.putLittle 8 routeID ++ nonce ++ mac

section Layout

variable {magic nonce mac : Bytes} {routeID : RouteID}

theorem probe_buffer (magic : Bytes) (routeID : RouteID) (four : magic.length = 4)
    (eight : nonce.length = probeNonceSize) (size : mac.length = probeHMACSize) :
    Bytes.copyTo (Bytes.copyTo (Bytes.copyTo (Bytes.copyTo (List.replicate probeDatagramSize 0)
      0 4 magic) 4 12 (Bytes.putLittle 8 routeID)) 12 20 nonce) 20 52 mac =
      probeDatagram magic routeID nonce mac := by
  rw [probeNonceSize] at eight
  rw [probeHMACSize] at size
  have route := length_putLittle 8 routeID
  have first : copyTo (List.replicate probeDatagramSize 0) 0 4 magic =
      magic ++ List.replicate 48 0 := by
    have copied : copyTo ([] ++ List.replicate probeDatagramSize 0) 0 4 magic =
        [] ++ magic ++ List.replicate 48 0 :=
      copyTo_next rfl (by omega) (by rw [four]; rfl)
    exact copied
  have second : (magic ++ putLittle 8 routeID).length = 12 := by
    rw [length_append, four, route]
  have third : (magic ++ putLittle 8 routeID ++ nonce).length = 20 := by
    rw [length_append, second, eight]
  have room : (48 : Nat) = (putLittle 8 routeID).length + 40 := by rw [route]
  have room' : (40 : Nat) = nonce.length + 32 := by rw [eight]
  have room'' : (32 : Nat) = mac.length + 0 := by rw [size]
  rw [first, copyTo_next four (by rw [route]) room, copyTo_next second (by rw [eight]) room',
    copyTo_next third (by rw [size]) room'', replicate_zero, append_nil, probeDatagram]

section

variable (four : magic.length = 4)

include four

theorem length_probeDatagram (eight : nonce.length = probeNonceSize)
    (size : mac.length = probeHMACSize) :
    (probeDatagram magic routeID nonce mac).length = probeDatagramSize := by
  rw [probeDatagram, length_append, length_append, length_append, four,
    length_putLittle, eight, size, probeDatagramSize]

theorem take_probeDatagram : (probeDatagram magic routeID nonce mac).take 4 = magic := by
  rw [probeDatagram, append_assoc, append_assoc]
  exact take_left' four

theorem probeRoute_probeDatagram (wide : routeID < 2 ^ 64) :
    probeRoute (probeDatagram magic routeID nonce mac) = routeID := by
  rw [probeRoute, probeDatagram, append_assoc, append_assoc, drop_left' four,
    take_left' (length_putLittle 8 routeID), little_putLittle wide]

theorem probeNonce_probeDatagram (eight : nonce.length = probeNonceSize) :
    probeNonce (probeDatagram magic routeID nonce mac) = nonce := by
  have before : (magic ++ putLittle 8 routeID).length = 12 := by
    rw [length_append, four, length_putLittle]
  rw [probeNonce, probeDatagram, append_assoc, drop_left' before]
  exact take_left' eight

theorem mac_probeDatagram (eight : nonce.length = probeNonceSize)
    (size : mac.length = probeHMACSize) :
    ((probeDatagram magic routeID nonce mac).drop 20).take 32 = mac := by
  have before : (magic ++ putLittle 8 routeID ++ nonce).length = 20 := by
    rw [length_append, length_append, four, length_putLittle, eight, probeNonceSize]
  rw [probeDatagram, drop_left' before]
  exact take_of_length_le (Nat.le_of_eq size)

end

end Layout

/-! ## Requests and answers -/

section Agreement

variable {hmac : Token → Bytes → Bytes} {routeID : RouteID} {nonce data answer : Bytes}

section

variable (size : ∀ token message, (hmac token message).length = probeHMACSize)

include size

theorem probeRequest_eq
    (eight : nonce.length = probeNonceSize) : probeRequest hmac routeID nonce token =
      probeDatagram probeMagicReq routeID nonce
        (probeHMAC hmac probeMagicReq routeID nonce token) :=
  probe_buffer probeMagicReq routeID rfl eight (size _ _)

/-- What a probe must be to be answered, and the answer. -/
theorem handleProbe_eq_some_iff
    (whole : data.length = probeDatagramSize) : handleProbe hmac registry data = some answer ↔
      ∃ entry, data.take 4 = probeMagicReq ∧ registry.route (probeRoute data) = some entry ∧
        (data.drop 20).take 32 =
          probeHMAC hmac probeMagicReq (probeRoute data) (probeNonce data) entry.credentials ∧
        answer = probeDatagram probeMagicResp (probeRoute data) (probeNonce data)
          (probeHMAC hmac probeMagicResp (probeRoute data) (probeNonce data)
            entry.credentials) := by
  have eight : (probeNonce data).length = probeNonceSize := by
    rw [probeNonce, length_take, length_drop, whole]
    rfl
  have filled (entry : RouteEntry) := probe_buffer probeMagicResp (probeRoute data) rfl eight
    (size entry.credentials
      (probeMagicResp ++ putLittle 8 (probeRoute data) ++ probeNonce data))
  unfold handleProbe
  constructor
  · intro answered
    split at answered
    · cases answered
    rename_i magic
    dsimp only at answered
    split at answered
    · cases answered
    rename_i entry found
    split at answered
    · cases answered
    rename_i mac
    rw [filled] at answered
    exact ⟨entry, of_not_not magic, found, of_not_not mac, (Option.some.inj answered).symm⟩
  · grind [probeHMAC]

end

end Agreement

end NeonDoll.Relay
