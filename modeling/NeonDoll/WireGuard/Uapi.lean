import NeonDoll.Lib.Netip

/-!
# The set operation of the WireGuard UAPI

The reading of a configuration text by the device.  The text consists of lines `key=value`; a
`public_key` line starts a peer, and the empty line ends the operation, so that nothing after
it is read.  The first line that cannot be read stops the operation with an error, and what was
set before stays.  How the device reads the values of endpoints and keepalive intervals is a
parameter.
-/

namespace NeonDoll.WireGuard

open Lib Text Netip List Option

structure Key where
  bytes : List Nat
  length_eq : bytes.length = 32
  bounded : ∀ byte ∈ bytes, byte < 256

instance : DecidableEq Key := fun a b =>
  decidable_of_iff (a.bytes = b.bytes) (by cases a; cases b; simp)

def Key.hex (key : Key) : Text := Text.hex key.bytes

def readKey (t : Text) : Option Key :=
  match readHex t with
  | none => none
  | some bytes =>
    if h : bytes.length = 32 ∧ ∀ byte ∈ bytes, byte < 256 then some ⟨bytes, h.1, h.2⟩ else none

/-- How the device reads an endpoint, which is one line, and a keepalive interval, which is a
number; every number of 16 bits is read. -/
structure Readers where
  endpoint : Text → Option Text
  keepalive : Text → Option Nat
  oneLine : ∀ t, '\n' ∈ t → endpoint t = none
  numeral : ∀ n k, keepalive (Nat.toDigits 10 n) = some k → k = n
  short : ∀ n < 65536, keepalive (Nat.toDigits 10 n) ≠ none

/-- A peer on the device; the keepalive interval is in seconds, zero for none. -/
structure DevicePeer where
  publicKey : Key
  allowedIPs : List Cidr
  endpoint : Option Text
  keepalive : Nat
  deriving DecidableEq

structure Device where
  privateKey : Option Key
  listenPort : Option Nat
  peers : List DevicePeer
  deriving DecidableEq

/-- A set operation in progress: the peers before the current one are on the device. -/
structure Setting where
  device : Device
  current : Option DevicePeer
  deriving DecidableEq

/-- The device when the operation ends here. -/
def Setting.finish (s : Setting) : Device :=
  { s.device with peers := s.device.peers ++ s.current.toList }

def Setting.at_ (s : Setting) (peer : DevicePeer) : Setting := { s with current := some peer }

/-- A line that belongs to the current peer. -/
def Setting.modify (s : Setting) (f : DevicePeer → Option DevicePeer) : Option Setting :=
  match s.current with
  | none => none
  | some peer => (f peer).map s.at_

section

variable (read : Readers)

def applyKey (s : Setting) (key value : Text) : Option Setting :=
  if key = "private_key".toList then
    match s.current with
    | some _ => none
    | none =>
      (readKey value).map fun k => { s with device := { s.device with privateKey := some k } }
  else if key = "listen_port".toList then
    match s.current with
    | some _ => none
    | none =>
      (toNat? 10 value).map fun n => { s with device := { s.device with listenPort := some n } }
  else if key = "public_key".toList then
    (readKey value).map fun k => ⟨s.finish, some ⟨k, [], none, 0⟩⟩
  else if key = "allowed_ip".toList then
    s.modify fun peer =>
      (readCidr value).map fun ip => { peer with allowedIPs := peer.allowedIPs ++ [ip] }
  else if key = "endpoint".toList then
    s.modify fun peer => (read.endpoint value).map fun e => { peer with endpoint := some e }
  else if key = "persistent_keepalive_interval".toList then
    s.modify fun peer => (read.keepalive value).map fun n => { peer with keepalive := n }
  else none

/-- The lines in turn, with whether all that were read could be applied. -/
def applyLines : Setting → List Text → Setting × Bool
  | s, [] => (s, true)
  | s, [] :: _ => (s, true)
  | s, line :: rest =>
    match cut '=' line with
    | none => (s, false)
    | some (key, value) =>
      match applyKey read s key value with
      | none => (s, false)
      | some next => applyLines next rest

def applyText (s : Setting) (text : Text) : Setting × Bool :=
  applyLines read s (text.splitOn '\n')

def Device.ipcSet (device : Device) (text : Text) : Device × Bool :=
  let (s, ok) := applyText read ⟨device, none⟩ text
  (s.finish, ok)

end

/-! ## Lines of a text -/

variable {read : Readers} {s : Setting} {peer : DevicePeer} {key value rest : Text}

theorem applyKey_privateKey (fresh : s.current = none) :
    applyKey read s "private_key".toList value =
      (readKey value).map fun k =>
        { s with device := { s.device with privateKey := some k } } := by
  rw [applyKey, if_pos rfl, fresh]

theorem applyKey_listenPort (fresh : s.current = none) :
    applyKey read s "listen_port".toList value =
      (toNat? 10 value).map fun n =>
        { s with device := { s.device with listenPort := some n } } := by
  rw [applyKey, if_neg (by decide), if_pos rfl, fresh]

theorem applyKey_publicKey : applyKey read s "public_key".toList value =
    (readKey value).map fun k => ⟨s.finish, some ⟨k, [], none, 0⟩⟩ := by
  rw [applyKey, if_neg (by decide), if_neg (by decide), if_pos rfl]

section

variable (current : s.current = some peer)

include current

theorem applyKey_allowedIP :
    applyKey read s "allowed_ip".toList value =
      ((readCidr value).map fun ip =>
        { peer with allowedIPs := peer.allowedIPs ++ [ip] }).map s.at_ := by
  rw [applyKey, if_neg (by decide), if_neg (by decide), if_neg (by decide), if_pos rfl,
    Setting.modify, current]

theorem applyKey_endpoint :
    applyKey read s "endpoint".toList value =
      ((read.endpoint value).map fun e => { peer with endpoint := some e }).map s.at_ := by
  rw [applyKey, if_neg (by decide), if_neg (by decide), if_neg (by decide), if_neg (by decide),
    if_pos rfl, Setting.modify, current]

theorem applyKey_keepalive :
    applyKey read s "persistent_keepalive_interval".toList value =
      ((read.keepalive value).map fun n => { peer with keepalive := n }).map s.at_ := by
  rw [applyKey, if_neg (by decide), if_neg (by decide), if_neg (by decide), if_neg (by decide),
    if_neg (by decide), if_pos rfl, Setting.modify, current]

end

theorem readKey_hex (key : Key) : readKey key.hex = some key := by
  obtain ⟨_, length_eq, bounded⟩ := key
  rw [readKey, Key.hex, readHex_hex bounded]
  exact dif_pos ⟨length_eq, bounded⟩

theorem Key.not_mem_hex (key : Key) (nondigit : digitValue c = 16) : c ∉ key.hex := by
  intro member
  have digit := digitValue_of_mem_hex key.bounded member
  omega

def line (key value : Text) : Text := key ++ '=' :: value ++ ['\n']

theorem applyText_line (keyCut : '=' ∉ key) (keyLine : '\n' ∉ key) (valueLine : '\n' ∉ value) :
    applyText read s (line key value ++ rest) =
      match applyKey read s key value with
      | none => (s, false)
      | some next => applyText read next rest := by
  have joined : line key value ++ rest = (key ++ '=' :: value) ++ '\n' :: rest := by
    rw [line, append_assoc, singleton_append]
  have unbroken : '\n' ∉ key ++ '=' :: value := by grind
  rw [applyText, joined, splitOn_append_cons_self_of_not_mem unbroken]
  have nonempty : key ++ '=' :: value ≠ [] := by simp
  rw [applyLines, cut_append keyCut]
  · rfl
  · exact nonempty

end NeonDoll.WireGuard
