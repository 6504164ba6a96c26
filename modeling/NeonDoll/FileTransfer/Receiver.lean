import NeonDoll.FileTransfer.Ndf1
import NeonDoll.Lib.Directory
import NeonDoll.Lib.Numeral
import NeonDoll.Lib.Transition

/-!
# Reception of files

`DollLink/FileTransfer/receiver.go`.  The storage directory is a map from names to contents, a
hasher is the list of the bytes written to it, and SHA-256 is a parameter.  The outcome of every
system call is given to the operation from outside: a call may fail, and a failing write may
leave a part of its bytes in the file.  The names `.` and `..` are taken for entries of the
directory, too; that their paths lead out of it is seen in `Resume.lean`.  At the end stands the
system of all receive states of a process over one storage directory.
-/

namespace NeonDoll.FileTransfer

open Lib

/-! ## Offers and names -/

abbrev FileID := Bytes

/-- What a reception is opened for: the arguments of `NewReceiveState` and `OpenRetained`. -/
structure Offer where
  fileID : FileID
  transferID : TransferID
  size : Int
  sha256 : Text
  deriving DecidableEq

inductive Sha256Error where
  | length (bytes : Nat)
  | nonHex
  deriving DecidableEq

inductive ReceiveError where
  | fileIDRequired
  | zeroTransferID
  | invalidSize (size : Int)
  | invalidSha256 (cause : Sha256Error)
  | createStorageDir
  | statPartial
  | openRetained
  | readRetained
  | alreadyCompleted
  | expectedOffset (expected got : Nat)
  | exceedsSize (size offset length : Nat)
  | openTemp
  | seek
  | write
  | copyFrame
  | retainedMismatch (retained expected : Nat)
  | sha256Mismatch (got want : Text)
  | promote
  deriving DecidableEq

/-- The length is the one in UTF-8. -/
def validateSHA256 (s : Text) : Except Sha256Error Unit :=
  if (s.map Char.utf8Size).sum ≠ 64 then .error (.length (s.map Char.utf8Size).sum)
  else if s.all fun c => Text.digitValue c.toLower < 16 then .ok ()
  else .error .nonHex

/-- Letters, digits, `-`, `_` and `.`. -/
def safeByte (c : UInt8) : Bool :=
  (97 ≤ c ∧ c ≤ 122) ∨ (65 ≤ c ∧ c ≤ 90) ∨ (48 ≤ c ∧ c ≤ 57) ∨ c = 45 ∨ c = 95 ∨ c = 46

def sanitizeName (name : Bytes) : Bytes := name.map fun c => if safeByte c then c else 95

def partialName (fileID : FileID) : Bytes := sanitizeName fileID ++ Bytes.ascii ".partial".toList

/-! ## Receive states -/

structure ReceiveState where
  fileID : FileID
  transferID : TransferID
  size : Nat
  sha256 : Text
  retained : Nat
  completed : Bool
  filePath : Bytes
  tmpPath : Bytes
  /-- The bytes written to the hasher. -/
  hashed : Bytes
  deriving DecidableEq

/-- `mkdir` tells whether the storage directory could be made. -/
def newReceiveState (offer : Offer) (mkdir : Bool) : Except ReceiveError ReceiveState :=
  if offer.fileID = [] then .error .fileIDRequired
  else if offer.transferID.isZero then .error .zeroTransferID
  else if offer.size ≤ 0 then .error (.invalidSize offer.size)
  else match validateSHA256 offer.sha256 with
    | .error cause => .error (.invalidSha256 cause)
    | .ok () =>
      if mkdir then
        .ok {
          fileID := offer.fileID
          transferID := offer.transferID
          size := offer.size.toNat
          sha256 := offer.sha256
          retained := 0
          completed := false
          filePath := sanitizeName offer.fileID
          tmpPath := partialName offer.fileID
          hashed := [] }
      else .error .createStorageDir

/-- Which system calls of `OpenRetained` succeed. -/
structure OpenOutcome where
  mkdir : Bool
  stat : Bool
  remove : Bool
  openFile : Bool
  read : Bool
  deriving DecidableEq

/-- A failed removal is ignored. -/
def openRetained (dir : Directory) (offer : Offer) (outcome : OpenOutcome) :
    Directory × Except ReceiveError ReceiveState :=
  match newReceiveState offer outcome.mkdir with
  | .error e => (dir, .error e)
  | .ok rs =>
    if outcome.stat then
      match dir.lookup rs.tmpPath with
      | none => (dir, .ok rs)
      | some file =>
        if rs.size < file.length then
          (if outcome.remove then dir.erase rs.tmpPath else dir, .ok rs)
        else if file.length = 0 then (dir, .ok rs)
        else if !outcome.openFile then (dir, .error .openRetained)
        else if outcome.read then (dir, .ok { rs with retained := file.length, hashed := file })
        else (dir, .error .readRetained)
    else (dir, .error .statPartial)

/-! ## Frames -/

/-- How far `OpenFile`, `Seek` and `Write` come. -/
inductive WriteOutcome where
  | openFailed
  | seekFailed
  | writeFailed (written : Nat)
  | written
  deriving DecidableEq

/-- An operation leaves the directory and the receive state, and returns an error or nil. -/
abbrev Outcome := Directory × ReceiveState × Except ReceiveError Unit

def ReceiveState.writeAt (dir : Directory) (rs : ReceiveState) (offset : Nat) (payload : Bytes)
    (outcome : WriteOutcome) : Outcome :=
  if offset ≠ rs.retained then (dir, rs, .error (.expectedOffset rs.retained offset))
  else if rs.size < rs.retained + payload.length then
    (dir, rs, .error (.exceedsSize rs.size offset payload.length))
  else match outcome with
    | .openFailed => (dir, rs, .error .openTemp)
    | .seekFailed => (dir.create rs.tmpPath, rs, .error .seek)
    | .writeFailed n =>
      (dir.store rs.tmpPath
        (Directory.overwrite (dir.contents rs.tmpPath) offset (payload.take n)),
        rs, .error .write)
    | .written =>
      (dir.store rs.tmpPath (Directory.overwrite (dir.contents rs.tmpPath) offset payload),
        { rs with retained := rs.retained + payload.length, hashed := rs.hashed ++ payload },
        .ok ())

def ReceiveState.writeFrame (dir : Directory) (rs : ReceiveState) (frame : NDF1Frame)
    (outcome : WriteOutcome) : Outcome :=
  if rs.completed then (dir, rs, .error .alreadyCompleted)
  else rs.writeAt dir frame.header.offset frame.payload outcome

/-- The bytes of one read, and how many of them the file accepts: a write of fewer bytes than
were read is an error. -/
structure Piece where
  data : Bytes
  accepted : Nat
  deriving DecidableEq

/-- File, hasher and number of bytes that reached both. -/
structure Copied where
  file : Bytes
  hashed : Bytes
  written : Nat
  deriving DecidableEq

/-- `io.CopyN` of `length` bytes into the file at `offset` and the hasher.  The hasher gets a
piece after the file has taken all of it.  The pieces end where the reader ends or fails. -/
def copyN (offset length : Nat) : List Piece → Copied → Copied
  | [], c => c
  | piece :: rest, c =>
    let data := piece.data.take (length - c.written)
    if piece.accepted < data.length then
      { c with file :=
          Directory.overwrite c.file (offset + c.written) (data.take piece.accepted) }
    else
      copyN offset length rest
        ⟨Directory.overwrite c.file (offset + c.written) data, c.hashed ++ data,
          c.written + data.length⟩

/-- How far `OpenFile`, `Seek` and `CopyN` come. -/
inductive CopyOutcome where
  | openFailed
  | seekFailed
  | copied (pieces : List Piece)
  deriving DecidableEq

/-- The copy that a receive state makes of the pieces of a frame. -/
def ReceiveState.copy (dir : Directory) (rs : ReceiveState) (length : Nat) (pieces : List Piece) :
    Copied :=
  copyN rs.retained length pieces ⟨dir.contents rs.tmpPath, rs.hashed, 0⟩

/-- `Retained` counts a frame only when all of it was copied. -/
def ReceiveState.writeFrameFromReader (dir : Directory) (rs : ReceiveState) (frame : NDF1Frame)
    (outcome : CopyOutcome) : Outcome :=
  if rs.completed then (dir, rs, .error .alreadyCompleted)
  else if frame.header.offset ≠ rs.retained then
    (dir, rs, .error (.expectedOffset rs.retained frame.header.offset))
  else if rs.size < rs.retained + frame.header.length then
    (dir, rs, .error (.exceedsSize rs.size frame.header.offset frame.header.length))
  else match outcome with
    | .openFailed => (dir, rs, .error .openTemp)
    | .seekFailed => (dir.create rs.tmpPath, rs, .error .seek)
    | .copied pieces =>
      let copied := rs.copy dir frame.header.length pieces
      if copied.written = frame.header.length then
        (dir.store rs.tmpPath copied.file,
          { rs with retained := rs.retained + copied.written, hashed := copied.hashed }, .ok ())
      else (dir.store rs.tmpPath copied.file, { rs with hashed := copied.hashed },
        .error .copyFrame)

section Completion

variable (sha256 : Bytes → Bytes)

/-- The lowercase hexadecimal SHA-256. -/
def sha256Hex (data : Bytes) : Text := Text.hex ((sha256 data).map UInt8.toNat)

/-- `renamed` tells whether the rename may succeed. -/
def ReceiveState.complete (dir : Directory) (rs : ReceiveState) (renamed : Bool) : Outcome :=
  if rs.completed then (dir, rs, .error .alreadyCompleted)
  else if rs.retained ≠ rs.size then
    (dir, rs, .error (.retainedMismatch rs.retained rs.size))
  else if sha256Hex sha256 rs.hashed ≠ rs.sha256 then
    (dir, rs, .error (.sha256Mismatch (sha256Hex sha256 rs.hashed) rs.sha256))
  else match if renamed then dir.rename? rs.tmpPath rs.filePath else none with
    | none => (dir, rs, .error .promote)
    | some moved => (moved, { rs with completed := true }, .ok ())

end Completion

/-! ## The receive states of a process -/

/-- The storage directory and the receive states in use, under numbers in the order of opening. -/
structure Receiver where
  storage : Directory
  receives : GoMap Nat ReceiveState
  opened : Nat

inductive ReceiverAction where
  | newReceiveState (offer : Offer) (mkdir : Bool)
  | openRetained (offer : Offer) (outcome : OpenOutcome)
  | writeFrame (receive : Nat) (frame : NDF1Frame) (outcome : WriteOutcome)
  | writeFrameFromReader (receive : Nat) (frame : NDF1Frame) (outcome : CopyOutcome)
  | complete (receive : Nat) (renamed : Bool)
  /-- The process gives a receive state up, as after a lost connection. -/
  | abandon (receive : Nat)
  deriving DecidableEq

inductive ReceiverEvent where
  | opened (receive : Nat) (offer : Offer)
  | notOpened (error : ReceiveError)
  | wrote (receive : Nat)
  | completed (receive : Nat)
  | failed (receive : Nat) (error : ReceiveError)
  | abandoned (receive : Nat)
  deriving DecidableEq

namespace Receiver

/-- The result of an opening is put in use. -/
def open_ (s : Receiver) (offer : Offer) :
    Directory × Except ReceiveError ReceiveState → Receiver × List ReceiverEvent
  | (dir, .error e) => ({ s with storage := dir }, [.notOpened e])
  | (dir, .ok rs) =>
    (⟨dir, s.receives.insert s.opened rs, s.opened + 1⟩, [.opened s.opened offer])

/-- An operation on a receive state in use; `done` is the event of its success. -/
def apply (s : Receiver) (receive : Nat) (done : ReceiverEvent)
    (operation : ReceiveState → Outcome) : Option (Receiver × List ReceiverEvent) :=
  match s.receives.lookup receive with
  | none => none
  | some rs =>
    let (dir, rs, result) := operation rs
    let event := match result with
      | .ok () => done
      | .error e => .failed receive e
    some ({ s with storage := dir, receives := s.receives.insert receive rs }, [event])

variable (sha256 : Bytes → Bytes)

def step? (s : Receiver) : ReceiverAction → Option (Receiver × List ReceiverEvent)
  | .newReceiveState offer mkdir => some (s.open_ offer (s.storage, newReceiveState offer mkdir))
  | .openRetained offer outcome => some (s.open_ offer (openRetained s.storage offer outcome))
  | .writeFrame receive frame outcome =>
    s.apply receive (.wrote receive) fun rs => rs.writeFrame s.storage frame outcome
  | .writeFrameFromReader receive frame outcome =>
    s.apply receive (.wrote receive) fun rs => rs.writeFrameFromReader s.storage frame outcome
  | .complete receive renamed =>
    s.apply receive (.completed receive) fun rs => rs.complete sha256 s.storage renamed
  | .abandon receive => some ({ s with receives := s.receives.erase receive }, [.abandoned receive])

/-- The system over a storage directory with any content. -/
def system (storage : Directory) :
    Transition.System Receiver ReceiverAction ReceiverEvent where
  init := ⟨storage, ∅, 0⟩
  step? := step? sha256

end Receiver

end NeonDoll.FileTransfer
