import NeonDoll.Lib.JsonRecord

/-!
# The portable state of a Doll

The types of `DollState/types.go` with their JSON form.  A slice that is nil is `none`.  The
parts that neither the card nor the store holds (skills, auth, secrets and extensions) are left
out.
-/

namespace NeonDoll

open Lib Json

namespace DollState

structure Identity where
  dollID : Text
  canonicalName : Text
  templateRef : Text
  deriving DecidableEq

structure Soul where
  revision : Int64
  content : Text
  deriving DecidableEq

structure Owner where
  ownerID : Text
  name : Text
  content : Text
  deriving DecidableEq

structure Self where
  displayName : Text
  pronouns : Text
  tagline : Text
  deriving DecidableEq

structure MemoryItem where
  id : Text
  interactionID : Text
  kind : Text
  content : Text
  sequence : Int64
  timestamp : Text
  deriving DecidableEq

structure Memories where
  items : Option (List MemoryItem)
  deriving DecidableEq

structure DriveItem where
  id : Text
  name : Text
  description : Text
  deriving DecidableEq

structure Drives where
  items : Option (List DriveItem)
  deriving DecidableEq

structure GoalItem where
  id : Text
  name : Text
  description : Text
  state : Text
  driveID : Text
  deriving DecidableEq

structure Goals where
  items : Option (List GoalItem)
  deriving DecidableEq

structure IntentionItem where
  id : Text
  subject : Text
  description : Text
  wakeTime : Text
  state : Text
  deriving DecidableEq

structure Intentions where
  items : Option (List IntentionItem)
  deriving DecidableEq

end DollState

structure DollState where
  version : Int64
  identity : DollState.Identity
  soul : DollState.Soul
  owner : DollState.Owner
  self : DollState.Self
  memories : DollState.Memories
  drives : DollState.Drives
  goals : DollState.Goals
  intentions : DollState.Intentions
  deriving DecidableEq

namespace DollState

def currentStateVersion : Int64 := 1

def newDollState : DollState where
  version := currentStateVersion
  identity := ⟨[], [], []⟩
  soul := ⟨0, []⟩
  owner := ⟨[], [], []⟩
  self := ⟨[], [], []⟩
  memories := ⟨none⟩
  drives := ⟨none⟩
  goals := ⟨none⟩
  intentions := ⟨none⟩

/-! ## JSON -/

def Identity.record : Record Identity where
  fields :=
    [ .text "doll_id".toList false dollID fun t x => { x with dollID := t },
      .text "canonical_name".toList false canonicalName fun t x => { x with canonicalName := t },
      .text "template_ref".toList true templateRef fun t x => { x with templateRef := t } ]
  zero := ⟨[], [], []⟩
  restored := id
  depth := 0
  distinct := by decide
  shallow := flat_text (flat_text (flat_text flat_nil))
  restores := fun _ => (copyAll_text rfl).trans ((copyAll_text rfl).trans (copyAll_text rfl))

def Soul.record : Record Soul where
  fields :=
    [ .int "revision".toList revision fun i x => { x with revision := i },
      .text "content".toList false content fun t x => { x with content := t } ]
  zero := ⟨0, []⟩
  restored := id
  depth := 0
  distinct := by decide
  shallow := flat_int (flat_text flat_nil)
  restores := fun _ => copyAll_int.trans (copyAll_text rfl)

def Owner.record : Record Owner where
  fields :=
    [ .text "owner_id".toList false ownerID fun t x => { x with ownerID := t },
      .text "name".toList false name fun t x => { x with name := t },
      .text "content".toList true content fun t x => { x with content := t } ]
  zero := ⟨[], [], []⟩
  restored := id
  depth := 0
  distinct := by decide
  shallow := flat_text (flat_text (flat_text flat_nil))
  restores := fun _ => (copyAll_text rfl).trans ((copyAll_text rfl).trans (copyAll_text rfl))

def Self.record : Record Self where
  fields :=
    [ .text "display_name".toList true displayName fun t x => { x with displayName := t },
      .text "pronouns".toList true pronouns fun t x => { x with pronouns := t },
      .text "tagline".toList true tagline fun t x => { x with tagline := t } ]
  zero := ⟨[], [], []⟩
  restored := id
  depth := 0
  distinct := by decide
  shallow := flat_text (flat_text (flat_text flat_nil))
  restores := fun _ => (copyAll_text rfl).trans ((copyAll_text rfl).trans (copyAll_text rfl))

def MemoryItem.record : Record MemoryItem where
  fields :=
    [ .text "id".toList false MemoryItem.id fun t x => { x with id := t },
      .text "interaction_id".toList true interactionID fun t x => { x with interactionID := t },
      .text "kind".toList false kind fun t x => { x with kind := t },
      .text "content".toList false content fun t x => { x with content := t },
      .int "sequence".toList sequence fun i x => { x with sequence := i },
      .text "timestamp".toList true timestamp fun t x => { x with timestamp := t } ]
  zero := ⟨[], [], [], [], 0, []⟩
  restored := fun x => x
  depth := 0
  distinct := by decide
  shallow := flat_text (flat_text (flat_text (flat_text (flat_int (flat_text flat_nil)))))
  restores := fun _ =>
    (copyAll_text rfl).trans ((copyAll_text rfl).trans ((copyAll_text rfl).trans
      ((copyAll_text rfl).trans (copyAll_int.trans (copyAll_text rfl)))))

def DriveItem.record : Record DriveItem where
  fields :=
    [ .text "id".toList false DriveItem.id fun t x => { x with id := t },
      .text "name".toList false name fun t x => { x with name := t },
      .text "description".toList true description fun t x => { x with description := t } ]
  zero := ⟨[], [], []⟩
  restored := fun x => x
  depth := 0
  distinct := by decide
  shallow := flat_text (flat_text (flat_text flat_nil))
  restores := fun _ => (copyAll_text rfl).trans ((copyAll_text rfl).trans (copyAll_text rfl))

def GoalItem.record : Record GoalItem where
  fields :=
    [ .text "id".toList false GoalItem.id fun t x => { x with id := t },
      .text "name".toList false name fun t x => { x with name := t },
      .text "description".toList true description fun t x => { x with description := t },
      .text "state".toList false state fun t x => { x with state := t },
      .text "drive_id".toList true driveID fun t x => { x with driveID := t } ]
  zero := ⟨[], [], [], [], []⟩
  restored := fun x => x
  depth := 0
  distinct := by decide
  shallow := flat_text (flat_text (flat_text (flat_text (flat_text flat_nil))))
  restores := fun _ =>
    (copyAll_text rfl).trans ((copyAll_text rfl).trans ((copyAll_text rfl).trans
      ((copyAll_text rfl).trans (copyAll_text rfl))))

def IntentionItem.record : Record IntentionItem where
  fields :=
    [ .text "id".toList false IntentionItem.id fun t x => { x with id := t },
      .text "subject".toList false subject fun t x => { x with subject := t },
      .text "description".toList true description fun t x => { x with description := t },
      .text "wake_time".toList false wakeTime fun t x => { x with wakeTime := t },
      .text "state".toList false state fun t x => { x with state := t } ]
  zero := ⟨[], [], [], [], []⟩
  restored := fun x => x
  depth := 0
  distinct := by decide
  shallow := flat_text (flat_text (flat_text (flat_text (flat_text flat_nil))))
  restores := fun _ =>
    (copyAll_text rfl).trans ((copyAll_text rfl).trans ((copyAll_text rfl).trans
      ((copyAll_text rfl).trans (copyAll_text rfl))))

def Drives.record : Record Drives :=
  Record.ofItems DriveItem.record Drives.items Drives.mk fun _ => rfl

def Goals.record : Record Goals :=
  Record.ofItems GoalItem.record Goals.items Goals.mk fun _ => rfl

def Intentions.record : Record Intentions :=
  Record.ofItems IntentionItem.record Intentions.items Intentions.mk fun _ => rfl

end DollState

end NeonDoll
