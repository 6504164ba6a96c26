import NeonDoll.Lib.Bytes

/-!
# Creating the identity of a Body

`CreateFresh` of `store.go` with a failure or a crash at any step.  Of the store it touches
`body.json` and `wg_private.key`; the key is written to a temporary file and renamed.
-/

namespace NeonDoll.Body.Store

open Lib

structure Files where
  body : Option Bytes
  key : Option Bytes

/-- What a call writes: the text of the identity and that of its key. -/
structure Fresh where
  data : Bytes
  key : Bytes
  nonempty : data ≠ []

/-- The last write of a call. -/
inductive Progress where
  | unclaimed
  /-- The exclusive create of `body.json`. -/
  | claimed
  | keyed
  | written (count : Nat)
  deriving DecidableEq

inductive Ending where
  /-- The process ends, or the call returns without an error. -/
  | stop
  /-- The next step fails; the flags tell what the deferred function removes. -/
  | failure (bodyRemoved keyRemoved : Bool)

def Progress.files (before : Files) (new : Fresh) : Progress → Files
  | .unclaimed => before
  | .claimed => { before with body := some [] }
  | .keyed => ⟨some [], some new.key⟩
  | .written count => ⟨some (new.data.take count), some new.key⟩

def Ending.files (reached : Files) : Ending → Files
  | .stop => reached
  | .failure bodyRemoved keyRemoved =>
    ⟨if bodyRemoved then none else reached.body, if keyRemoved then none else reached.key⟩

@[grind] def createFresh (before : Files) (new : Fresh) (progress : Progress) (ending : Ending) :
    Files :=
  -- `ErrIdentityExists`, or the deferred function is not registered yet
  if before.body ≠ none ∨ progress = .unclaimed then before
  else ending.files (progress.files before new)

def Complete (new : Fresh) (files : Files) : Prop := files = ⟨some new.data, some new.key⟩

/-- The identity is complete or the store is as before, and unless there is an identity a later
call that nothing interrupts creates one. -/
def Recovers (before : Files) (new : Fresh) (progress : Progress) (ending : Ending) : Prop :=
  let after := createFresh before new progress ending
  (Complete new after ∨ after = before) ∧
    (Complete new after ∨ before.body ≠ none ∨
      ∀ later : Fresh, Complete later (createFresh after later (.written later.data.length) .stop))

theorem unblocked_iff : (∀ later : Fresh,
    Complete later (createFresh files later (.written later.data.length) .stop)) ↔
      files.body = none := by
  constructor
  · intro unblocked
    cases present : files.body with
    | none => rfl
    | some data =>
      have created := unblocked ⟨0 :: data, [], List.cons_ne_nil _ _⟩
      grind [Complete]
  · intro absent later
    grind [Complete, Progress.files, Ending.files]

/-- The store recovers exactly if there was an identity before, nothing was claimed, everything is
written and kept, or `body.json` is removed and so is the key if there was none before, or the key
is left and it was not written or had been the same. -/
theorem createFresh_recovers_iff (before : Files) (new : Fresh) (progress : Progress)
    (ending : Ending) : Recovers before new progress ending ↔
      before.body ≠ none ∨ progress = .unclaimed ∨
      (∃ count, progress = .written count ∧ new.data.length ≤ count ∧
        (ending = .stop ∨ ending = .failure false false)) ∨
      ∃ keyRemoved, ending = .failure true keyRemoved ∧
        if keyRemoved then before.key = none
        else progress = .claimed ∨ before.key = some new.key := by
  rw [Recovers, unblocked_iff]
  obtain ⟨body, key⟩ := before
  have nonempty := new.nonempty
  have whole : ∀ count, new.data.take count = new.data ↔ new.data.length ≤ count :=
    fun count => ⟨fun same => by grind, List.take_of_length_le⟩
  cases body with
  | some data => grind
  | none =>
    cases progress <;> rcases ending with _ | ⟨_ | _, _ | _⟩ <;>
      grind [Complete, Progress.files, Ending.files]

/-- A crash right after the exclusive create leaves an empty `body.json`. -/
theorem crash_blocks_create : ¬Recovers ⟨none, none⟩ ⟨[123], [65], nofun⟩ .claimed .stop := by
  rintro ⟨complete | same, _⟩
  · cases complete
  · cases same

end NeonDoll.Body.Store
