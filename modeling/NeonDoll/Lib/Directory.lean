import NeonDoll.Lib.Bytes
import NeonDoll.Lib.GoMap

/-!
# Directories

A directory maps names to contents.  Files are opened, written at an offset and renamed as the
system calls do it.
-/

namespace NeonDoll.Lib

open List Option AList Nat

abbrev Directory := GoMap Bytes Bytes

namespace Directory

/-- The bytes of a file; a missing file has none. -/
def contents (dir : Directory) (name : Bytes) : Bytes := (dir.lookup name).getD []

/-- A file with `data` written at `offset`.  A gap before the offset is filled with zeros; a
write of no bytes changes nothing. -/
def overwrite (file : Bytes) (offset : Nat) (data : Bytes) : Bytes :=
  if data = [] then file
  else file.take offset ++ List.replicate (offset - file.length) 0 ++ data ++
    file.drop (offset + data.length)

def store (dir : Directory) (name file : Bytes) : Directory := dir.insert name file

/-- The directory after a file is opened for writing, created if it is missing. -/
def create (dir : Directory) (name : Bytes) : Directory := dir.store name (dir.contents name)

/-- A file moves to another name and replaces what was there. -/
def rename? (dir : Directory) (old new : Bytes) : Option Directory :=
  (dir.lookup old).map fun file => (dir.erase old).insert new file

variable {dir dir' : Directory} {name other file data : Bytes} {offset : Nat}

@[simp]
theorem contents_store : (dir.store name file).contents name = file := by
  rw [contents, store, lookup_insert, getD_some]

theorem lookup_store_ne (differ : other ≠ name) :
    (dir.store name file).lookup other = dir.lookup other :=
  lookup_insert_ne differ

theorem contents_congr (same : dir'.lookup name = dir.lookup name) :
    dir'.contents name = dir.contents name := by
  rw [contents, contents, same]

theorem contents_of_lookup (found : dir.lookup name = some file) : dir.contents name = file := by
  rw [contents, found, getD_some]

theorem lookup_rename?_new (renamed : dir.rename? old new = some dir') :
    dir'.lookup new = some (dir.contents old) := by
  obtain ⟨file, found, rfl⟩ := map_eq_some_iff.mp renamed
  rw [lookup_insert, contents_of_lookup found]

theorem lookup_rename?_ne (renamed : dir.rename? old new = some dir')
    (fromOld : other ≠ old) (fromNew : other ≠ new) : dir'.lookup other = dir.lookup other := by
  obtain ⟨file, -, rfl⟩ := map_eq_some_iff.mp renamed
  rw [lookup_insert_ne fromNew, lookup_erase_ne fromOld]

/-! ## Writes inside a file -/

section

variable (inside : offset ≤ file.length)

include inside

theorem overwrite_inside :
    overwrite file offset data = file.take offset ++ data ++ file.drop (offset + data.length) := by
  rw [overwrite]
  split
  · rename_i empty
    rw [empty, append_nil, length_nil, add_zero, take_append_drop]
  · rw [Nat.sub_eq_zero_of_le inside, replicate_zero, append_nil]

theorem take_overwrite :
    (overwrite file offset data).take (offset + data.length) = file.take offset ++ data := by
  rw [overwrite_inside inside]
  apply take_left'
  rw [length_append, length_take, min_eq_left inside]

theorem take_offset_overwrite :
    (overwrite file offset data).take offset = file.take offset := by
  rw [overwrite_inside inside, append_assoc]
  apply take_left'
  rw [length_take, min_eq_left inside]

theorem length_overwrite_le
    (short : file.length ≤ bound) (fits : offset + data.length ≤ bound) :
    (overwrite file offset data).length ≤ bound := by
  rw [overwrite_inside inside, length_append, length_append, length_take, length_drop]
  omega

end

end Directory

end NeonDoll.Lib
