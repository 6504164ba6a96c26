import NeonDoll.Lib.Numeral

/-!
# Lines of a text

The scanner of lines: it drops the carriage return at the end of a line, and it stops at a line
that does not fit into its buffer together with its end.
-/

namespace NeonDoll.Lib.Text

open List

def byteLength (t : Text) : Nat := (t.map Char.utf8Size).sum

def maxScanTokenSize : Nat := 65536

def dropCR (line : Text) : Text :=
  if line.getLast? = some '\r' then line.dropLast else line

/-- The lines read, and whether the scanner came to the end.  Nothing after the last newline is
no line. -/
def scanParts : List Text → List Text × Bool
  | [] => ([], true)
  | [last] =>
    if last = [] then ([], true)
    else if byteLength last < maxScanTokenSize then ([dropCR last], true)
    else ([], false)
  | line :: next :: rest =>
    if byteLength line < maxScanTokenSize then
      let (lines, ended) := scanParts (next :: rest)
      (dropCR line :: lines, ended)
    else ([], false)

def scanLines (t : Text) : List Text × Bool := scanParts (t.splitOn '\n')

/-- The text that has each of the lines with its end. -/
def joinLines (lines : List Text) : Text := lines.flatMap fun line => line ++ ['\n']

theorem splitOn_joinLines (oneLine : ∀ line ∈ lines, '\n' ∉ line) :
    (joinLines lines).splitOn '\n' = lines ++ [[]] := by
  induction lines with
  | nil => rfl
  | cons line rest ih =>
    rw [joinLines, flatMap_cons, append_assoc, singleton_append,
      splitOn_append_cons_self_of_not_mem (oneLine line mem_cons_self)]
    exact congrArg (line :: ·) (ih fun l member => oneLine l (mem_cons_of_mem line member))

/-- Short lines without control characters at their ends are read as they were written. -/
theorem scanLines_joinLines (oneLine : ∀ line ∈ lines, '\n' ∉ line)
    (plain : ∀ line ∈ lines, dropCR line = line)
    (short : ∀ line ∈ lines, byteLength line < maxScanTokenSize) :
    scanLines (joinLines lines) = (lines, true) := by
  rw [scanLines, splitOn_joinLines oneLine]
  clear oneLine
  induction lines with
  | nil => rfl
  | cons line rest ih =>
    have others := ih (fun l member => plain l (mem_cons_of_mem line member))
      (fun l member => short l (mem_cons_of_mem line member))
    have here : ∀ parts, parts ≠ [] → scanParts (line :: parts) =
        (line :: (scanParts parts).1, (scanParts parts).2) := by
      intro parts nonempty
      cases parts with
      | nil => exact absurd rfl nonempty
      | cons next later =>
        rw [scanParts, if_pos (short line mem_cons_self), plain line mem_cons_self]
    rw [cons_append, here _ (by simp), others]

end NeonDoll.Lib.Text
