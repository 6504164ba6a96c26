import NeonDoll.Lib.Numeral

/-!
# Slash-separated paths

`path.Clean` of the Go library: the segments go one by one onto a stack.  A path that it leaves
as it is, and that neither is rooted nor begins with a parent step, has only names as segments.
-/

namespace NeonDoll.Lib.Path

open List

def segments (p : Text) : List Text := p.splitOn '/'

def dot : Text := ['.']

def dotdot : Text := ['.', '.']

/-- A segment that names something below a directory. -/
def Name (segment : Text) : Prop := segment ≠ [] ∧ segment ≠ dot ∧ segment ≠ dotdot

/-- One segment more; the stack has the last one first. -/
def push (rooted : Bool) (kept : List Text) (segment : Text) : List Text :=
  if segment = [] ∨ segment = dot then kept
  else if segment = dotdot then
    match kept with
    | [] => if rooted then [] else [dotdot]
    | last :: rest => if last = dotdot then dotdot :: kept else rest
  else segment :: kept

/-- What `path.Clean` keeps of the segments. -/
def cleanSegments (rooted : Bool) (given : List Text) : List Text :=
  (given.foldl (push rooted) []).reverse

def isRooted (p : Text) : Bool := p.head? = some '/'

def clean (p : Text) : Text :=
  let body := ['/'].intercalate (cleanSegments (isRooted p) (segments p))
  if isRooted p then '/' :: body else if body = [] then dot else body

def join (directory p : Text) : Text := directory ++ '/' :: p

/-! ## Clean paths -/

/-- What holds of the stack: parent steps are only at its bottom. -/
structure Kept (kept : List Text) : Prop where
  visible : ∀ segment ∈ kept, segment ≠ [] ∧ segment ≠ dot ∧ '/' ∉ segment
  bottom : dotdot ∈ kept → kept.getLast? = some dotdot

theorem Kept.push (before : Kept kept)
    (unbroken : '/' ∉ part) : Kept (push rooted kept part) := by
  obtain ⟨_, _⟩ := before
  cases kept with
  | nil => constructor <;> grind [Path.push]
  | cons last rest =>
    cases rest with
    | nil | cons next rest => constructor <;> grind [Path.push]

theorem Kept.foldl {kept given : List Text} (before : Kept kept)
    (unbroken : ∀ segment ∈ given, '/' ∉ segment) : Kept (given.foldl (Path.push rooted) kept) := by
  induction given generalizing kept with
  | nil => exact before
  | cons segment rest ih =>
    rw [foldl_cons]
    exact ih (before.push (unbroken segment mem_cons_self))
      fun other member => unbroken other (mem_cons_of_mem segment member)

theorem not_mem_of_mem_segments (member : part ∈ segments p) :
    '/' ∉ part := Text.not_mem_of_mem_splitOn member

theorem segments_join : segments (join directory p) = segments directory ++ segments p :=
  splitOn_append_cons_self ..

/-- The segments of a clean relative path that has no parent step at its front. -/
theorem name_of_mem_segments {p segment : Text} (relative : isRooted p = false)
    (same : clean p = p) (proper : p ≠ dot) (below : p ≠ dotdot)
    (inside : ¬ join dotdot [] <+: p) (member : segment ∈ segments p) : Name segment := by
  have kept : Kept ((segments p).foldl (push false) []) :=
    Kept.foldl ⟨by simp, by simp⟩ fun _ => not_mem_of_mem_segments
  generalize eq : cleanSegments false (segments p) = stack at *
  have visible : ∀ s ∈ stack, s ≠ [] ∧ s ≠ dot ∧ '/' ∉ s := fun s listed =>
    kept.visible s (mem_reverse.mp (by rw [← eq, cleanSegments] at listed; exact listed))
  have front : dotdot ∈ stack → stack.head? = some dotdot := by
    rw [← eq, cleanSegments, mem_reverse, List.head?_reverse]
    exact kept.bottom
  have body : ['/'].intercalate stack = p := by
    simp only [clean, relative, eq] at same
    grind
  have some_left : stack ≠ [] := by
    rintro rfl
    simp only [clean, relative, eq] at same
    exact proper same.symm
  have whole : segments p = stack := by
    rw [← body, segments]
    exact splitOn_intercalate '/' (fun s listed => (visible s listed).2.2) some_left
  rw [whole] at member
  refine ⟨(visible segment member).1, (visible segment member).2.1, ?_⟩
  rintro rfl
  -- A parent step anywhere means one at the front, where the text shows it.
  cases stack with
  | nil => exact some_left rfl
  | cons first rest =>
    obtain rfl : first = dotdot := Option.some.inj (front member)
    cases rest with
    | nil => exact below (by rw [← body, intercalate_singleton])
    | cons next rest =>
      refine inside ⟨['/'].intercalate (next :: rest), ?_⟩
      rw [← body, intercalate_cons_cons]
      rfl

/-! ## Locations -/

/-- Two locations where different files can stand: neither is the other or a directory on the
way to it. -/
def Apart (a b : Text) : Prop := a ≠ b ∧ ¬ join a [] <+: b ∧ ¬ join b [] <+: a

instance (a b : Text) : Decidable (Apart a b) := inferInstanceAs (Decidable (_ ∧ _ ∧ _))

theorem Apart.symm (apart : Apart a b) : Apart b a :=
  ⟨apart.1.symm, apart.2.2, apart.2.1⟩

theorem join_append (directory a b : Text) : join directory a ++ b = join directory (a ++ b) := by
  rw [join, join, append_assoc, cons_append]

theorem join_join : join (join a b) c = join a (join b c) := join_append a b _

theorem apart_join : Apart (join directory a) (join directory b) ↔ Apart a b := by
  simp only [Apart, join_join]
  simp only [join, ne_eq, append_cancel_left_eq, List.cons.injEq, true_and,
    prefix_append_right_inj, cons_prefix_cons]

/-- What stands below directories of which none is the other or on the way to it. -/
theorem Apart.join (apart : Apart a b) (f g : Text) : Apart (join a f) (join b g) := by
  have clash : ∀ {a b : Text}, Apart a b → ∀ {t : Text}, Path.join a [] <+: t →
      ¬ Path.join b [] <+: t := by
    intro a b apart t first second
    have nested := prefix_or_prefix_of_prefix first second
    simp only [Path.join, prefix_concat_iff] at nested
    obtain ⟨different, outside, inside⟩ := apart
    simp only [Path.join] at outside inside
    rcases nested with (same | deeper) | same | deeper
    · exact different (append_cancel_right same)
    · exact outside deeper
    · exact different (append_cancel_right same).symm
    · exact inside deeper
  have above : ∀ d p : Text, Path.join d [] <+: Path.join d p := fun d p =>
    ⟨p, join_append d [] p⟩
  have farther : ∀ d p : Text, Path.join d [] <+: Path.join (Path.join d p) [] := fun d p => by
    rw [join_join]
    exact above d _
  refine ⟨fun same => ?_, fun below => ?_, fun below => ?_⟩
  · exact clash apart (above a f) (same ▸ above b g)
  · exact clash apart ((farther a f).trans below) (above b g)
  · exact clash apart (above a f) ((farther b g).trans below)

end NeonDoll.Lib.Path
