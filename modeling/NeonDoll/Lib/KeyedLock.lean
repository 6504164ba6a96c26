import NeonDoll.Lib.GoMap

/-!
# Locks for keys

A lock for each key, made when it is first asked for and forgotten when nobody refers to it any
more.  A client refers to the lock object it has found, not to the key: after the object is
forgotten the same key gets a new one.  Every operation is one atomic section.
-/

namespace NeonDoll.Lib.KeyedLock

open List GoMap Option AList

/-- Where a client is between asking for a lock and letting it go. -/
inductive Phase where
  | waiting
  | holding
  /-- The token is given back, the reference is not. -/
  | leaving
  deriving DecidableEq

/-- A lock object: its token can be taken by one client. -/
structure Entry where
  token : Bool
  refs : Nat
  deriving DecidableEq

structure Ticket (K : Type) where
  key : K
  entry : Nat
  phase : Phase
  deriving DecidableEq

structure Locks (K C : Type) where
  /-- The object that a key has now. -/
  entries : GoMap K Nat
  heap : Nat → Entry
  tickets : GoMap C (Ticket K)
  /-- How many objects have been made. -/
  made : Nat

inductive Op (K : Type) where
  | request (key : K)
  | take
  /-- The client stops waiting. -/
  | cancel
  | put
  | drop

namespace Locks

variable {K C : Type} [DecidableEq K] [DecidableEq C]

def empty : Locks K C := ⟨∅, fun _ => ⟨false, 0⟩, ∅, 0⟩

def request (l : Locks K C) (c : C) (k : K) : Locks K C :=
  match l.entries.lookup k with
  | some e =>
    { l with
      heap := Function.update l.heap e { l.heap e with refs := (l.heap e).refs + 1 }
      tickets := l.tickets.insert c ⟨k, e, .waiting⟩ }
  | none =>
    { entries := l.entries.insert k l.made
      heap := Function.update l.heap l.made ⟨true, 1⟩
      tickets := l.tickets.insert c ⟨k, l.made, .waiting⟩
      made := l.made + 1 }

/-- The token of the object goes to the client or comes back from it. -/
def move (l : Locks K C) (c : C) (k : K) (e : Nat) (token : Bool) (phase : Phase) : Locks K C :=
  { l with
    heap := Function.update l.heap e { l.heap e with token := token }
    tickets := l.tickets.insert c ⟨k, e, phase⟩ }

/-- One reference less; without references the key forgets the object. -/
def unref (l : Locks K C) (c : C) (k : K) (e : Nat) : Locks K C :=
  { l with
    entries :=
      if (l.heap e).refs - 1 = 0 ∧ l.entries.lookup k = some e then l.entries.erase k
      else l.entries
    heap := Function.update l.heap e { l.heap e with refs := (l.heap e).refs - 1 }
    tickets := l.tickets.erase c }

def step? (l : Locks K C) (c : C) (op : Op K) : Option (Locks K C) :=
  match op, l.tickets.lookup c with
  | .request k, none => some (l.request c k)
  | .take, some ⟨k, e, .waiting⟩ =>
    if (l.heap e).token then some (l.move c k e false .holding) else none
  | .cancel, some ⟨k, e, .waiting⟩ => some (l.unref c k e)
  | .put, some ⟨k, e, .holding⟩ => some (l.move c k e true .leaving)
  | .drop, some ⟨k, e, .leaving⟩ => some (l.unref c k e)
  | _, _ => none

/-- What a client has: the key and how far it is. -/
def held (l : Locks K C) (c : C) : Option (K × Phase) :=
  (l.tickets.lookup c).map fun t => (t.key, t.phase)

end Locks

/-- What an operation does for its own client. -/
def Op.next? {K : Type} : Op K → Option (K × Phase) → Option (Option (K × Phase))
  | .request k, none => some (some (k, .waiting))
  | .take, some (k, .waiting) => some (some (k, .holding))
  | .cancel, some (_, .waiting) => some none
  | .put, some (k, .holding) => some (some (k, .leaving))
  | .drop, some (_, .leaving) => some none
  | _, _ => none

namespace Locks

/-! ## Counting references -/

section Count

variable {K C : Type} [DecidableEq C] {c : C}

/-- How many clients refer to an object. -/
def count (tickets : GoMap C (Ticket K)) (e : Nat) : Nat :=
  tickets.entries.countP fun t => t.2.entry = e

variable {tickets : GoMap C (Ticket K)} {t : Ticket K}

theorem count_erase (found : tickets.lookup c = some t) (e : Nat) :
    count tickets e = count (tickets.erase c) e + if t.entry = e then 1 else 0 := by
  have key : c ∈ tickets.entries.keys := mem_keys.mp ((mem_iff_lookup _ _).mpr ⟨t, found⟩)
  obtain ⟨u, before, after, _, whole, rest⟩ := exists_of_kerase key
  have same : u = t := by
    have member : (⟨c, u⟩ : Sigma fun _ : C => Ticket K) ∈ tickets.entries := by
      rw [whole]
      exact mem_append_right _ mem_cons_self
    rw [mem_lookup_iff.mpr member] at found
    exact Option.some.inj found
  have erased : (tickets.erase c).entries = before ++ after := rest
  rw [count, count, erased, whole, countP_append, countP_cons, countP_append, same]
  simp only [decide_eq_true_eq]
  omega

theorem count_insert :
    count (tickets.insert c t) e = count (tickets.erase c) e + if t.entry = e then 1 else 0 := by
  rw [count, count, entries_insert, countP_cons]
  simp only [decide_eq_true_eq]
  rfl

theorem count_fresh (absent : tickets.lookup c = none) :
    count (tickets.insert c t) e = count tickets e + if t.entry = e then 1 else 0 := by
  have missing : c ∉ tickets := by grind [mem_iff_lookup]
  rw [count, count, entries_insert_of_notMem missing, countP_cons]
  simp

theorem count_pos (found : tickets.lookup c = some t) : 0 < count tickets t.entry := by
  rw [count_erase found, if_pos rfl]
  omega

end Count

/-! ## The invariant -/

variable {K C : Type} [DecidableEq K] [DecidableEq C] {l m : Locks K C} {c d : C} {op : Op K}

structure Sound (l : Locks K C) : Prop where
  known : ∀ k e, l.entries.lookup k = some e → e < l.made
  /-- A client refers to the object that its key has now. -/
  current : ∀ c t, l.tickets.lookup c = some t → l.entries.lookup t.key = some t.entry
  counted : ∀ e, (l.heap e).refs = count l.tickets e
  /-- The token is there unless a client has it. -/
  token : ∀ e, (l.heap e).token = true →
    ∀ c t, l.tickets.lookup c = some t → t.entry = e → t.phase ≠ .holding
  single : ∀ c d t u, l.tickets.lookup c = some t → l.tickets.lookup d = some u →
    t.phase = .holding → u.phase = .holding → t.entry = u.entry → c = d

theorem sound_empty : (empty : Locks K C).Sound :=
  ⟨nofun, nofun, fun _ => rfl, nofun, nofun⟩

variable {k : K}

theorem Sound.exclusive (sound : l.Sound) (first : l.held c = some (k, .holding))
    (second : l.held d = some (k, .holding)) : c = d := by
  obtain ⟨t, found, eq⟩ := map_eq_some_iff.mp first
  obtain ⟨u, other, eq'⟩ := map_eq_some_iff.mp second
  obtain ⟨key, phase⟩ := Prod.mk.inj eq
  obtain ⟨key', phase'⟩ := Prod.mk.inj eq'
  have here := sound.current c t found
  have there := sound.current d u other
  rw [key] at here
  rw [key', here] at there
  exact sound.single c d t u found other phase phase' (Option.some.inj there)

theorem sound_request (sound : l.Sound) (absent : l.tickets.lookup c = none) :
    (l.request c k).Sound := by
  rw [request]
  cases present : l.entries.lookup k with
  | some e =>
    refine ⟨sound.known, ?_, ?_, ?_, ?_⟩
    · grind [Sound]
    · intro x
      dsimp only
      rw [count_fresh absent, ← sound.counted x, Function.update_apply]
      by_cases same : x = e
      · rw [if_pos same, if_pos same.symm, same]
      · rw [if_neg same, if_neg (Ne.symm same), Nat.add_zero]
    all_goals grind [Sound]
  | none =>
    have old : ∀ d t, l.tickets.lookup d = some t → t.entry < l.made := fun d t found =>
      sound.known t.key t.entry (sound.current d t found)
    have unused : count l.tickets l.made = 0 := by
      rw [count, countP_eq_zero]
      intro t member
      have less := old t.1 t.2 (mem_lookup_iff.mpr member)
      rw [decide_eq_true_eq]
      omega
    refine ⟨?_, ?_, ?_, ?_, ?_⟩
    · grind [Sound]
    · grind [Sound]
    · intro x
      dsimp only
      rw [count_fresh absent, Function.update_apply]
      by_cases same : x = l.made
      · rw [if_pos same, if_pos same.symm, same, unused]
      · rw [if_neg same, if_neg (Ne.symm same), sound.counted x, Nat.add_zero]
    all_goals grind [Sound]

variable {e : Nat}

/-- The token moves: it is gone from then on only if the client has it, and before only if the
client had it. -/
theorem sound_move (sound : l.Sound) {before after : Phase}
    (found : l.tickets.lookup c = some ⟨k, e, before⟩) (takes : token = true → after ≠ .holding)
    (sole : ∀ d t, l.tickets.lookup d = some t → t.entry = e → t.phase = .holding → d ≠ c →
      token = false ∧ after ≠ .holding) : (l.move c k e token after).Sound := by
  refine ⟨sound.known, ?_, ?_, ?_, ?_⟩
  · intro d t lookup
    rcases lookup_insert_some lookup with ⟨-, rfl⟩ | ⟨-, lookup⟩
    · exact sound.current c ⟨k, e, before⟩ found
    · exact sound.current d t lookup
  · intro x
    change (Function.update l.heap e _ x).refs = count (l.tickets.insert c _) x
    rw [count_insert, ← count_erase found x, ← sound.counted x, Function.update_apply]
    split
    · rename_i same
      rw [same]
    · rfl
  · intro x free d t lookup here
    change (Function.update l.heap e _ x).token = true at free
    change (l.tickets.insert c _).lookup d = some t at lookup
    rw [lookup_insert_ite] at lookup
    rw [Function.update_apply] at free
    split at lookup
    · grind
    · grind [Sound]
  · intro a b t u first second holds holds' same
    change (l.tickets.insert c _).lookup a = some t at first
    change (l.tickets.insert c _).lookup b = some u at second
    rw [lookup_insert_ite] at first second
    split at first
    · grind
    · grind [Sound]

theorem sound_unref (sound : l.Sound) {phase : Phase}
    (found : l.tickets.lookup c = some ⟨k, e, phase⟩) : (l.unref c k e).Sound := by
  have other : ∀ d t, (l.tickets.erase c).lookup d = some t →
      l.tickets.lookup d = some t ∧ d ≠ c := by grind
  have counts : ∀ x,
      (Function.update l.heap e { l.heap e with refs := (l.heap e).refs - 1 } x).refs =
      count (l.tickets.erase c) x := by
    intro x
    have total := count_erase found x
    rw [← sound.counted x] at total
    rw [Function.update_apply]
    by_cases same : x = e
    all_goals grind
  refine ⟨?_, ?_, counts, ?_, ?_⟩
  · intro k' x lookup
    change (if _ then l.entries.erase k else l.entries).lookup k' = some x at lookup
    split at lookup
    · exact sound.known k' x (lookup_erase_some lookup).2
    · exact sound.known k' x lookup
  · intro d t lookup
    have here := sound.current d t (other d t lookup).1
    change (if _ then l.entries.erase k else l.entries).lookup t.key = some t.entry
    split
    · rename_i last
      -- A client with this key would still refer to the object.
      rw [lookup_erase_ite, if_neg]
      · exact here
      intro same
      rw [same, last.2] at here
      have some_ : 0 < count (l.tickets.erase c) t.entry := count_pos lookup
      rw [← Option.some.inj here, ← counts e, Function.update_self] at some_
      dsimp only at some_
      omega
    · exact here
  · intro x free d t lookup
    have free' : (l.heap x).token = true := by
      change (Function.update l.heap e _ x).token = true at free
      rw [Function.update_apply] at free
      split at free
      · grind
      · exact free
    exact sound.token x free' d t (other d t lookup).1
  · intro a b t u first second
    exact sound.single a b t u (other a t first).1 (other b u second).1

/-! ## One operation -/

theorem step?_cases (stepped : l.step? c op = some m) :
    (∃ k, op = .request k ∧ l.tickets.lookup c = none ∧ m = l.request c k) ∨
      (∃ k e, op = .take ∧ l.tickets.lookup c = some ⟨k, e, .waiting⟩ ∧
        (l.heap e).token = true ∧ m = l.move c k e false .holding) ∨
      (∃ k e, op = .put ∧ l.tickets.lookup c = some ⟨k, e, .holding⟩ ∧
        m = l.move c k e true .leaving) ∨
      ∃ k e phase, (op = .cancel ∧ phase = .waiting ∨ op = .drop ∧ phase = .leaving) ∧
        l.tickets.lookup c = some ⟨k, e, phase⟩ ∧ m = l.unref c k e := by
  unfold step? at stepped
  split at stepped
  · grind
  · grind
  · grind
  · grind
  · grind
  · cases stepped

theorem Sound.step (sound : l.Sound) (stepped : l.step? c op = some m) : m.Sound := by
  rcases step?_cases stepped with ⟨k, -, absent, rfl⟩ | ⟨k, e, -, found, free, rfl⟩ |
    ⟨k, e, -, found, rfl⟩ | ⟨k, e, phase, -, found, rfl⟩
  · exact sound_request sound absent
  · refine sound_move sound found (by simp) fun d t there here holds _ => ?_
    exact absurd holds (sound.token e free d t there here)
  · refine sound_move sound found (by simp) fun d t there here holds other => ?_
    exact absurd (sound.single d c t _ there found holds rfl here) other
  · exact sound_unref sound found

theorem lookup_request (c d : C) (k : K) : ∃ e, (l.request c k).tickets.lookup d =
      if d = c then some ⟨k, e, .waiting⟩ else l.tickets.lookup d := by
  rw [request]
  split
  all_goals exact ⟨_, lookup_insert_ite _ _ _ _⟩

theorem held_step_other (stepped : l.step? c op = some m) (apart : d ≠ c) :
    m.held d = l.held d := by
  have same : m.tickets.lookup d = l.tickets.lookup d := by
    rcases step?_cases stepped with ⟨k, -, -, rfl⟩ | ⟨k, e, -, -, -, rfl⟩ |
      ⟨k, e, -, -, rfl⟩ | ⟨k, e, _, -, -, rfl⟩
    · obtain ⟨e, eq⟩ := lookup_request c d k
      rw [eq, if_neg apart]
    · exact lookup_insert_ne apart
    · exact lookup_insert_ne apart
    · exact lookup_erase_ne apart
  rw [held, held, same]

theorem held_step (stepped : l.step? c op = some m) : op.next? (l.held c) = some (m.held c) := by
  rcases step?_cases stepped with ⟨k, rfl, absent, rfl⟩ | ⟨k, e, rfl, found, -, rfl⟩ |
    ⟨k, e, rfl, found, rfl⟩ | ⟨k, e, _, kind, found, rfl⟩
  · obtain ⟨e, eq⟩ := lookup_request c c k
    rw [if_pos rfl] at eq
    rw [held, absent, held, eq]
    rfl
  · rw [held, found, held, move, lookup_insert]
    rfl
  · rw [held, found, held, move, lookup_insert]
    rfl
  · rw [held, found, held, unref, lookup_erase]
    rcases kind with ⟨rfl, rfl⟩ | ⟨rfl, rfl⟩
    all_goals rfl

theorem held_request (stepped : l.step? c (.request k) = some m) :
    m.held c = some (k, .waiting) := by
  have moved := held_step stepped
  cases before : l.held c <;> rw [before] at moved
  case some own =>
    cases moved
  case none =>
    exact (Option.some.inj moved).symm

theorem held_take (before : l.held c = some (k, .waiting))
    (stepped : l.step? c .take = some m) : m.held c = some (k, .holding) := by
  have moved := held_step stepped
  rw [before] at moved
  exact (Option.some.inj moved).symm

end Locks

end NeonDoll.Lib.KeyedLock
