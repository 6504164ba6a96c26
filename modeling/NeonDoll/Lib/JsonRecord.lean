import NeonDoll.Lib.JsonRoundTrip

/-!
# Records as JSON objects

A record type is described by its fields.  Reading takes a field from the member of its exact
name, else from one whose name differs only in case; the last member wins, and members that are
no fields are ignored.
-/

namespace NeonDoll.Lib.Json

open Text List Option Nat Int64

/-! ## Integers -/

def intText (i : Int) : Text :=
  if i < 0 then '-' :: Nat.toDigits 10 i.natAbs else Nat.toDigits 10 i.natAbs

theorem isDigit_of_mem (member : c ∈ Nat.toDigits 10 n) : isDigit c = true :=
  decide_eq_true (digitValue_of_mem_toDigits (by decide) (by decide) member)

theorem run_digits (digits : ∀ c ∈ t, isDigit c = true) :
    NumberState.digits.run t = some .digits := by
  induction t with
  | nil => rfl
  | cons c rest ih => grind [NumberState.run, NumberState.next]

/-- A positive number does not begin with a zero. -/
theorem toDigits_head (positive : 0 < n) : ∃ c rest, Nat.toDigits 10 n = c :: rest ∧ c ≠ '0' := by
  induction n using Nat.strongRecOn with
  | ind n ih =>
    rw [toDigits_eq_if (by decide)]
    split
    · rename_i below
      refine ⟨n.digitChar, [], rfl, ?_⟩
      have all : ∀ d < 10, 0 < d → Nat.digitChar d ≠ '0' := by decide
      exact all n below positive
    · obtain ⟨c, rest, eq, nonzero⟩ := ih (n / 10) (by omega) (by omega)
      exact ⟨c, rest ++ [(n % 10).digitChar], by rw [eq]; rfl, nonzero⟩

/-- The states that the digits of a number lead to. -/
theorem scan_toDigits : ∃ c rest s, Nat.toDigits 10 n = c :: rest ∧
    NumberState.start c = some s ∧ NumberState.minus.next c = some s ∧
      ∃ t, s.run rest = some t ∧ t.complete = true := by
  by_cases zero : n = 0
  · rw [zero]
    exact ⟨'0', [], .zero, rfl, rfl, rfl, .zero, rfl, rfl⟩
  obtain ⟨c, rest, eq, nonzero⟩ := toDigits_head (Nat.pos_of_ne_zero zero)
  have digits : ∀ d ∈ c :: rest, isDigit d = true := fun d member =>
    isDigit_of_mem (n := n) (by rw [eq]; exact member)
  have digit := digits c mem_cons_self
  have unsigned : c ≠ '-' := by
    rintro rfl
    cases digit
  refine ⟨c, rest, .digits, eq, ?_, ?_, .digits, ?_, rfl⟩
  · rw [NumberState.start, if_neg unsigned, if_neg nonzero, if_pos digit]
  · rw [NumberState.next, if_neg nonzero, if_pos digit]
  · exact run_digits fun d member => digits d (mem_cons_of_mem c member)

theorem validNumber_intText : validNumber (intText i) = true := by
  obtain ⟨c, rest, s, eq, _, signed, t, run, complete⟩ := scan_toDigits
  rw [intText, eq]
  split
  · have read : NumberState.scan ('-' :: c :: rest) = some t := by
      rw [NumberState.scan]
      change (NumberState.minus.next c).bind (fun s => s.run rest) = some t
      rw [signed, bind_some, run]
    rw [validNumber, read]
    exact complete
  · grind [NumberState.scan, validNumber]

def numberOf (i : Int) : Number := ⟨intText i, validNumber_intText⟩

/-- An integer without fraction or exponent. -/
def readInt : Text → Option Int
  | [] => none
  | c :: rest =>
    if c = '-' then (toNat? 10 rest).map fun n : Nat => -(n : Int)
    else (toNat? 10 (c :: rest)).map fun n : Nat => (n : Int)

theorem readInt_intText : readInt (intText i) = some i := by
  have digits : toNat? 10 (Nat.toDigits 10 i.natAbs) = some i.natAbs :=
    toNat?_toDigits (by decide) (by decide) i.natAbs
  rw [intText]
  split
  · grind [readInt]
  obtain ⟨c, _, s, eq, _, signed, _⟩ := scan_toDigits
  have unsigned : c ≠ '-' := by
    rintro rfl
    cases signed
  rw [eq] at digits
  rw [eq, readInt, if_neg unsigned, digits, map_some]
  exact congrArg some (by omega)

/-- The values of a 64-bit `int`. -/
def readInt64 (n : Number) : Option Int64 :=
  match readInt n.text with
  | none => none
  | some i => if -2 ^ 63 ≤ i ∧ i < 2 ^ 63 then some (Int64.ofInt i) else none

theorem readInt64_numberOf : readInt64 (numberOf i.toInt) = some i := by
  have range : -2 ^ 63 ≤ i.toInt ∧ i.toInt < 2 ^ 63 := ⟨le_toInt i, toInt_lt i⟩
  rw [readInt64, numberOf, readInt_intText]
  dsimp only
  rw [if_pos range, ofInt_toInt]

/-! ## Fields -/

/-- A field of a record: the member that it is written as, unless it is left out, and what a
member does to the record. -/
structure Field (σ : Type) where
  name : Text
  member : σ → Option Value
  assign : Value → σ → Option σ

namespace Field

variable {σ α : Type}

/-- A string; `null` leaves it as it is. -/
def text (name : Text) (omitEmpty : Bool) (get : σ → Text) (set : Text → σ → σ) : Field σ where
  name := name
  member := fun x => if omitEmpty = true ∧ get x = [] then none else some (.str (get x))
  assign := fun v x =>
    match v with
    | .str t => some (set t x)
    | .null => some x
    | _ => none

def int (name : Text) (get : σ → Int64) (set : Int64 → σ → σ) : Field σ where
  name := name
  member := fun x => some (.num (numberOf (get x).toInt))
  assign := fun v x =>
    match v with
    | .num n => (readInt64 n).map fun i => set i x
    | .null => some x
    | _ => none

/-- A list, left out if it is empty; the list that was never made is `none`. -/
def list (name : Text) (write : α → Value) (read : Value → Option α)
    (get : σ → Option (List α)) (set : Option (List α) → σ → σ) : Field σ where
  name := name
  member := fun x =>
    if (get x).getD [] = [] then none else some (.arr (((get x).getD []).map write))
  assign := fun v x =>
    match v with
    | .arr items => (items.mapM read).map fun values => set (some values) x
    | .null => some (set none x)
    | _ => none

/-- Reading the field of a record into another one. -/
def copy (f : Field σ) (x acc : σ) : Option σ :=
  match f.member x with
  | none => some acc
  | some v => f.assign v acc

theorem copy_text {name : Text} {omitEmpty : Bool} {get : σ → Text} {set : Text → σ → σ}
    (x acc : σ) : (text name omitEmpty get set).copy x acc =
      some (if omitEmpty = true ∧ get x = [] then acc else set (get x) acc) := by
  rw [copy, text]
  split
  all_goals grind

theorem copy_int {name : Text} {get : σ → Int64} {set : Int64 → σ → σ} (x acc : σ) :
    (int name get set).copy x acc = some (set (get x) acc) := by
  change (readInt64 (numberOf (get x).toInt)).map _ = _
  rw [readInt64_numberOf]
  rfl

theorem mapM_map {write : α → Value} {read : Value → Option α} (values : List α)
    (inverse : ∀ a, read (write a) = some a) : (values.map write).mapM read = some values := by
  induction values with
  | nil => rfl
  | cons a rest ih =>
    rw [map_cons, mapM_cons, inverse, ih]
    rfl

theorem copy_list {name : Text} {write : α → Value} {read : Value → Option α}
    {get : σ → Option (List α)} {set : Option (List α) → σ → σ}
    (inverse : ∀ a, read (write a) = some a) (x acc : σ) :
    (list name write read get set).copy x acc =
      some (if (get x).getD [] = [] then acc else set (get x) acc) := by
  rw [copy, list]
  dsimp only
  cases items : get x with
  | none => rfl
  | some values =>
    rw [getD_some]
    by_cases empty : values = []
    · rw [if_pos empty, if_pos empty]
    rw [if_neg empty, if_neg empty]
    dsimp only
    rw [mapM_map values inverse]
    rfl

end Field

/-! ## Records -/

/-- The lower-case form of the letters that occur in field names: besides the capital letters
these are the long s and the Kelvin sign. -/
def foldChar (c : Char) : Char :=
  if c.toNat = 0x17f then 's' else if c.toNat = 0x212a then 'k' else c.toLower

section Fields

variable {σ : Type} {fields : List (Field σ)}

def findField (fields : List (Field σ)) (name : Text) : Option (Field σ) :=
  match fields.find? fun f => f.name = name with
  | some f => some f
  | none => fields.find? fun f => f.name.map foldChar = name.map foldChar

/-- The members in turn. -/
def fill (fields : List (Field σ)) : List (Text × Value) → σ → Option σ
  | [], x => some x
  | (name, v) :: rest, x =>
    match findField fields name with
    | none => fill fields rest x
    | some f =>
      match f.assign v x with
      | none => none
      | some y => fill fields rest y

def members (fields : List (Field σ)) (x : σ) : List (Text × Value) :=
  fields.filterMap fun f => (f.member x).map fun v => (f.name, v)

def copyAll : List (Field σ) → σ → σ → Option σ
  | [], _, acc => some acc
  | f :: rest, x, acc =>
    match f.copy x acc with
    | none => none
    | some next => copyAll rest x next

theorem findField_of_mem (distinct : (fields.map Field.name).Nodup)
    (member : f ∈ fields) : findField fields f.name = some f := by
  have exact : (fields.find? fun g => g.name = f.name) = some f := by
    induction fields with
    | nil => cases member
    | cons g rest ih => grind
  rw [findField, exact]

theorem fill_members (distinct : (fields.map Field.name).Nodup) (x : σ)
    (sub : ∀ f ∈ later, f ∈ fields) (acc : σ) :
    fill fields (members later x) acc = copyAll later x acc := by
  induction later generalizing acc with
  | nil => rfl
  | cons f rest ih =>
    have others := ih fun g member => sub g (mem_cons_of_mem f member)
    have found := findField_of_mem distinct (sub f mem_cons_self)
    rw [members, filterMap_cons, copyAll, Field.copy]
    cases written : f.member x with
    | none => exact others acc
    | some v =>
      simp only [map_some]
      rw [fill, found]
      dsimp only
      cases f.assign v acc with
      | none => rfl
      | some next => exact others next

end Fields

/-- A record type, with what is left of a value that was written and read. -/
structure Record (σ : Type) where
  fields : List (Field σ)
  zero : σ
  restored : σ → σ
  depth : Nat
  distinct : (fields.map Field.name).Nodup
  shallow : ∀ f ∈ fields, ∀ x v, f.member x = some v → v.depth ≤ depth
  restores : ∀ x, copyAll fields x zero = some (restored x)

namespace Record

variable {σ : Type} (r : Record σ)

def toValue (x : σ) : Value := .obj (members r.fields x)

def ofValue : Value → Option σ
  | .obj given => fill r.fields given r.zero
  | .null => some r.zero
  | _ => none

def marshal (x : σ) : Text := write (r.toValue x)

def unmarshal (t : Text) : Option σ := (read t).bind r.ofValue

theorem ofValue_toValue (x : σ) : r.ofValue (r.toValue x) = some (r.restored x) :=
  (fill_members r.distinct x (fun _ => id) r.zero).trans (r.restores x)

theorem membersDepth_le (shallow : ∀ m ∈ given, m.2.depth ≤ n) : membersDepth given ≤ n := by
  induction given with
  | nil => exact zero_le n
  | cons first rest ih =>
    obtain ⟨name, v⟩ := first
    exact Nat.max_le.mpr ⟨shallow (name, v) mem_cons_self,
      ih fun m member => shallow m (mem_cons_of_mem _ member)⟩

theorem depth_toValue (x : σ) : (r.toValue x).depth ≤ r.depth + 1 := by
  refine succ_le_succ (membersDepth_le fun m member => ?_)
  obtain ⟨f, listed, made⟩ := mem_filterMap.mp member
  obtain ⟨v, written, eq⟩ := map_eq_some_iff.mp made
  rw [← eq]
  exact r.shallow f listed x v written

theorem unmarshal_marshal (bounded : r.depth < maxNestingDepth) (x : σ) :
    r.unmarshal (r.marshal x) = some (r.restored x) := by
  rw [unmarshal, marshal, read_write (le_trans (r.depth_toValue x) bounded), bind_some]
  exact r.ofValue_toValue x

end Record

/-! ## The depth of fields -/

section Depth

variable {σ α : Type} {name : Text} {x : σ} {v : Value}

theorem Field.depth_text {get : σ → Text} {set : Text → σ → σ}
    (written : (Field.text name omitEmpty get set).member x = some v) : v.depth = 0 := by
  rw [Field.text] at written
  dsimp only at written
  split at written
  · cases written
  · cases written
    rfl

theorem Field.depth_int {get : σ → Int64} {set : Int64 → σ → σ}
    (written : (Field.int name get set).member x = some v) : v.depth = 0 := by
  cases written
  rfl

theorem itemsDepth_le (shallow : ∀ v ∈ items, v.depth ≤ n) :
    itemsDepth items ≤ n := by
  induction items with
  | nil => exact zero_le n
  | cons v rest ih =>
    exact Nat.max_le.mpr ⟨shallow v mem_cons_self,
      ih fun w member => shallow w (mem_cons_of_mem v member)⟩

theorem Field.depth_list (r : Record α) {get : σ → Option (List α)} {set : Option (List α) → σ → σ}
    (written : (Field.list name r.toValue r.ofValue get set).member x = some v) :
    v.depth ≤ r.depth + 2 := by
  rw [Field.list] at written
  dsimp only at written
  split at written
  · cases written
  cases written
  refine succ_le_succ (itemsDepth_le fun w member => ?_)
  obtain ⟨a, _, eq⟩ := mem_map.mp member
  rw [← eq]
  exact r.depth_toValue a

end Depth

/-! ## Flat records -/

section Flat

variable {σ : Type}

/-- Texts and integers are not nested. -/
def Flat (fields : List (Field σ)) : Prop :=
  ∀ f ∈ fields, ∀ x v, f.member x = some v → v.depth ≤ 0

theorem flat_nil : Flat ([] : List (Field σ)) := nofun

variable {rest : List (Field σ)}

theorem flat_text {get : σ → Text} {set : Text → σ → σ} (flat : Flat rest) :
    Flat (Field.text name omitEmpty get set :: rest) := by
  grind [Flat, Field.depth_text]

theorem flat_int {get : σ → Int64} {set : Int64 → σ → σ}
    (flat : Flat rest) : Flat (Field.int name get set :: rest) := by
  grind [Flat, Field.depth_int]

theorem copyAll_cons {x acc next : σ}
    (copied : f.copy x acc = some next) : copyAll (f :: rest) x acc = copyAll rest x next := by
  rw [copyAll, copied]

/-- Leaving out an empty text changes nothing if it was empty before. -/
theorem copyAll_text {get : σ → Text} {set : Text → σ → σ} (unset : set [] acc = acc) :
    copyAll (Field.text name omitEmpty get set :: rest) x acc =
      copyAll rest x (set (get x) acc) := by
  refine copyAll_cons ((Field.copy_text x acc).trans (congrArg some ?_))
  split
  · rename_i left
    rw [left.2, unset]
  · rfl

theorem copyAll_int {get : σ → Int64} {set : Int64 → σ → σ} :
    copyAll (Field.int name get set :: rest) x acc = copyAll rest x (set (get x) acc) :=
  copyAll_cons (Field.copy_int x acc)

end Flat

/-! ## Records that hold one list -/

/-- An empty list is not written, so it is read as none. -/
def nonempty {α : Type} (items : Option (List α)) : Option (List α) :=
  if items.getD [] = [] then none else items

/-- A record whose only field is the list `items`. -/
def Record.ofItems {σ α : Type} (r : Record α) (get : σ → Option (List α))
    (make : Option (List α) → σ) (same : ∀ a, r.restored a = a) : Record σ where
  fields := [.list "items".toList r.toValue r.ofValue get fun items _ => make items]
  zero := make none
  restored := fun x => make (nonempty (get x))
  depth := r.depth + 2
  distinct := by simp
  shallow := by
    intro f member x v written
    rw [List.mem_singleton.mp member] at written
    exact Field.depth_list r written
  restores := by
    intro x
    have inverse : ∀ a, r.ofValue (r.toValue a) = some a := fun a => by
      rw [r.ofValue_toValue, same]
    refine (copyAll_cons (Field.copy_list inverse x _)).trans (congrArg some ?_)
    rw [nonempty]
    split
    all_goals rfl

end NeonDoll.Lib.Json
