import NeonDoll.Lib.Json

/-!
# Reading what was written

The text of a value that is not nested too deeply is read as that value.
-/

namespace NeonDoll.Lib.Json

open Text List Lexer Token Value

variable {l next : Lexer} {c : Char} {rest : Text}

/-! ## Strings -/

theorem lex_quiet (quiet : l.step c = some ([], next)) : lex l (c :: rest) = lex next rest := by
  rw [lex, quiet]
  exact Option.map_id_apply

/-- The piece that a written character is read as. -/
def piece (c : Char) : Piece :=
  match shortEscapes.lookup c with
  | some _ => .char c
  | none => if needsCode c then .code c.toNat else .char c

theorem digitValue_toLower (bound : d < 16) : digitValue d.digitChar.toLower = d := by
  have all : ∀ d < 16, digitValue d.digitChar.toLower = d := by decide
  exact all d bound

theorem unescape_of_lookup (found : shortEscapes.lookup c = some letter) :
    letter ≠ 'u' ∧ unescape letter = some c := by
  obtain ⟨before, _, eq, _⟩ := lookup_eq_some_iff.mp found
  have member : (c, letter) ∈ shortEscapes := by
    rw [eq]
    exact mem_append_right before mem_cons_self
  have all : ∀ e ∈ shortEscapes, e.2 ≠ 'u' ∧ unescape e.2 = some e.1 := by decide
  exact all (c, letter) member

theorem toNat_lt_of_needsCode (needs : needsCode c = true) :
    c.toNat < 65536 ∧ isSurrogate c.toNat = false := by
  have small : c.toNat < 0x3000 := by
    simp only [needsCode, Bool.or_eq_true, decide_eq_true_eq] at needs
    rcases needs with ((((_ | rfl) | rfl) | rfl) | separator) | _
    · omega
    · decide
    · decide
    · decide
    all_goals omega
  constructor
  · omega
  · rw [isSurrogate, decide_eq_false (by omega)]
    rfl

theorem step_code (digit : digitValue c.toLower < 16) (short : digits.length ≠ 3) :
    Lexer.step c (.code ps digits) = some ([], .code ps (digits ++ [c])) := by
  rw [step, if_pos digit, if_neg short]

theorem step_lastDigit (digit : digitValue c.toLower < 16) (long : digits.length = 3) :
    Lexer.step c (.code ps digits) =
      some ([], .string (.code (hexValue (digits ++ [c])) :: ps)) := by
  rw [step, if_pos digit, if_pos long]

theorem lex_hex4 (bound : n < 65536) :
    lex (.code ps []) (hex4 n ++ rest) = lex (.string (.code n :: ps)) rest := by
  have value : ∀ m, digitValue (m % 16).digitChar.toLower = m % 16 := fun m =>
    digitValue_toLower (Nat.mod_lt m (by decide))
  have digit : ∀ m, digitValue (m % 16).digitChar.toLower < 16 := fun m => by
    rw [value]
    exact Nat.mod_lt m (by decide)
  have whole : hexValue (hex4 n) = n := by grind [hexValue, hex4]
  nth_rewrite 2 [← whole]
  rw [hex4]
  simp only [cons_append, nil_append]
  rw [lex_quiet (step_code (digit _) (by simp)), lex_quiet (step_code (digit _) (by simp)),
    lex_quiet (step_code (digit _) (by simp)), lex_quiet (step_lastDigit (digit _) (by simp))]
  rfl

theorem lex_escapeChar :
    lex (.string ps) (escapeChar c ++ rest) = lex (.string (piece c :: ps)) rest := by
  rw [escapeChar, piece]
  cases found : shortEscapes.lookup c with
  | some letter =>
    obtain ⟨other, read⟩ := unescape_of_lookup found
    have back : step '\\' (.string ps) = some ([], .escape ps) := rfl
    have short : step letter (.escape ps) = some ([], .string (.char c :: ps)) := by
      rw [step, if_neg other, read]
      rfl
    exact (lex_quiet back).trans (lex_quiet short)
  | none =>
    by_cases needs : needsCode c = true
    · have back : step '\\' (.string ps) = some ([], .escape ps) := rfl
      have code : step 'u' (.escape ps) = some ([], .code ps []) := rfl
      simp only [needs, if_true]
      rw [cons_append, cons_append, lex_quiet back, lex_quiet code]
      exact lex_hex4 (toNat_lt_of_needsCode needs).1
    · have quote : c ≠ '"' := by
        rintro rfl
        cases found
      have back : c ≠ '\\' := by
        rintro rfl
        cases found
      have printed : ¬c.toNat < 0x20 := by
        intro control
        apply needs
        rw [needsCode, decide_eq_true control]
        rfl
      have plain : step c (.string ps) = some ([], .string (.char c :: ps)) := by
        rw [step, if_neg quote, if_neg back, if_neg printed]
      simp only [needs, Bool.false_eq_true, if_false]
      exact lex_quiet plain

theorem joinPieces_code (single : isSurrogate n = false) :
    joinPieces (.code n :: later) = Char.ofNat n :: joinPieces later := by
  cases later with
  | nil => simp only [joinPieces, single, Bool.false_eq_true, if_false]
  | cons p more =>
    cases p with
    | char c | code m => simp only [joinPieces, single, Bool.false_eq_true, if_false]

theorem joinPieces_map : joinPieces (t.map piece) = t := by
  induction t with
  | nil => rfl
  | cons c rest ih =>
    rw [map_cons, piece]
    cases shortEscapes.lookup c with
    | some letter => exact congrArg (c :: ·) ih
    | none =>
      by_cases needs : needsCode c = true
      · simp only [needs, if_true]
        rw [joinPieces_code (toNat_lt_of_needsCode needs).2, ih, Char.ofNat_toNat]
      · simp only [needs, Bool.false_eq_true, if_false]
        exact congrArg (c :: ·) ih

theorem lex_string (t : Text) : lex (.string ps) (t.flatMap escapeChar ++ '"' :: rest) =
      (lex .idle rest).map (.str (joinPieces (ps.reverse ++ t.map piece)) :: ·) := by
  induction t generalizing ps with
  | nil =>
    rw [map_nil, append_nil]
    rfl
  | cons c later ih =>
    rw [flatMap_cons, append_assoc, lex_escapeChar, ih, reverse_cons,
      append_assoc, singleton_append, map_cons]

theorem lex_quoted : lex .idle (quoted t ++ rest) = (lex .idle rest).map (.str t :: ·) := by
  have opened : step '"' .idle = some ([], .string []) := rfl
  rw [quoted, cons_append, append_assoc, singleton_append, lex_quiet opened,
    lex_string, reverse_nil, nil_append, joinPieces_map]

/-! ## Numbers and words -/

/-- The characters that tokens other than numbers and words begin with. -/
def delimiters : List Char := ['{', '}', '[', ']', ':', ',', '"']

def Delimited (rest : Text) : Prop := ∀ c ∈ rest.head?, c ∈ delimiters

theorem lex_ends (finishes : l.finish = some [token])
    (ends : ∀ c ∈ delimiters, l.step c = Lexer.endBefore c (some token))
    (delimited : Delimited rest) : lex l rest = (lex .idle rest).map (token :: ·) := by
  cases rest with
  | nil => exact finishes
  | cons c later =>
    rw [lex, lex, ends c (delimited c rfl)]
    unfold endBefore step
    cases start c with
    | none => rfl
    | some begun =>
      obtain ⟨tokens, next⟩ := begun
      change (lex next later).map ((token :: tokens) ++ ·) =
        ((lex next later).map (tokens ++ ·)).map (token :: ·)
      rw [Option.map_map]
      rfl

theorem isNumberChar_of_digit (digit : isDigit c = true) : isNumberChar c = true := by
  rw [isNumberChar, digit]
  rfl

theorem isNumberChar_of_exponent (letter : isExponent c = true) : isNumberChar c = true := by
  rw [isNumberChar, letter, Bool.or_true]
  rfl

theorem isNumberChar_of_start (started : NumberState.start c = some s) : isNumberChar c = true := by
  rw [NumberState.start] at started
  split at started
  · rename_i minus
    rw [minus]
    rfl
  split at started
  · rename_i zero
    rw [zero]
    rfl
  split at started
  · rename_i digit
    exact isNumberChar_of_digit digit
  · cases started

theorem isNumberChar_of_afterInteger
    (read : NumberState.afterInteger c = some s) : isNumberChar c = true := by
  rw [NumberState.afterInteger] at read
  split at read
  · rename_i point
    rw [point]
    rfl
  split at read
  · rename_i letter
    exact isNumberChar_of_exponent letter
  · cases read

theorem isNumberChar_of_next {s t : NumberState} (read : s.next c = some t) :
    isNumberChar c = true := by
  have digits : ∀ {u : NumberState} {other : Option NumberState},
      (if isDigit c = true then some u else other) = some t →
      (other = some t → isNumberChar c = true) → isNumberChar c = true := by
    intro u other read otherwise
    split at read
    · rename_i digit
      exact isNumberChar_of_digit digit
    · exact otherwise read
  cases s <;> rw [NumberState.next] at read
  case minus =>
    split at read
    · rename_i zero
      rw [zero]
      rfl
    · exact digits read nofun
  case zero => exact isNumberChar_of_afterInteger read
  case digits => exact digits read isNumberChar_of_afterInteger
  case point | sign | exponentDigits => exact digits read nofun
  case fraction =>
    refine digits read fun other => ?_
    split at other
    · rename_i letter
      exact isNumberChar_of_exponent letter
    · cases other
  case exponent =>
    split at read
    · rename_i sign
      rcases sign with rfl | rfl
      all_goals rfl
    · exact digits read nofun

theorem isNumberChar_of_run {s t : NumberState} {chars : Text} (read : s.run chars = some t) :
    ∀ c ∈ chars, isNumberChar c = true := by
  induction chars generalizing s with
  | nil => exact nofun
  | cons c later ih =>
    rw [NumberState.run] at read
    obtain ⟨u, first, others⟩ := Option.bind_eq_some_iff.mp read
    intro d member
    rcases mem_cons.mp member with rfl | inside
    · exact isNumberChar_of_next first
    · exact ih others d inside

theorem isNumberChar_of_scan {s : NumberState} {t : Text} (read : NumberState.scan t = some s) :
    ∀ c ∈ t, isNumberChar c = true := by
  cases t with
  | nil => exact nofun
  | cons c later =>
    rw [NumberState.scan] at read
    obtain ⟨u, first, others⟩ := Option.bind_eq_some_iff.mp read
    intro d member
    rcases mem_cons.mp member with rfl | inside
    · exact isNumberChar_of_start first
    · exact isNumberChar_of_run others d inside

theorem Number.exists_scan (n : Number) : ∃ s, NumberState.scan n.text = some s := by
  obtain ⟨text, valid⟩ := n
  rw [validNumber] at valid
  cases read : NumberState.scan text with
  | none =>
    rw [read] at valid
    cases valid
  | some s => exact ⟨s, rfl⟩

theorem Number.isNumberChar (n : Number) : ∀ c ∈ n.text, isNumberChar c = true := by
  obtain ⟨s, read⟩ := n.exists_scan
  exact isNumberChar_of_scan read

theorem Number.exists_cons (n : Number) : ∃ c later, n.text = c :: later := by
  obtain ⟨s, read⟩ := n.exists_scan
  cases eq : n.text with
  | nil =>
    rw [eq] at read
    cases read
  | cons c later => exact ⟨c, later, rfl⟩

theorem start_numberChar (number : isNumberChar c = true) :
    Lexer.start c = some ([], .number [c]) := by
  have other : ∀ d, isNumberChar d = false → c ≠ d := by
    rintro d no rfl
    rw [number] at no
    cases no
  have blank : ¬isBlank c = true := by
    intro blank
    simp only [isBlank, Bool.or_eq_true, decide_eq_true_eq] at blank
    rcases blank with ((rfl | rfl) | rfl) | rfl
    all_goals cases number
  rw [start, if_neg blank, if_neg (other _ rfl), if_neg (other _ rfl),
    if_neg (other _ rfl), if_neg (other _ rfl), if_neg (other _ rfl), if_neg (other _ rfl),
    if_neg (other _ rfl), if_pos number]

theorem lex_numberChars (numbers : ∀ c ∈ chars, isNumberChar c = true) (read : Text) :
    lex (.number read) (chars ++ rest) = lex (.number (chars.reverse ++ read)) rest := by
  induction chars generalizing read with
  | nil => rfl
  | cons c later ih =>
    have step : Lexer.step c (.number read) = some ([], .number (c :: read)) := by
      rw [Lexer.step, if_pos (numbers c mem_cons_self)]
    rw [cons_append, lex_quiet step, ih (fun d member => numbers d (mem_cons_of_mem c member)),
      reverse_cons, append_assoc, singleton_append]

theorem lex_number (delimited : Delimited rest) :
    lex .idle (n.text ++ rest) = (lex .idle rest).map (.num n :: ·) := by
  obtain ⟨c, later, eq⟩ := n.exists_cons
  have numbers := n.isNumberChar
  have token : numberToken n.text = some (.num n) := dif_pos n.valid
  have begun : step c .idle = some ([], .number [c]) :=
    start_numberChar (numbers c (by rw [eq]; exact mem_cons_self))
  have read : (later.reverse ++ [c]).reverse = n.text := by
    rw [reverse_append, reverse_reverse, eq]
    rfl
  rw [eq, cons_append, lex_quiet begun, lex_numberChars]
  · refine lex_ends ?_ ?_ delimited
    · rw [finish, read, token]
      rfl
    · intro d member
      have no : ¬isNumberChar d = true := by
        have all : (delimiters.all fun d => ¬isNumberChar d = true) = true := by decide
        exact of_decide_eq_true (all_eq_true.mp all d member)
      rw [step, if_neg no, read, token]
  · intro d member
    exact numbers d (by rw [eq]; exact mem_cons_of_mem c member)

theorem lex_word (word : wordToken chars.reverse = some token) (delimited : Delimited rest) :
    lex (.word chars) rest = (lex .idle rest).map (token :: ·) := by
  refine lex_ends ?_ ?_ delimited
  · rw [finish, word]
    rfl
  intro d member
  have no : ¬d.isLower = true := by
    have all : (delimiters.all fun d => ¬d.isLower = true) = true := by decide
    exact of_decide_eq_true (all_eq_true.mp all d member)
  rw [step, if_neg no, word]

/-! ## Tokens -/

/-- Tokens whose end only the next character shows. -/
def Token.bare : Token → Bool
  | .num _ => true
  | .null => true
  | .bool _ => true
  | _ => false

theorem lex_token (delimited : token.bare = true → Delimited rest) :
    lex .idle (token.text ++ rest) = (lex .idle rest).map (token :: ·) := by
  cases token with
  | openObj => rfl
  | closeObj => rfl
  | openArr => rfl
  | closeArr => rfl
  | colon => rfl
  | comma => rfl
  | str t => exact lex_quoted
  | num n => exact lex_number (delimited rfl)
  | null =>
    have letters : lex .idle (Token.null.text ++ rest) = lex (.word ['l', 'l', 'u', 'n']) rest :=
      (lex_quiet rfl).trans ((lex_quiet rfl).trans ((lex_quiet rfl).trans (lex_quiet rfl)))
    rw [letters]
    exact lex_word rfl (delimited rfl)
  | bool b =>
    cases b with
    | true =>
      have letters : lex .idle ((Token.bool true).text ++ rest) =
          lex (.word ['e', 'u', 'r', 't']) rest :=
        (lex_quiet rfl).trans ((lex_quiet rfl).trans ((lex_quiet rfl).trans (lex_quiet rfl)))
      rw [letters]
      exact lex_word rfl (delimited rfl)
    | false =>
      have letters : lex .idle ((Token.bool false).text ++ rest) =
          lex (.word ['e', 's', 'l', 'a', 'f']) rest :=
        (lex_quiet rfl).trans ((lex_quiet rfl).trans ((lex_quiet rfl).trans
          ((lex_quiet rfl).trans (lex_quiet rfl))))
      rw [letters]
      exact lex_word rfl (delimited rfl)

/-- No two bare tokens stand side by side. -/
def Separated : List Token → Prop
  | [] => True
  | token :: rest => (token.bare = true → ∀ next ∈ rest.head?, next.bare = false) ∧ Separated rest

theorem delimited_of_not_bare {tokens : List Token}
    (punctuated : ∀ next ∈ tokens.head?, next.bare = false) :
    Delimited (tokens.flatMap Token.text) := by
  cases tokens with
  | nil => exact nofun
  | cons token later =>
    have plain := punctuated token rfl
    rw [flatMap_cons]
    intro c first
    cases token with
    | num n | null | bool b => cases plain
    | openObj | closeObj | openArr | closeArr | colon | comma | str t => cases first; decide

theorem lex_tokens {tokens : List Token} (separated : Separated tokens) :
    lex .idle (tokens.flatMap Token.text) = some tokens := by
  induction tokens with
  | nil => rfl
  | cons token later ih =>
    rw [flatMap_cons, lex_token fun bare =>
      delimited_of_not_bare (separated.1 bare), ih separated.2]
    rfl

/-! ## Values -/

/-- What may follow a value. -/
def Follows (tokens : List Token) : Prop :=
  (∀ next ∈ tokens.head?, next.bare = false) ∧ Separated tokens

theorem follows_punctuation {tokens : List Token} (plain : token.bare = false)
    (separated : Separated tokens) : Follows (token :: tokens) := by
  constructor
  · intro next first
    cases first
    exact plain
  · refine ⟨fun bare => ?_, separated⟩
    rw [plain] at bare
    cases bare

mutual

theorem separated_tokens (v : Value) {tokens : List Token} (follows : Follows tokens) :
    Separated (v.tokens ++ tokens) := by
  have closed : ∀ {close : Token}, close.bare = false → Follows (close :: tokens) :=
    fun plain => follows_punctuation plain follows.2
  match v with
  | .null | .bool b | .num n => exact ⟨fun _ => follows.1, follows.2⟩
  | .str t => exact ⟨nofun, follows.2⟩
  | .arr [] | .obj [] => exact ⟨nofun, (closed rfl).2⟩
  | .arr (v :: rest) =>
    refine ⟨nofun, ?_⟩
    rw [append_eq, append_assoc, append_assoc]
    exact separated_tokens v (follows_moreItems (closed rfl))
  | .obj ((name, v) :: rest) =>
    refine ⟨nofun, nofun, nofun, ?_⟩
    rw [append_eq, append_assoc, append_assoc]
    exact separated_tokens v (follows_moreMembers (closed rfl))
termination_by structural v

theorem follows_moreItems {tokens : List Token} (follows : Follows tokens) :
    Follows (moreItems items ++ tokens) := by
  match items with
  | [] => exact follows
  | v :: rest =>
    rw [moreItems, cons_append, append_assoc]
    exact follows_punctuation rfl (separated_tokens v (follows_moreItems follows))
termination_by structural items

theorem follows_moreMembers {tokens : List Token}
    (follows : Follows tokens) : Follows (moreMembers members ++ tokens) := by
  match members with
  | [] => exact follows
  | (name, v) :: rest =>
    rw [moreMembers, cons_append, cons_append, cons_append, append_assoc]
    refine follows_punctuation rfl ⟨nofun, nofun, ?_⟩
    exact separated_tokens v (follows_moreMembers follows)
termination_by structural members

end

theorem lex_write : lex .idle (write v) = some v.tokens := by
  have separated := separated_tokens v (show Follows [] from ⟨nofun, trivial⟩)
  rw [append_nil] at separated
  exact lex_tokens separated

theorem parse_begin {tokens : List Token}
    (stepped : p.step token = some q) : parse p (token :: tokens) = parse q tokens := by
  rw [parse, stepped]
  rfl

theorem step_firstItem (opens : token ≠ .closeArr) :
    Parser.step ⟨.firstItem, stack⟩ token = Parser.begin stack token := by
  cases stack with
  | nil => rfl
  | cons frame rest =>
    cases frame with
    | obj members name => rfl
    | arr items =>
      cases token with
      | closeArr => exact absurd rfl opens
      | _ => rfl

theorem parse_firstItem (v : Value) {tokens : List Token} :
    parse ⟨.firstItem, stack⟩ (v.tokens ++ tokens) =
      parse ⟨.value, stack⟩ (v.tokens ++ tokens) := by
  have first : ∃ token later, v.tokens = token :: later ∧ token ≠ .closeArr := by
    match v with
    | .null | .bool b | .num n | .str t | .arr [] | .arr (v :: rest) | .obj []
    | .obj ((name, v) :: rest) => exact ⟨_, _, rfl, nofun⟩
  obtain ⟨_, _, eq, opens⟩ := first
  rw [eq, cons_append, parse, step_firstItem opens]
  rfl

theorem step_openArr (room : stack.length < maxNestingDepth) :
    Parser.step ⟨.value, stack⟩ .openArr = some ⟨.firstItem, .arr [] :: stack⟩ :=
  if_pos room

theorem step_openObj (room : stack.length < maxNestingDepth) :
    Parser.step ⟨.value, stack⟩ .openObj = some ⟨.firstName, .obj [] [] :: stack⟩ :=
  if_pos room

mutual

theorem parse_tokens {tokens : List Token} (shallow : stack.length + v.depth ≤ maxNestingDepth) :
    parse ⟨.value, stack⟩ (v.tokens ++ tokens) = parse (Parser.complete v stack) tokens := by
  match v with
  | .null | .bool b | .num n | .str t => exact parse_begin rfl
  | .arr [] =>
    rw [depth] at shallow
    have room : stack.length < maxNestingDepth := by omega
    exact (parse_begin (step_openArr room)).trans (parse_begin rfl)
  | .arr (v :: rest) =>
    rw [depth, itemsDepth] at shallow
    have room : stack.length < maxNestingDepth := by omega
    have first : (Frame.arr [] :: stack).length + v.depth ≤ maxNestingDepth := by
      rw [length_cons]
      omega
    have others : stack.length + 1 + itemsDepth rest ≤ maxNestingDepth := by omega
    rw [Value.tokens, cons_append, parse_begin (step_openArr room), append_assoc,
      append_assoc, parse_firstItem, parse_tokens first]
    exact parse_moreItems rest [v] tokens others
  | .obj [] =>
    rw [depth] at shallow
    have room : stack.length < maxNestingDepth := by omega
    exact (parse_begin (step_openObj room)).trans (parse_begin rfl)
  | .obj ((name, v) :: rest) =>
    rw [depth, membersDepth] at shallow
    have room : stack.length < maxNestingDepth := by omega
    have first : (Frame.obj [] name :: stack).length + v.depth ≤ maxNestingDepth := by
      rw [length_cons]
      omega
    have others : stack.length + 1 + membersDepth rest ≤ maxNestingDepth := by omega
    rw [Value.tokens, cons_append, parse_begin (step_openObj room), cons_append,
      parse_begin (q := ⟨.colon, .obj [] name :: stack⟩) rfl, cons_append,
      parse_begin (q := ⟨.value, .obj [] name :: stack⟩) rfl, append_assoc,
      append_assoc, parse_tokens first]
    exact parse_moreMembers tokens others
termination_by structural v

theorem parse_moreItems (items done : List Value) (tokens : List Token)
    (shallow : stack.length + 1 + itemsDepth items ≤ maxNestingDepth) :
    parse ⟨.next, .arr done :: stack⟩ (moreItems items ++ (.closeArr :: tokens)) =
      parse (Parser.complete (.arr (done ++ items)) stack) tokens := by
  match items with
  | [] =>
    rw [append_nil]
    exact parse_begin rfl
  | v :: rest =>
    rw [itemsDepth] at shallow
    have first : (Frame.arr done :: stack).length + v.depth ≤ maxNestingDepth := by
      rw [length_cons]
      omega
    rw [moreItems, cons_append, parse_begin (q := ⟨.value, .arr done :: stack⟩) rfl,
      append_assoc, parse_tokens first]
    have next := parse_moreItems rest (done ++ [v]) tokens
      (show stack.length + 1 + itemsDepth rest ≤ maxNestingDepth by omega)
    rw [append_assoc, singleton_append] at next
    exact next
termination_by structural items

theorem parse_moreMembers (tokens : List Token)
    (shallow : stack.length + 1 + membersDepth members ≤ maxNestingDepth) :
    parse ⟨.next, .obj done name :: stack⟩ (moreMembers members ++ (.closeObj :: tokens)) =
      parse (Parser.complete (.obj (done ++ members)) stack) tokens := by
  match members with
  | [] =>
    rw [append_nil]
    exact parse_begin rfl
  | (new, v) :: rest =>
    rw [membersDepth] at shallow
    have first : (Frame.obj done new :: stack).length + v.depth ≤ maxNestingDepth := by
      rw [length_cons]
      omega
    rw [moreMembers, cons_append, parse_begin (q := ⟨.name, .obj done name :: stack⟩) rfl,
      cons_append, parse_begin (q := ⟨.colon, .obj done new :: stack⟩) rfl, cons_append,
      parse_begin (q := ⟨.value, .obj done new :: stack⟩) rfl, append_assoc, parse_tokens first]
    refine (parse_moreMembers tokens ?_).trans ?_
    · omega
    · rw [append_assoc, singleton_append]
termination_by structural members

end

theorem read_write (shallow : v.depth ≤ maxNestingDepth) : read (write v) = some v := by
  have whole : parse ⟨.value, []⟩ (v.tokens ++ []) = parse (Parser.complete v []) [] :=
    parse_tokens (by rw [length_nil]; omega)
  rw [read, lex_write, Option.bind_some, ← append_nil v.tokens, whole]
  rfl

/-! ## The characters of a text -/

theorem printed_of_isNumberChar (number : isNumberChar c = true) : 0x20 ≤ c.toNat := by
  by_contra control
  have all : ∀ n < 0x20, isNumberChar (Char.ofNat n) = false := by decide
  have no := all c.toNat (Nat.not_le.mp control)
  rw [Char.ofNat_toNat, number] at no
  cases no

theorem printed_hex4 : ∀ d ∈ hex4 n, 0x20 ≤ d.toNat := by
  have digits : ∀ m < 16, 0x20 ≤ (Nat.digitChar m).toNat := by decide
  intro d member
  simp only [hex4, mem_cons, not_mem_nil, or_false] at member
  rcases member with rfl | rfl | rfl | rfl
  all_goals exact digits _ (Nat.mod_lt _ (by decide))

theorem printed_escapeChar : ∀ d ∈ escapeChar c, 0x20 ≤ d.toNat := by
  rw [escapeChar]
  cases found : shortEscapes.lookup c with
  | some letter =>
    obtain ⟨before, _, eq, _⟩ := lookup_eq_some_iff.mp found
    have all : ∀ e ∈ shortEscapes, 0x20 ≤ e.2.toNat := by decide
    have printed : 0x20 ≤ letter.toNat := by
      refine all (c, letter) ?_
      rw [eq]
      exact mem_append_right before mem_cons_self
    intro d member
    simp only [mem_cons, not_mem_nil, or_false] at member
    rcases member with rfl | rfl
    · decide
    · exact printed
  | none =>
    by_cases needs : needsCode c = true
    · simp only [needs, if_true]
      intro d member
      rcases mem_cons.mp member with rfl | later
      · decide
      · rcases mem_cons.mp later with rfl | digit
        · decide
        · exact printed_hex4 d digit
    · simp only [needs, Bool.false_eq_true, if_false]
      intro d member
      rw [mem_singleton.mp member]
      by_contra control
      apply needs
      rw [needsCode, decide_eq_true (Nat.not_le.mp control)]
      rfl

theorem printed_token (token : Token) : ∀ d ∈ token.text, 0x20 ≤ d.toNat := by
  cases token with
  | str t =>
    intro d member
    rw [text, quoted] at member
    rcases mem_cons.mp member with rfl | later
    · decide
    rcases mem_append.mp later with inside | last
    · obtain ⟨c, _, escaped⟩ := mem_flatMap.mp inside
      exact printed_escapeChar d escaped
    · rw [mem_singleton.mp last]
      decide
  | num n => exact fun d member => printed_of_isNumberChar (n.isNumberChar d member)
  | bool b => cases b <;> simp [text]
  | null | openObj | closeObj | openArr | closeArr | colon | comma => simp [text]

/-- A written text has no control character, so it is one line. -/
theorem printed_write (v : Value) : ∀ d ∈ write v, 0x20 ≤ d.toNat := by
  intro d member
  obtain ⟨token, _, inside⟩ := mem_flatMap.mp member
  exact printed_token token d inside

theorem write_obj (members : List (Text × Value)) :
    ∃ inside, write (.obj members) = '{' :: (inside ++ ['}']) := by
  have last : ∃ tokens, (obj members).tokens = .openObj :: (tokens ++ [.closeObj]) := by
    cases members with
    | nil => exact ⟨[], rfl⟩
    | cons first rest =>
      obtain ⟨name, v⟩ := first
      refine ⟨.str name :: .colon :: (v.tokens ++ moreMembers rest), ?_⟩
      rw [Value.tokens, cons_append, cons_append, append_assoc]
  obtain ⟨tokens, eq⟩ := last
  refine ⟨tokens.flatMap text, ?_⟩
  rw [write, eq, flatMap_cons, flatMap_append]
  rfl

end NeonDoll.Lib.Json
