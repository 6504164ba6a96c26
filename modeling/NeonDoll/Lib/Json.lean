import NeonDoll.Lib.Numeral

/-!
# JSON texts

Values, their compact text, and the reading of texts.  A text is read in two passes: one
character after the other into tokens, and one token after the other into a value, with the
open arrays and objects on a stack.
-/

namespace NeonDoll.Lib.Json

open Text

/-! ## Numbers -/

def isDigit (c : Char) : Bool := digitValue c < 10

def isExponent (c : Char) : Bool := c = 'e' || c = 'E'

/-- How far a number has been read. -/
inductive NumberState where
  | minus
  | zero
  | digits
  | point
  | fraction
  | exponent
  | sign
  | exponentDigits
  deriving DecidableEq

namespace NumberState

def start (c : Char) : Option NumberState :=
  if c = '-' then some .minus
  else if c = '0' then some .zero
  else if isDigit c then some .digits
  else none

/-- The state after the integer part. -/
def afterInteger (c : Char) : Option NumberState :=
  if c = '.' then some .point else if isExponent c then some .exponent else none

def next (c : Char) : NumberState → Option NumberState
  | .minus => if c = '0' then some .zero else if isDigit c then some .digits else none
  | .zero => afterInteger c
  | .digits => if isDigit c then some .digits else afterInteger c
  | .point => if isDigit c then some .fraction else none
  | .fraction =>
    if isDigit c then some .fraction else if isExponent c then some .exponent else none
  | .exponent =>
    if c = '+' ∨ c = '-' then some .sign else if isDigit c then some .exponentDigits else none
  | .sign => if isDigit c then some .exponentDigits else none
  | .exponentDigits => if isDigit c then some .exponentDigits else none

def complete : NumberState → Bool
  | .zero => true
  | .digits => true
  | .fraction => true
  | .exponentDigits => true
  | _ => false

def run : NumberState → Text → Option NumberState
  | s, [] => some s
  | s, c :: rest => (s.next c).bind fun t => t.run rest

end NumberState

/-- The state after a whole text. -/
def NumberState.scan : Text → Option NumberState
  | [] => none
  | c :: rest => (NumberState.start c).bind fun s => s.run rest

def validNumber (t : Text) : Bool :=
  match NumberState.scan t with
  | none => false
  | some s => s.complete

/-- A number as it is written. -/
structure Number where
  text : Text
  valid : validNumber text = true
  deriving DecidableEq

def isNumberChar (c : Char) : Bool :=
  isDigit c || isExponent c || c = '-' || c = '+' || c = '.'

/-! ## Values -/

inductive Value where
  | null
  | bool (b : Bool)
  | num (n : Number)
  | str (t : Text)
  | arr (items : List Value)
  | obj (members : List (Text × Value))

inductive Token where
  | openObj
  | closeObj
  | openArr
  | closeArr
  | colon
  | comma
  | str (t : Text)
  | num (n : Number)
  | null
  | bool (b : Bool)
  deriving DecidableEq

mutual

def Value.tokens : Value → List Token
  | .null => [.null]
  | .bool b => [.bool b]
  | .num n => [.num n]
  | .str t => [.str t]
  | .arr [] => [.openArr, .closeArr]
  | .arr (v :: rest) => .openArr :: (v.tokens ++ (moreItems rest ++ [.closeArr]))
  | .obj [] => [.openObj, .closeObj]
  | .obj ((name, v) :: rest) =>
    .openObj :: .str name :: .colon :: (v.tokens ++ (moreMembers rest ++ [.closeObj]))
termination_by structural v => v

def moreItems : List Value → List Token
  | [] => []
  | v :: rest => .comma :: (v.tokens ++ moreItems rest)
termination_by structural items => items

def moreMembers : List (Text × Value) → List Token
  | [] => []
  | (name, v) :: rest => .comma :: .str name :: .colon :: (v.tokens ++ moreMembers rest)
termination_by structural members => members

end

mutual

def Value.depth : Value → Nat
  | .arr items => itemsDepth items + 1
  | .obj members => membersDepth members + 1
  | .null => 0
  | .bool _ => 0
  | .num _ => 0
  | .str _ => 0
termination_by structural v => v

def itemsDepth : List Value → Nat
  | [] => 0
  | v :: rest => max v.depth (itemsDepth rest)
termination_by structural items => items

def membersDepth : List (Text × Value) → Nat
  | [] => 0
  | (_, v) :: rest => max v.depth (membersDepth rest)
termination_by structural members => members

end

/-! ## Writing -/

def hex4 (n : Nat) : Text :=
  [(n / 4096 % 16).digitChar, (n / 256 % 16).digitChar, (n / 16 % 16).digitChar,
    (n % 16).digitChar]

/-- The characters with a short escape, with its letter. -/
def shortEscapes : List (Char × Char) :=
  [('"', '"'), ('\\', '\\'), ('\x08', 'b'), ('\x0c', 'f'), ('\n', 'n'), ('\r', 'r'), ('\t', 't')]

/-- The characters that are written as a code: the other control characters, the ones that
have a meaning in HTML, and the two line separators. -/
def needsCode (c : Char) : Bool :=
  c.toNat < 0x20 || c = '<' || c = '>' || c = '&' || c.toNat = 0x2028 || c.toNat = 0x2029

def escapeChar (c : Char) : Text :=
  match shortEscapes.lookup c with
  | some letter => ['\\', letter]
  | none => if needsCode c then '\\' :: 'u' :: hex4 c.toNat else [c]

def quoted (t : Text) : Text := '"' :: (t.flatMap escapeChar ++ ['"'])

def Token.text : Token → Text
  | .openObj => ['{']
  | .closeObj => ['}']
  | .openArr => ['[']
  | .closeArr => [']']
  | .colon => [':']
  | .comma => [',']
  | .str t => quoted t
  | .num n => n.text
  | .null => ['n', 'u', 'l', 'l']
  | .bool true => ['t', 'r', 'u', 'e']
  | .bool false => ['f', 'a', 'l', 's', 'e']

/-- `Marshal`: the text without any space. -/
def write (v : Value) : Text := v.tokens.flatMap Token.text

/-! ## Reading -/

/-- A part of a string: a character, or the code of an escape. -/
inductive Piece where
  | char (c : Char)
  | code (n : Nat)
  deriving DecidableEq

def isSurrogate (n : Nat) : Bool := 0xd800 ≤ n && n < 0xe000

/-- Two codes that stand for one character. -/
def isPair (high low : Nat) : Bool :=
  0xd800 ≤ high && high < 0xdc00 && 0xdc00 ≤ low && low < 0xe000

def replacement : Char := Char.ofNat 0xfffd

/-- Surrogates are read in pairs; a single one is replaced. -/
def joinPieces : List Piece → Text
  | [] => []
  | .char c :: rest => c :: joinPieces rest
  | .code n :: rest =>
    if isSurrogate n then
      match rest with
      | .code m :: later =>
        if isPair n m then
          Char.ofNat (0x10000 + (n - 0xd800) * 0x400 + (m - 0xdc00)) :: joinPieces later
        else replacement :: joinPieces (.code m :: later)
      | other => replacement :: joinPieces other
    else Char.ofNat n :: joinPieces rest

/-- What is being read.  The characters and pieces read last come first. -/
inductive Lexer where
  | idle
  | string (pieces : List Piece)
  | escape (pieces : List Piece)
  | code (pieces : List Piece) (digits : Text)
  | number (chars : Text)
  | word (chars : Text)
  deriving DecidableEq

/-- The character of a short escape; the slash may be escaped too. -/
def unescape (letter : Char) : Option Char :=
  ((('/', '/') :: shortEscapes).map Prod.swap).lookup letter

def isBlank (c : Char) : Bool := c = ' ' || c = '\t' || c = '\n' || c = '\r'

def hexValue (digits : Text) : Nat := digits.foldl (fun n c => n * 16 + digitValue c.toLower) 0

def numberToken (chars : Text) : Option Token :=
  if h : validNumber chars = true then some (.num ⟨chars, h⟩) else none

def wordToken (chars : Text) : Option Token :=
  if chars = ['n', 'u', 'l', 'l'] then some .null
  else if chars = ['t', 'r', 'u', 'e'] then some (.bool true)
  else if chars = ['f', 'a', 'l', 's', 'e'] then some (.bool false)
  else none

/-- A character between tokens. -/
def Lexer.start (c : Char) : Option (List Token × Lexer) :=
  if isBlank c then some ([], .idle)
  else if c = '{' then some ([.openObj], .idle)
  else if c = '}' then some ([.closeObj], .idle)
  else if c = '[' then some ([.openArr], .idle)
  else if c = ']' then some ([.closeArr], .idle)
  else if c = ':' then some ([.colon], .idle)
  else if c = ',' then some ([.comma], .idle)
  else if c = '"' then some ([], .string [])
  else if isNumberChar c then some ([], .number [c])
  else if c.isLower then some ([], .word [c])
  else none

/-- A token that ends before the character `c`. -/
def Lexer.endBefore (c : Char) (token? : Option Token) : Option (List Token × Lexer) :=
  match token?, Lexer.start c with
  | some token, some (tokens, next) => some (token :: tokens, next)
  | _, _ => none

def Lexer.step (c : Char) : Lexer → Option (List Token × Lexer)
  | .idle => Lexer.start c
  | .string pieces =>
    if c = '"' then some ([.str (joinPieces pieces.reverse)], .idle)
    else if c = '\\' then some ([], .escape pieces)
    else if c.toNat < 0x20 then none
    else some ([], .string (.char c :: pieces))
  | .escape pieces =>
    if c = 'u' then some ([], .code pieces [])
    else (unescape c).map fun e => ([], .string (.char e :: pieces))
  | .code pieces digits =>
    if digitValue c.toLower < 16 then
      if digits.length = 3 then
        some ([], .string (.code (hexValue (digits ++ [c])) :: pieces))
      else some ([], .code pieces (digits ++ [c]))
    else none
  | .number chars =>
    if isNumberChar c then some ([], .number (c :: chars))
    else Lexer.endBefore c (numberToken chars.reverse)
  | .word chars =>
    if c.isLower then some ([], .word (c :: chars))
    else Lexer.endBefore c (wordToken chars.reverse)

def Lexer.finish : Lexer → Option (List Token)
  | .idle => some []
  | .number chars => (numberToken chars.reverse).map fun t => [t]
  | .word chars => (wordToken chars.reverse).map fun t => [t]
  | _ => none

def lex : Lexer → Text → Option (List Token)
  | l, [] => l.finish
  | l, c :: rest =>
    match l.step c with
    | none => none
    | some (tokens, next) => (lex next rest).map (tokens ++ ·)

/-- An open array or object; an object holds the name of the member that is being read. -/
inductive Frame where
  | arr (items : List Value)
  | obj (members : List (Text × Value)) (name : Text)

inductive Expect where
  | value
  | firstItem
  | firstName
  | name
  | colon
  | next
  | done (v : Value)

structure Parser where
  expect : Expect
  stack : List Frame

def maxNestingDepth : Nat := 10000

/-- A value has been read. -/
def Parser.complete (v : Value) : List Frame → Parser
  | [] => ⟨.done v, []⟩
  | .arr items :: rest => ⟨.next, .arr (items ++ [v]) :: rest⟩
  | .obj members name :: rest => ⟨.next, .obj (members ++ [(name, v)]) [] :: rest⟩

/-- The first token of a value. -/
def Parser.begin (stack : List Frame) : Token → Option Parser
  | .null => some (Parser.complete .null stack)
  | .bool b => some (Parser.complete (.bool b) stack)
  | .num n => some (Parser.complete (.num n) stack)
  | .str t => some (Parser.complete (.str t) stack)
  | .openArr =>
    if stack.length < maxNestingDepth then some ⟨.firstItem, .arr [] :: stack⟩ else none
  | .openObj =>
    if stack.length < maxNestingDepth then some ⟨.firstName, .obj [] [] :: stack⟩ else none
  | _ => none

def Parser.step : Parser → Token → Option Parser
  | ⟨.value, stack⟩, token => Parser.begin stack token
  | ⟨.firstItem, .arr items :: rest⟩, .closeArr => some (Parser.complete (.arr items) rest)
  | ⟨.firstItem, stack⟩, token => Parser.begin stack token
  | ⟨.firstName, .obj members _ :: rest⟩, .closeObj => some (Parser.complete (.obj members) rest)
  | ⟨.firstName, .obj members _ :: rest⟩, .str name => some ⟨.colon, .obj members name :: rest⟩
  | ⟨.name, .obj members _ :: rest⟩, .str name => some ⟨.colon, .obj members name :: rest⟩
  | ⟨.colon, stack⟩, .colon => some ⟨.value, stack⟩
  | ⟨.next, .arr items :: rest⟩, .comma => some ⟨.value, .arr items :: rest⟩
  | ⟨.next, .arr items :: rest⟩, .closeArr => some (Parser.complete (.arr items) rest)
  | ⟨.next, .obj members name :: rest⟩, .comma => some ⟨.name, .obj members name :: rest⟩
  | ⟨.next, .obj members _ :: rest⟩, .closeObj => some (Parser.complete (.obj members) rest)
  | _, _ => none

def parse : Parser → List Token → Option Value
  | ⟨.done v, _⟩, [] => some v
  | _, [] => none
  | p, token :: rest => (p.step token).bind fun q => parse q rest

/-- The value of a text, `none` if it is no JSON text. -/
def read (t : Text) : Option Value := (lex .idle t).bind (parse ⟨.value, []⟩)

end NeonDoll.Lib.Json
