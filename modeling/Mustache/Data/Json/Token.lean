import Mustache.Data.Json.Number
/-!
The tokens of JSON texts, read one character at a time.
-/
namespace Mustache.Json

/-- A token: punctuation, a string, or a word that stands for a value of its own. -/
inductive Token where
  | openArray
  | closeArray
  | openObject
  | closeObject
  | comma
  | colon
  | string (s : String)
  | scalar (v : Value)

/-- How far a `\u` escape has been read. -/
inductive Escape where
  /-- So many digits and their value; the high surrogate before, if there was one. -/
  | digits (count value : Nat) (high : Option Nat)
  /-- A high surrogate, behind which another escape must follow. -/
  | afterHigh (high : Nat)
  /-- A high surrogate and a backslash. -/
  | afterHighSlash (high : Nat)

/-- What a lexer is in the middle of. -/
inductive Mode where
  | idle
  /-- A number or a name, last character first. -/
  | word (back : List Char)
  /-- A string, last character first. -/
  | string (back : List Char)
  /-- A backslash in a string. -/
  | slash (back : List Char)
  /-- A `\u` escape in a string. -/
  | escape (back : List Char) (state : Escape)

/-- A lexer: its mode and the tokens read, last first. -/
structure Lexer where
  mode : Mode
  tokens : List Token

/-- Whether a character is white space between tokens. -/
def isSpace (c : Char) : Bool := c == ' ' || c == '\n' || c == '\t' || c == '\r'

/-- Whether a character can be part of a number or a name. -/
def isWordChar (c : Char) : Bool := c.isAlphanum || c == '-' || c == '+' || c == '.'

/-- The value a word stands for. -/
def wordValue? (cs : List Char) : Option Value :=
  if cs = "null".toList then some .null
  else if cs = "true".toList then some (.bool true)
  else if cs = "false".toList then some (.bool false)
  else number? cs

/-- The character a one-letter escape stands for. -/
def escaped? : Char → Option Char
  | '\"' => some '\"'
  | '\\' => some '\\'
  | '/' => some '/'
  | 'b' => some (Char.ofNat 8)
  | 'f' => some (Char.ofNat 12)
  | 'n' => some '\n'
  | 'r' => some '\r'
  | 't' => some '\t'
  | _ => none

/-- The value of a hexadecimal digit. -/
def hexValue? (c : Char) : Option Nat :=
  if c.isDigit then some (c.toNat - '0'.toNat)
  else if 'a' ≤ c ∧ c ≤ 'f' then some (c.toNat - 'a'.toNat + 10)
  else if 'A' ≤ c ∧ c ≤ 'F' then some (c.toNat - 'A'.toNat + 10)
  else none

/-- What follows a complete `\u` escape: a surrogate counts only as one of a pair. -/
def endEscape? (back : List Char) (value : Nat) : Option Nat → Option Mode
  | some high =>
    if 0xDC00 ≤ value ∧ value ≤ 0xDFFF then
      some (.string (Char.ofNat (0x10000 + (high - 0xD800) * 0x400 + (value - 0xDC00)) :: back))
    else none
  | none =>
    if 0xDC00 ≤ value ∧ value ≤ 0xDFFF then none
    else if 0xD800 ≤ value ∧ value ≤ 0xDBFF then some (.escape back (.afterHigh value))
    else some (.string (Char.ofNat value :: back))

/-- Takes in one character of a `\u` escape. -/
def escapeStep? (back : List Char) (c : Char) : Escape → Option Mode
  | .digits count value high => do
    let digit ← hexValue? c
    let value := 16 * value + digit
    if count = 3 then endEscape? back value high
    else some (.escape back (.digits (count + 1) value high))
  | .afterHigh high => if c = '\\' then some (.escape back (.afterHighSlash high)) else none
  | .afterHighSlash high => if c = 'u' then some (.escape back (.digits 0 0 (some high))) else none

namespace Lexer

/-- A lexer before the first character. -/
def start : Lexer := ⟨.idle, []⟩

/-- Takes in a character between tokens. -/
def idleStep? (tokens : List Token) (c : Char) : Option Lexer :=
  if isSpace c then some ⟨.idle, tokens⟩
  else if isWordChar c then some ⟨.word [c], tokens⟩
  else match c with
    | '[' => some ⟨.idle, .openArray :: tokens⟩
    | ']' => some ⟨.idle, .closeArray :: tokens⟩
    | '\x7b' => some ⟨.idle, .openObject :: tokens⟩
    | '\x7d' => some ⟨.idle, .closeObject :: tokens⟩
    | ',' => some ⟨.idle, .comma :: tokens⟩
    | ':' => some ⟨.idle, .colon :: tokens⟩
    | '\"' => some ⟨.string [], tokens⟩
    | _ => none

/-- Takes in a character. -/
def step? (l : Lexer) (c : Char) : Option Lexer :=
  match l.mode with
  | .idle => idleStep? l.tokens c
  | .word back =>
    if isWordChar c then some ⟨.word (c :: back), l.tokens⟩
    else (wordValue? back.reverse).bind fun v => idleStep? (.scalar v :: l.tokens) c
  | .string back =>
    if c = '\"' then some ⟨.idle, .string (String.ofList back.reverse) :: l.tokens⟩
    else if c = '\\' then some ⟨.slash back, l.tokens⟩
    else if c.toNat < 0x20 then none
    else some ⟨.string (c :: back), l.tokens⟩
  | .slash back =>
    if c = 'u' then some ⟨.escape back (.digits 0 0 none), l.tokens⟩
    else (escaped? c).map fun x => ⟨.string (x :: back), l.tokens⟩
  | .escape back state => (escapeStep? back c state).map fun mode => ⟨mode, l.tokens⟩

/-- The tokens of a text that ends here. -/
def finish? (l : Lexer) : Option (List Token) :=
  match l.mode with
  | .idle => some l.tokens.reverse
  | .word back => (wordValue? back.reverse).map fun v => (Token.scalar v :: l.tokens).reverse
  | _ => none

end Lexer

/-- The tokens of a text. -/
def tokens? (text : String) : Option (List Token) :=
  (text.toList.foldlM Lexer.step? Lexer.start).bind Lexer.finish?

end Mustache.Json
