import Mustache.Data.Toml.Scan
/-!
The four kinds of strings of TOML documents. Basic strings have escapes and literal ones do not;
either can span lines between tripled quotes, in which case an end of line directly behind the
opening quotes is left out and every other one counts as a single character.
-/
namespace Mustache.Toml.Text

/-- The character of a code point, which must be a Unicode scalar value. -/
def scalar? (n : Nat) : Option Char :=
  if n < 0xD800 ∨ (0xDFFF < n ∧ n < 0x110000) then some (Char.ofNat n) else none

/-- The value of hexadecimal digits. -/
def hex? (cs : List Char) : Option Nat :=
  cs.foldlM (fun n c =>
    if c.isDigit then some (16 * n + (c.toNat - '0'.toNat))
    else if 'a' ≤ c ∧ c ≤ 'f' then some (16 * n + (c.toNat - 'a'.toNat + 10))
    else if 'A' ≤ c ∧ c ≤ 'F' then some (16 * n + (c.toNat - 'A'.toNat + 10))
    else none) 0

/-- The character an escape of one letter stands for. -/
def escaped? : Char → Option Char
  | 'b' => some (Char.ofNat 8)
  | 't' => some '\t'
  | 'n' => some '\n'
  | 'f' => some (Char.ofNat 12)
  | 'r' => some '\r'
  | '\"' => some '\"'
  | '\\' => some '\\'
  | _ => none

/-- The text of characters given last first. -/
def ofBack (back : List Char) : String := String.ofList back.reverse

/-- A basic string within a line, behind its opening quote. -/
def basic? (back : List Char) : List Char → Option (String × List Char)
  | '\"' :: rest => some (ofBack back, rest)
  | '\\' :: 'u' :: a :: b :: c :: d :: rest => do
    basic? ((← scalar? (← hex? [a, b, c, d])) :: back) rest
  | '\\' :: 'U' :: a :: b :: c :: d :: e :: f :: g :: h :: rest => do
    basic? ((← scalar? (← hex? [a, b, c, d, e, f, g, h])) :: back) rest
  | '\\' :: c :: rest => do basic? ((← escaped? c) :: back) rest
  | c :: rest => if c ≠ '\\' ∧ Scan.isPlain c then basic? (c :: back) rest else none
  | [] => none

/-- A literal string within a line, behind its opening quote. -/
def literal? (back : List Char) : List Char → Option (String × List Char)
  | '\'' :: rest => some (ofBack back, rest)
  | c :: rest => if Scan.isPlain c then literal? (c :: back) rest else none
  | [] => none

/-- The end of a text between tripled quotes, behind three of them: up to two more quotes still
belong to the text. -/
def closing (quote : Char) (back : List Char) : List Char → String × List Char
  | c :: d :: rest =>
    if c = quote ∧ d = quote then (ofBack (d :: c :: back), rest)
    else if c = quote then (ofBack (c :: back), d :: rest)
    else (ofBack back, c :: d :: rest)
  | [c] => if c = quote then (ofBack (c :: back), []) else (ofBack back, [c])
  | [] => (ofBack back, [])

/-- Whether only blanks stand before the end of the line. -/
def endsLine (cs : List Char) : Bool :=
  match cs.dropWhile Scan.isBlank with
  | '\n' :: _ | '\r' :: '\n' :: _ => true
  | _ => false

/-- A basic string of several lines, behind its opening quotes. While `trimming`, blanks and ends of
lines are skipped, which a backslash at the end of a line asks for. -/
def basicLines? (trimming : Bool) (back : List Char) : List Char → Option (String × List Char)
  | '\"' :: '\"' :: '\"' :: rest => some (closing '\"' back rest)
  | '\r' :: '\n' :: rest | '\n' :: rest =>
    basicLines? trimming (if trimming then back else '\n' :: back) rest
  | '\\' :: 'u' :: a :: b :: c :: d :: rest => do
    basicLines? false ((← scalar? (← hex? [a, b, c, d])) :: back) rest
  | '\\' :: 'U' :: a :: b :: c :: d :: e :: f :: g :: h :: rest => do
    basicLines? false ((← scalar? (← hex? [a, b, c, d, e, f, g, h])) :: back) rest
  | '\\' :: c :: rest =>
    if endsLine (c :: rest) then basicLines? true back rest
    else (escaped? c).bind fun x => basicLines? false (x :: back) rest
  | c :: rest =>
    if c = '\\' ∨ !Scan.isPlain c then none
    else if trimming && Scan.isBlank c then basicLines? true back rest
    else basicLines? false (c :: back) rest
  | [] => none

/-- A literal string of several lines, behind its opening quotes. -/
def literalLines? (back : List Char) : List Char → Option (String × List Char)
  | '\'' :: '\'' :: '\'' :: rest => some (closing '\'' back rest)
  | '\r' :: '\n' :: rest | '\n' :: rest => literalLines? ('\n' :: back) rest
  | c :: rest => if Scan.isPlain c then literalLines? (c :: back) rest else none
  | [] => none

/-- A text without an end of line at its start. -/
def afterNewline : List Char → List Char
  | '\n' :: rest | '\r' :: '\n' :: rest => rest
  | cs => cs

/-- A string of any kind. -/
def any : Scan String := fun cs =>
  match cs with
  | '\"' :: '\"' :: '\"' :: rest => basicLines? false [] (afterNewline rest)
  | '\"' :: rest => basic? [] rest
  | '\'' :: '\'' :: '\'' :: rest => literalLines? [] (afterNewline rest)
  | '\'' :: rest => literal? [] rest
  | _ => none

/-- Whether a character can stand in a key without quotes. -/
def isBare (c : Char) : Bool := c.isAlphanum || c == '_' || c == '-'

/-- One part of a key. -/
def keyPart : Scan String := fun cs =>
  match cs with
  | '\"' :: rest => basic? [] rest
  | '\'' :: rest => literal? [] rest
  | _ =>
    match cs.takeWhile isBare with
    | [] => none
    | part => some (String.ofList part, cs.dropWhile isBare)

end Mustache.Toml.Text
