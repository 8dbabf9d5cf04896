/-!
Reading a TOML document from its characters: what has been read is taken off the front.
-/
namespace Mustache.Toml

/-- A step of reading; there is no answer if the text does not fit. -/
abbrev Scan := StateT (List Char) Option

namespace Scan

/-- The next character, which stays. -/
def peek? : Scan (Option Char) := return (← get).head?

/-- Takes one character of a class. -/
def satisfy (p : Char → Bool) : Scan Char := fun cs =>
  match cs with
  | c :: rest => if p c then some (c, rest) else none
  | [] => none

/-- Takes a given character. -/
def char (c : Char) : Scan Unit := do
  let _ ← satisfy (· == c)

/-- Takes characters as long as they are of a class. -/
def takeWhile (p : Char → Bool) : Scan (List Char) := fun cs =>
  some (cs.takeWhile p, cs.dropWhile p)

/-- Takes a text if it comes next, and tells whether it did. -/
def skip? (text : String) : Scan Bool := fun cs =>
  if text.toList.isPrefixOf cs then some (true, cs.drop text.length) else some (false, cs)

/-- Takes exactly so many decimal digits as a number. -/
def digits (count : Nat) : Scan Nat := fun cs =>
  let ds := cs.take count
  if ds.length = count ∧ ds.all Char.isDigit then
    some (ds.foldl (fun n c => 10 * n + (c.toNat - '0'.toNat)) 0, cs.drop count)
  else none

/-- Takes a number of two digits within bounds. -/
def twoDigits (least greatest : Nat) : Scan Nat := do
  let n ← digits 2
  if least ≤ n ∧ n ≤ greatest then return n else failure

/-- A blank within a line. -/
def isBlank (c : Char) : Bool := c == ' ' || c == '\t'

/-- Skips blanks within a line. -/
def blanks : Scan Unit := do
  let _ ← takeWhile isBlank

/-- Whether a character can stand in a comment or a text without being escaped. -/
def isPlain (c : Char) : Bool := c == '\t' || (0x20 ≤ c.toNat && c.toNat ≠ 0x7F)

/-- Takes the end of a line. -/
def newline : Scan Unit := fun cs =>
  match cs with
  | '\n' :: rest | '\r' :: '\n' :: rest => some ((), rest)
  | _ => none

/-- Skips blanks and a comment up to the end of the line or of the text. -/
def lineEnd : Scan Unit := do
  blanks
  if ← skip? "#" then
    let _ ← takeWhile isPlain
  match ← peek? with
  | none => return
  | some _ => newline

/-- What is left behind blanks, comments and ends of lines; none of it may be ill-formed. -/
def skipLines (inComment : Bool) : List Char → Option (List Char)
  | [] => some []
  | '\n' :: rest | '\r' :: '\n' :: rest => skipLines false rest
  | c :: rest =>
    if inComment then if isPlain c then skipLines true rest else none
    else if isBlank c then skipLines false rest
    else if c = '#' then skipLines true rest
    else some (c :: rest)

/-- Skips blanks, comments and ends of lines. -/
def lines : Scan Unit := fun cs => (skipLines false cs).map fun rest => ((), rest)

end Scan

end Mustache.Toml
