import Mustache.Text.Blank
/-!
The pair of delimiters in force, and the tag that changes it. A delimiter tag is read exactly: an
equals sign, the opening delimiter, at least one space, the closing delimiter, an equals sign.
-/
namespace Mustache

/-- The texts that open and close a tag. -/
structure Delimiters where
  opening : List Char
  closing : List Char
deriving DecidableEq, Repr

namespace Delimiters

/-- Two braces on either side. -/
def standard : Delimiters := ⟨['{', '{'], ['}', '}']⟩

/-- What closes a tag that was opened with an additional brace. -/
def rawClosing (d : Delimiters) : List Char := '}' :: d.closing

/-- Whether a text can serve as a delimiter: not empty and without white space. -/
def isToken (cs : List Char) : Bool := !cs.isEmpty && cs.all (!Text.isBlank ·)

/-- The delimiters between the two equals signs of a tag. -/
def ofInner? (inner : List Char) : Option Delimiters :=
  let opening := inner.takeWhile (· ≠ ' ')
  let closing := (inner.dropWhile (· ≠ ' ')).dropWhile (· = ' ')
  if isToken opening && isToken closing then some ⟨opening, closing⟩ else none

/-- The delimiters that a trimmed tag text puts in force, if it is a delimiter tag. -/
def ofTag? : List Char → Option Delimiters
  | '=' :: rest =>
    if rest.getLast? = some '=' ∧ '=' ∉ rest.dropLast then ofInner? rest.dropLast else none
  | _ => none

end Delimiters

end Mustache
