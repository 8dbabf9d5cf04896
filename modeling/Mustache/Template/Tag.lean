import Mustache.Template.Delimiters
import Mustache.Template.Flaw
/-!
What the text of a tag asks for. The first character of the trimmed text decides, and the rest is
the name it applies to.
-/
namespace Mustache

/-- The meaning of a tag that was not opened with an additional brace. -/
inductive Tag where
  | escaped (path : String)
  | raw (path : String)
  | openBlock (path : String)
  | openInverted (path : String)
  | close (name : String)
  | reference (name : String)
  | delimiters (pair : Delimiters)
  | comment
deriving DecidableEq, Repr

namespace Tag

/-- A name after a sigil, which may not be empty. -/
def named (make : String → Tag) (rest : List Char) : Except Flaw Tag :=
  match Text.trim rest with
  | [] => .error .emptyTag
  | name => .ok (make (String.ofList name))

/-- The meaning of a trimmed tag text. -/
def ofBody : List Char → Except Flaw Tag
  | [] => .error .emptyTag
  | '&' :: rest => named .raw rest
  | '#' :: rest => named .openBlock rest
  | '^' :: rest => named .openInverted rest
  | '/' :: rest => .ok (.close (String.ofList (Text.trim rest)))
  | '>' :: rest => named .reference rest
  | '=' :: rest =>
    match Delimiters.ofTag? ('=' :: rest) with
    | some pair => .ok (.delimiters pair)
    | none => .error .badDelimiters
  | '!' :: _ => .ok .comment
  | body => .ok (.escaped (String.ofList body))

end Tag

end Mustache
