import Mustache.Data.Toml.Item
import Mustache.Data.Toml.Number
import Mustache.Data.Toml.Text
/-!
The statements of TOML documents: headers of tables, headers of arrays of tables, and assignments to
dotted keys.
-/
namespace Mustache.Toml

/-- A dotted key: its parts before the last, and the last. -/
structure Key where
  path : List String
  last : String

/-- A line of a document that is not empty. -/
inductive Statement where
  | table (key : Key)
  | arrayTable (key : Key)
  | assign (key : Key) (n : Node)

/-- How deeply arrays and inline tables may nest, and how many parts a key may have. -/
def deepest : Nat := 79

namespace Key

/-- Takes the parts of a key, which must not be more than a number. -/
def parts : Nat → Scan (List String)
  | 0 => failure
  | count + 1 => do
    Scan.blanks
    let part ← Text.keyPart
    Scan.blanks
    if ← Scan.skip? "." then return part :: (← parts count) else return [part]

/-- Takes a key. -/
def read : Scan Key := do
  let all ← parts deepest
  match all.getLast? with
  | some last => return ⟨all.dropLast, last⟩
  | none => failure

end Key

namespace Node

/-- Takes the items of an array up to its end, with a bound on their number. -/
def items (value : Scan Node) : Nat → Scan (List Node)
  | 0 => failure
  | bound + 1 => do
    Scan.lines
    if ← Scan.skip? "]" then return []
    let item ← value
    Scan.lines
    if ← Scan.skip? "," then return item :: (← items value bound)
    Scan.char ']'
    return [item]

/-- Takes the entries of an inline table up to its end, with a bound on their number. -/
def entries (value : Scan Node) (t : Table) : Nat → Scan Table
  | 0 => failure
  | bound + 1 => do
    let key ← Key.read
    Scan.char '='
    Scan.blanks
    let n ← value
    Scan.blanks
    match t.assign key.path key.last n with
    | none => failure
    | some t =>
      if ← Scan.skip? "," then entries value t bound
      else
        Scan.char '\x7d'
        return t

/-- Takes an inline table behind its opening brace. -/
def inlineTable (value : Scan Node) : Scan Node := do
  Scan.blanks
  if ← Scan.skip? "\x7d" then return .table []
  let bound := (← get).length
  return (← entries value .empty bound).toItem.toNode

/-- Takes a datum that holds no others. -/
def scalar : Scan Node := do
  match ← Scan.peek? with
  | some '\"' | some '\'' => return .text (← Text.any)
  | some 't' => if ← Scan.skip? "true" then return .bool true else failure
  | some 'f' => if ← Scan.skip? "false" then return .bool false else failure
  | _ => (do return .datetime (← Datetime.read)) <|> Number.any

/-- Takes a datum, inside which arrays and inline tables nest at most so deeply. -/
def read : Nat → Scan Node
  | 0 => do
    match ← Scan.peek? with
    | some '[' | some '\x7b' => failure
    | _ => scalar
  | levels + 1 => do
    if ← Scan.skip? "[" then
      let bound := (← get).length
      return .array (← items (read levels) (bound + 1))
    else if ← Scan.skip? "\x7b" then inlineTable (read levels)
    else scalar

end Node

namespace Statement

/-- Takes a statement without what follows it on its line. -/
def read : Scan Statement := do
  if ← Scan.skip? "[[" then
    let key ← Key.read
    Scan.char ']'
    Scan.char ']'
    return .arrayTable key
  else if ← Scan.skip? "[" then
    let key ← Key.read
    Scan.char ']'
    return .table key
  else
    let key ← Key.read
    Scan.char '='
    Scan.blanks
    return .assign key (← Node.read deepest)

/-- Takes all statements up to the end of the text, with a bound on their number. -/
def all : Nat → Scan (List Statement)
  | 0 => failure
  | bound + 1 => do
    Scan.lines
    match ← Scan.peek? with
    | none => return []
    | some _ =>
      let statement ← read
      Scan.lineEnd
      return statement :: (← all bound)

/-- The statements of a text. -/
def ofText? (text : String) : Option (List Statement) :=
  let cs := match text.toList with
    | '\uFEFF' :: rest => rest
    | cs => cs
  ((all (cs.length + 1)).run cs).map (·.1)

end Statement

end Mustache.Toml
