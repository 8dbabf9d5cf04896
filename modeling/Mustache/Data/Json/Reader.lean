import Mustache.Data.Json.Token
/-!
JSON texts as values. Entries keep their order; a repeated key keeps its first place and takes the
last value. Arrays and objects nest at most 127 levels deep.
-/
namespace Mustache.Json

/-- An array or object that is still open, with its content, last first. -/
inductive Open where
  | array (items : List Value)
  /-- The entries so far and the key whose value comes next. -/
  | object (entries : List (String × Value)) (key : String)

/-- What may come next. -/
inductive Phase where
  | value
  /-- A value or the end of an empty array. -/
  | firstItem
  /-- A comma or the end of what is open. -/
  | separator
  /-- A key or the end of an empty object. -/
  | firstKey (entries : List (String × Value))
  | key (entries : List (String × Value))
  | colon
  /-- The whole value has been read. -/
  | done (v : Value)

/-- A reading of tokens: what is open, innermost first, and what may come next. -/
structure Building where
  opened : List Open
  phase : Phase

/-- How deeply arrays and objects may nest. -/
def deepest : Nat := 127

namespace Building

/-- A reading before the first token. -/
def start : Building := ⟨[], .value⟩

/-- Puts a complete value in its place. -/
def place (opened : List Open) (v : Value) : Building :=
  match opened with
  | [] => ⟨[], .done v⟩
  | .array items :: rest => ⟨.array (v :: items) :: rest, .separator⟩
  | .object entries key :: rest => ⟨.object ((key, v) :: entries) key :: rest, .separator⟩

/-- Starts a value or puts it in its place. -/
def valueStep? (opened : List Open) : Token → Option Building
  | .scalar v => some (place opened v)
  | .string s => some (place opened (.text s))
  | .openArray =>
    if opened.length < deepest then some ⟨.array [] :: opened, .firstItem⟩ else none
  | .openObject =>
    if opened.length < deepest then some ⟨opened, .firstKey []⟩ else none
  | _ => none

/-- Takes in a token. -/
def step? (b : Building) (t : Token) : Option Building :=
  match b.phase, t with
  | .firstItem, .closeArray => some (place b.opened.tail (.seq []))
  | .value, t | .firstItem, t => valueStep? b.opened t
  | .firstKey _, .closeObject => some (place b.opened (.map []))
  | .key entries, .string s | .firstKey entries, .string s =>
    some ⟨.object entries s :: b.opened, .colon⟩
  | .colon, .colon => some ⟨b.opened, .value⟩
  | .separator, t =>
    match b.opened, t with
    | .array items :: _, .comma => some ⟨.array items :: b.opened.tail, .value⟩
    | .array items :: rest, .closeArray => some (place rest (.seq items.reverse))
    | .object entries _ :: rest, .comma => some ⟨rest, .key entries⟩
    | .object entries _ :: rest, .closeObject => some (place rest (.ofEntries entries.reverse))
    | _, _ => none
  | _, _ => none

end Building

/-- The value of a JSON text. -/
def read? (text : String) : Option Value := do
  let tokens ← tokens? text
  let last ← tokens.foldlM Building.step? Building.start
  match last.phase with
  | .done v => some v
  | _ => none

end Mustache.Json
