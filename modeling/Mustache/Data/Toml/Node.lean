import Mustache.Data.Toml.Datetime
import Mustache.Value.Basic
/-!
The data of TOML documents. Dates and times keep a kind of their own until the document becomes a
value, in which they are texts in written form. A table whose first key is the reserved one becomes
the date or time that is spelt under this key, whatever its other entries are; if none is spelt
there, the document has no value.
-/
namespace Mustache.Toml

/-- A datum of a document. -/
inductive Node where
  | text (s : String)
  | int (i : Int)
  | float (x : Binary64)
  | bool (b : Bool)
  | datetime (d : Datetime)
  | array (items : List Node)
  /-- Entries with different keys, in order. -/
  | table (entries : List (String × Node))

namespace Node

/-- Whether the entries of a table make it stand for a date or time. -/
def areDatetime : List (String × Node) → Bool
  | [] => false
  | (key, _) :: _ => key == Datetime.reservedKey

/-- The date or time that is spelt by the first entry of a table. -/
def datetimeOf? : List (String × Node) → Option Datetime
  | (_, .text s) :: _ => Datetime.ofText? s
  | _ => none

mutual

/-- The value of a datum. -/
def toValue? : Node → Option Value
  | .text s => some (.text s)
  | .int i => some (.int i)
  | .float x => some (.float x)
  | .bool b => some (.bool b)
  | .datetime d => some (.text d.write)
  | .array items => (toValues? items).map .seq
  | .table entries =>
    if areDatetime entries then (datetimeOf? entries).map fun d => .text d.write
    else (toEntries? entries).map .map

/-- The values of the items of an array. -/
def toValues? : List Node → Option (List Value)
  | [] => some []
  | item :: rest => do return (← item.toValue?) :: (← toValues? rest)

/-- The values of the entries of a table. -/
def toEntries? : List (String × Node) → Option (List (String × Value))
  | [] => some []
  | (key, node) :: rest => do return (key, ← node.toValue?) :: (← toEntries? rest)

end

end Node

end Mustache.Toml
