import Mustache.Number.Notation
import Mustache.Value.Basic
/-!
The text form of values, as interpolation writes it.
-/
namespace Mustache.Value

/-- Floating-point numbers are displayed without an exponent and without a needless fraction. -/
def numberNotation : Number.Notation := ⟨none, false, false, .away⟩

mutual

/-- The text form of a value. -/
def display : Value → String
  | .null => "null"
  | .bool b => if b then "true" else "false"
  | .int i => i.repr
  | .float x => x.write numberNotation
  | .text s => s
  | .seq items => "[" ++ ", ".intercalate (displayItems items) ++ "]"
  | .map entries => "\x7b" ++ ", ".intercalate (displayEntries entries) ++ "\x7d"
  | .enumeration _ variant _ _ => variant
  | .object _ form _ _ => form
  | .stream self _ => self.form

/-- The text forms of the items of a sequence. -/
def displayItems : List Value → List String
  | [] => []
  | item :: rest => item.display :: displayItems rest

/-- The text forms of the entries of a map. -/
def displayEntries : List (String × Value) → List String
  | [] => []
  | (key, value) :: rest => (key ++ "=" ++ value.display) :: displayEntries rest

end

/-- What interpolating a value writes: nothing for null, else its text form. -/
def text? : Value → Option String
  | .null => none
  | value => some value.display

/-- One entry of a map as an object of its own, as a section over the map sees it. A section makes a
new object for each entry, with a form that shows its fields; here the number and the inspected form
stand for nothing, since a walk neither compares values nor inspects them. -/
def entry (key : String) (value : Value) : Value :=
  .object ⟨0, ""⟩ (key ++ "=" ++ value.display) [("key", .text key), ("value", value)] []

end Mustache.Value
