import Mustache.Number.Notation
import Mustache.Text.Quoted
import Mustache.Value.Basic
/-!
The inspected form of values, which shows their kinds and keeps texts apart from everything else.
-/
namespace Mustache.Value

/-- Inspection writes numbers from 10^16 up and below 10^-4 with an exponent, all others
positionally, and whole ones with a fraction. -/
def inspectNotation : Number.Notation := ⟨some (-4, 15), true, false, .away⟩

mutual

/-- The inspected form of a value. -/
def inspect : Value → String
  | .null => "Null"
  | .bool b => "Bool(" ++ (if b then "true" else "false") ++ ")"
  | .int i => "Int(" ++ i.repr ++ ")"
  | .float x => "Float(" ++ x.write inspectNotation ++ ")"
  | .text s => "Text(" ++ Text.quoted s ++ ")"
  | .seq items => "[" ++ ", ".intercalate (inspectItems items) ++ "]"
  | .map entries => "\x7b" ++ ", ".intercalate (inspectEntries entries) ++ "\x7d"
  | .enumeration self _ _ _ => "Enum(" ++ self.form ++ ")"
  | .object self _ _ _ => "Object(" ++ self.form ++ ")"
  | .stream self _ => "Stream(" ++ self.form ++ ")"

/-- The inspected forms of the items of a sequence. -/
def inspectItems : List Value → List String
  | [] => []
  | item :: rest => item.inspect :: inspectItems rest

/-- The inspected forms of the entries of a map. -/
def inspectEntries : List (String × Value) → List String
  | [] => []
  | (key, value) :: rest => (Text.quoted key ++ ": " ++ value.inspect) :: inspectEntries rest

end

end Mustache.Value
