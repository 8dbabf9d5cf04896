import Mustache.Number.Reading
import Mustache.Value.Basic
/-!
Looking up one name on a value itself, without regard to what encloses it.
-/
namespace Mustache.Value

/-- The number a name stands for as an index: digits, after at most one plus sign. -/
def indexOf? (name : String) : Option Nat :=
  let digits := match name.toList with
    | '+' :: rest => rest
    | cs => cs
  if !digits.isEmpty && digits.all Char.isDigit then some (Number.digitsValue digits) else none

/-- What a name means on a value, if anything. -/
def lookup (name : String) : Value → Option Value
  | .map entries => entries.lookup name
  | .seq items =>
    if name = "size" ∨ name = "length" then some (ofNat items.length)
    else (indexOf? name).bind fun index => items[index]?
  | .text s => if name = "length" then some (ofNat s.length) else none
  | .enumeration _ variant variants fields =>
    if name = "name" then some (.text variant)
    else if name = "ordinal" then (variants.idxOf? variant).map ofNat
    else fields.lookup name
  | .object _ _ fields statics => (fields.lookup name).or (statics.lookup name)
  | _ => none

end Mustache.Value
