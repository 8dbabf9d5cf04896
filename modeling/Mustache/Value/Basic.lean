import Mustache.Number.Binary64
import Mustache.Number.Word
/-!
The data that templates are rendered against. Beside plain data there are three kinds of values that
an application supplies: a value of an enumeration, an object with named fields, and a stream whose
length is known only once it has been consumed.

A stream is told by the items that a pass over it gives. They are any sequence of values, finite or
not, and the same in every pass. Left out is the waiting for an item that is not there yet, and a
stream that gives other items in another pass.
-/
namespace Mustache

/-- What tells one application value from every other, and how it is inspected. -/
structure Handle where
  /-- Equal for a value and its copies only. -/
  identity : Nat
  /-- The inspected form. -/
  form : String
deriving DecidableEq, Repr

/-- What a pass over a stream gives. -/
inductive Pass (α : Type) where
  /-- Items up to a last one. -/
  | finite (items : List α)
  /-- An item at every place, without end. -/
  | endless (item : Nat → α)

namespace Pass

variable {α : Type}

/-- The first item. -/
def first? : Pass α → Option α
  | .finite items => items.head?
  | .endless item => some (item 0)

/-- So many of the first items, or all if there are fewer. -/
def take (n : Nat) : Pass α → List α
  | .finite items => items.take n
  | .endless item => (List.range n).map item

end Pass

/-- A piece of data. -/
inductive Value where
  | null
  | bool (b : Bool)
  | int (i : Int)
  | float (x : Binary64)
  | text (s : String)
  | seq (items : List Value)
  /-- Entries in the order of insertion, with different keys. -/
  | map (entries : List (String × Value))
  /-- The current variant, all variants in the order of declaration, and fields of its own. -/
  | enumeration (self : Handle) (variant : String) (variants : List String)
    (fields : List (String × Value))
  /-- A text form, fields of the instance, and fields shared by all instances. -/
  | object (self : Handle) (text : String) (fields statics : List (String × Value))
  /-- The items of each pass. -/
  | stream (self : Handle) (pass : Pass Value)

namespace Value

/-- The value of a natural number: an integer if it fits into 64 bits with a sign, else the nearest
floating-point number. -/
def ofNat (n : Nat) : Value := if Number.isSigned n then .int n else .float (.ofNat n)

/-- Whether a value is null. -/
def isNull : Value → Bool
  | .null => true
  | _ => false

/-- The content of a text. -/
def asText? : Value → Option String
  | .text s => some s
  | _ => none

/-- The entries with one more; a known key keeps its place and takes the new value. -/
def insertEntry (entries : List (String × Value)) (key : String) (value : Value) :
    List (String × Value) :=
  if entries.any (·.1 == key) then
    entries.map fun entry => if entry.1 == key then (key, value) else entry
  else entries ++ [(key, value)]

/-- A map from entries in the order of insertion. -/
def ofEntries (entries : List (String × Value)) : Value :=
  .map (entries.foldl (fun known entry => insertEntry known entry.1 entry.2) [])

end Value

end Mustache
