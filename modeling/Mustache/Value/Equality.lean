import Mustache.Value.Basic
/-!
Equality of values. Plain data is compared by structure, maps without regard to the order of their
entries, and application values by identity.
-/
namespace Mustache.Value

mutual

/-- Whether two values are equal. -/
def equal : Value → Value → Bool
  | .null, .null => true
  | .bool a, .bool b => a == b
  | .int a, .int b => a == b
  | .float a, .float b => a.equal b
  | .text a, .text b => a == b
  | .seq a, .seq b => equalItems a b
  | .map a, .map b => a.length == b.length && equalEntries a b
  | .enumeration a _ _ _, .enumeration b _ _ _ => a.identity == b.identity
  | .object a _ _ _, .object b _ _ _ => a.identity == b.identity
  | .stream a _, .stream b _ => a.identity == b.identity
  | _, _ => false

/-- Whether two sequences are equal item by item. -/
def equalItems : List Value → List Value → Bool
  | [], [] => true
  | a :: as, b :: bs => equal a b && equalItems as bs
  | _, _ => false

/-- Whether every entry of one map has an equal one in the other. -/
def equalEntries : List (String × Value) → List (String × Value) → Bool
  | [], _ => true
  | (key, a) :: rest, entries =>
    (match entries.lookup key with
      | some b => equal a b
      | none => false) && equalEntries rest entries

end

end Mustache.Value
