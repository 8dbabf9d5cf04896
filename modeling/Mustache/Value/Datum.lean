import Mustache.Number.Notation
import Mustache.Number.Reading
import Mustache.Value.Basic
/-!
Data of an application as a serializer describes it, and what becomes of it as a value. Variants
with content become maps with one entry, bytes become sequences of integers, and a number that is
not finite becomes null. Keys of maps are written as text where that is possible.
-/
namespace Mustache

/-- A serialized datum. -/
inductive Datum where
  | unit
  | absent
  | present (content : Datum)
  | bool (b : Bool)
  /-- An integer of any width. -/
  | int (i : Int)
  | float64 (x : Binary64)
  /-- A 32-bit number, given by the equal 64-bit one. -/
  | float32 (x : Binary64)
  | char (c : Char)
  | str (s : String)
  | bytes (bs : List UInt8)
  | seq (items : List Datum)
  | tuple (items : List Datum)
  | map (entries : List (Datum × Datum))
  | record (fields : List (String × Datum))
  | unitRecord
  /-- A record that does nothing but wrap its content. -/
  | wrapper (content : Datum)
  | unitVariant (name : String)
  | wrapperVariant (name : String) (content : Datum)
  | tupleVariant (name : String) (items : List Datum)
  | recordVariant (name : String) (fields : List (String × Datum))
  /-- A datum that cannot be serialized, for a reason of its own. -/
  | failing (message : String)

/-- Why a datum is no value. -/
inductive DatumError where
  | numberOutOfRange
  | keyNotFinite
  | keyNotText
  | failing (message : String)
deriving DecidableEq, Repr

namespace DatumError

/-- A decimal number without its sign and the leading zeros. -/
def plainNumber (digits : List Char) : List Char :=
  match digits.dropWhile (· == '0') with
  | [] => ['0']
  | rest => rest

/-- The position `at line … column …` that a text consists of, if both numbers have 64 bits. -/
def position? (cs : List Char) : Option (List Char × List Char) :=
  let lineMark := " at line ".toList
  let columnMark := " column ".toList
  let afterLine := cs.drop lineMark.length
  let line := afterLine.takeWhile Char.isDigit
  let afterColumn := (afterLine.drop line.length).drop columnMark.length
  let fits (digits : List Char) : Bool :=
    !digits.isEmpty && digits.all Char.isDigit && Number.isWord (Number.digitsValue digits)
  if lineMark.isPrefixOf cs && columnMark.isPrefixOf (afterLine.drop line.length) &&
      fits line && fits afterColumn then some (plainNumber line, plainNumber afterColumn)
  else none

/-- The last place where a position could start in a text. -/
def lastMark? : List Char → Option (List Char × List Char)
  | [] => none
  | c :: rest =>
    match lastMark? rest with
    | some (before, mark) => some (c :: before, mark)
    | none => if " at line ".toList.isPrefixOf (c :: rest) then some ([], c :: rest) else none

/-- A message whose position at the end, if it has one, is written without leading zeros, or left
out if the line is zero. -/
def normalize (message : String) : String :=
  match lastMark? message.toList with
  | none => message
  | some (before, mark) =>
    match position? mark with
    | none => message
    | some (line, column) =>
      if line = ['0'] then String.ofList before
      else String.ofList (before ++ " at line ".toList ++ line ++ " column ".toList ++ column)

/-- The wording of a failure. -/
def message : DatumError → String
  | .numberOutOfRange => "number out of range"
  | .keyNotFinite => "float key must be finite (got NaN or +/-inf)"
  | .keyNotText => "key must be a string"
  | .failing message => normalize message

end DatumError

namespace Datum

open Number

/-- Keys of 64 bits are written positionally from 10^-5 to below 10^16, whole ones with a fraction;
other exponents have a sign. -/
def keyNotation64 : Notation := ⟨some (-5, 15), true, true, .toEven⟩

/-- Keys of 32 bits are written positionally from 10^-6 to below 10^13, whole ones with a fraction;
other exponents have a sign. -/
def keyNotation32 : Notation := ⟨some (-6, 12), true, true, .toEven⟩

/-- A number of 32 bits, given by the equal one of 64 bits, as a key. -/
def writeKey32 (negative : Bool) (units : Nat) : String :=
  writeUnits keyNotation32 binary32 negative
    (units / Nat.pow 2 (binary64.unitExponent - binary32.unitExponent))

/-- The text of a datum as the key of a map. -/
def key : Datum → Except DatumError String
  | .str s => .ok s
  | .char c => .ok (String.singleton c)
  | .bool b => .ok (if b then "true" else "false")
  | .int i => .ok i.repr
  | .float64 x =>
    match x with
    | .finite negative units => .ok (writeUnits keyNotation64 binary64 negative units)
    | _ => .error .keyNotFinite
  | .float32 x =>
    match x with
    | .finite negative units => .ok (writeKey32 negative units)
    | _ => .error .keyNotFinite
  | .unitVariant name => .ok name
  | .wrapper content => key content
  | .failing message => .error (.failing message)
  | _ => .error .keyNotText

/-- The value of an integer: it must fit into 64 bits with or without a sign. -/
def intValue (i : Int) : Except DatumError Value :=
  if isSigned i then .ok (.int i)
  else if 0 ≤ i ∧ isWord i.toNat then .ok (.ofNat i.toNat)
  else .error .numberOutOfRange

/-- The value of a floating-point number. -/
def floatValue (x : Binary64) : Value := if x.isFinite then .float x else .null

mutual

/-- The value of a datum. -/
def value : Datum → Except DatumError Value
  | .unit | .absent | .unitRecord => .ok .null
  | .present content | .wrapper content => content.value
  | .bool b => .ok (.bool b)
  | .int i => intValue i
  | .float64 x | .float32 x => .ok (floatValue x)
  | .char c => .ok (.text (String.singleton c))
  | .str s => .ok (.text s)
  | .bytes bs => .ok (.seq (bs.map fun b => .int b.toNat))
  | .seq items | .tuple items => (values items).map .seq
  | .map entries => (entryValues entries).map .ofEntries
  | .record fields => (fieldValues fields).map .ofEntries
  | .unitVariant name => .ok (.text name)
  | .wrapperVariant name content => content.value.map fun v => .map [(name, v)]
  | .tupleVariant name items => (values items).map fun vs => .map [(name, .seq vs)]
  | .recordVariant name fields =>
    (fieldValues fields).map fun vs => .map [(name, .ofEntries vs)]
  | .failing message => .error (.failing message)

/-- The values of data in order, up to the first failure. -/
def values : List Datum → Except DatumError (List Value)
  | [] => .ok []
  | item :: rest => do
    let v ← item.value
    let vs ← values rest
    return v :: vs

/-- The entries of a map in order, each key before its value. -/
def entryValues : List (Datum × Datum) → Except DatumError (List (String × Value))
  | [] => .ok []
  | (k, item) :: rest => do
    let name ← k.key
    let v ← item.value
    let vs ← entryValues rest
    return (name, v) :: vs

/-- The fields of a record in order. -/
def fieldValues : List (String × Datum) → Except DatumError (List (String × Value))
  | [] => .ok []
  | (name, item) :: rest => do
    let v ← item.value
    let vs ← fieldValues rest
    return (name, v) :: vs

end

end Datum

end Mustache
