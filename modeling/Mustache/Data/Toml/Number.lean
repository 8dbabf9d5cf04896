import Mustache.Data.Toml.Node
import Mustache.Data.Toml.Scan
import Mustache.Number.Reading
/-!
Numbers of TOML documents. Underscores may stand between digits. Integers have 64 bits; a
floating-point number may not overflow upwards.
-/
namespace Mustache.Toml.Number

/-- The digits of a run and what follows it; an underscore must stand between two digits. -/
def run? (p : Char → Bool) : List Char → Option (List Char × List Char)
  | '_' :: c :: rest =>
    if p c then (run? p rest).map fun r => (c :: r.1, r.2) else none
  | c :: rest =>
    if p c then (run? p rest).map fun r => (c :: r.1, r.2)
    else if c = '_' then none
    else some ([], c :: rest)
  | [] => some ([], [])

/-- Takes a run that starts with a digit. -/
def digits (p : Char → Bool) : Scan (List Char) := do
  let first ← Scan.satisfy p
  let rest ← (run? p ·)
  return first :: rest

/-- The value of a digit of any base up to sixteen. -/
def digitValue (c : Char) : Nat :=
  if c.isDigit then c.toNat - '0'.toNat
  else if 'a' ≤ c then c.toNat - 'a'.toNat + 10
  else c.toNat - 'A'.toNat + 10

/-- Takes an integer of a base without a sign. -/
def based (base : Nat) (p : Char → Bool) : Scan Node := do
  let ds ← digits p
  let n := ds.foldl (fun n c => base * n + digitValue c) 0
  if Mustache.Number.isSigned n then return .int n else failure

/-- Whether a character is a hexadecimal digit. -/
def isHexDigit (c : Char) : Bool :=
  c.isDigit || ('a' ≤ c && c ≤ 'f') || ('A' ≤ c && c ≤ 'F')

/-- Takes a sign; tells whether it is a minus sign. -/
def sign : Scan Bool := do
  if ← Scan.skip? "-" then return true
  let _ ← Scan.skip? "+"
  return false

/-- Takes the exponent of a number, zero if there is none. -/
def exponent : Scan (Option Int) := do
  match ← Scan.peek? with
  | some 'e' | some 'E' =>
    let _ ← Scan.satisfy fun _ => true
    let negative ← sign
    let n := Mustache.Number.digitsValue (← digits Char.isDigit)
    return some (if negative then -n else n)
  | _ => return none

/-- A floating-point number, unless it overflows upwards. -/
def float (negative : Bool) (ds : List Char) (exponent : Int) : Scan Node := do
  let x := (⟨negative, Mustache.Number.digitsValue ds, exponent⟩ :
    Mustache.Number.Literal).toBinary64
  if x = .infinite false then failure else return .float x

/-- An integer of 64 bits. -/
def integer (negative : Bool) (ds : List Char) : Scan Node := do
  let n := Mustache.Number.digitsValue ds
  let i : Int := if negative then -n else n
  if Mustache.Number.isSigned i then return .int i else failure

/-- Takes the digits of a number in front of its point; a zero stands alone. -/
def whole : Scan (List Char) := do
  if ← Scan.skip? "0" then return ['0']
  digits Char.isDigit

/-- Takes a decimal number behind its sign. -/
def decimal (negative : Bool) : Scan Node := do
  let ds ← whole
  if ← Scan.skip? "." then
    let fraction ← digits Char.isDigit
    let e := (← exponent).getD 0
    float negative (ds ++ fraction) (e - fraction.length)
  else
    match ← exponent with
    | some e => float negative ds e
    | none => integer negative ds

/-- Takes a number of any form. -/
def any : Scan Node := do
  if ← Scan.skip? "0x" then return ← based 16 isHexDigit
  if ← Scan.skip? "0o" then return ← based 8 fun c => '0' ≤ c && c ≤ '7'
  if ← Scan.skip? "0b" then return ← based 2 fun c => c == '0' || c == '1'
  let negative ← sign
  if ← Scan.skip? "inf" then return .float (.infinite negative)
  if ← Scan.skip? "nan" then return .float .nan
  decimal negative

end Mustache.Toml.Number
