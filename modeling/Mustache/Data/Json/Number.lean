import Mustache.Number.Arithmetic
import Mustache.Number.Reading
import Mustache.Value.Basic
/-!
Numbers of JSON texts. An integer of 64 bits is exact. Any other number is read as a significand of
64 bits, which takes in digits as long as it can, and a power of ten it is scaled by.
-/
namespace Mustache.Json

/-- Takes digits into a significand of 64 bits; also counts the digits that no longer fit. -/
def accumulate (significand : Nat) : List Char → Nat × Nat
  | [] => (significand, 0)
  | d :: rest =>
    let next := 10 * significand + (d.toNat - '0'.toNat)
    if Number.isWord next then accumulate next rest else (significand, rest.length + 1)

/-- The greatest exponent that is computed with. -/
def greatestExponent : Nat := 2147483647

/-- The number of a significand and an exponent, unless it overflows. -/
def scaled? (negative : Bool) (significand : Nat) (exponent : Int) : Option Value :=
  ((Binary64.ofNat significand).scale? exponent).map fun x => .float (x.withSign negative)

/-- The number of a significand and an exponent given by its sign and digits. -/
def withExponent? (negative : Bool) (significand : Nat) (start : Int) (down : Bool)
    (digits : List Char) : Option Value :=
  let exponent := Number.digitsValue digits
  if digits.isEmpty || !digits.all Char.isDigit then none
  else if greatestExponent < exponent then
    if significand = 0 ∨ down then some (.float (.finite negative 0)) else none
  else scaled? negative significand (if down then start - exponent else start + exponent)

/-- The number whose exponent part, if any, is still to be read. -/
def atExponent? (negative : Bool) (significand : Nat) (start : Int) : List Char → Option Value
  | [] => scaled? negative significand start
  | mark :: rest =>
    if mark = 'e' ∨ mark = 'E' then
      match rest with
      | '+' :: digits => withExponent? negative significand start false digits
      | '-' :: digits => withExponent? negative significand start true digits
      | digits => withExponent? negative significand start false digits
    else none

/-- The value of an integer; minus zero and integers of more than 64 bits are floating-point. -/
def integer (negative : Bool) (n : Nat) : Value :=
  if !negative then .ofNat n
  else if n ≠ 0 ∧ Number.isSigned (-n) then .int (-n)
  else .float ((Binary64.ofNat n).withSign true)

/-- The number that an unsigned text stands for. -/
def unsigned? (negative : Bool) (cs : List Char) : Option Value :=
  let whole := cs.takeWhile Char.isDigit
  let rest := cs.dropWhile Char.isDigit
  let (significand, left) := accumulate 0 whole
  if whole.isEmpty || (whole.head? == some '0' && 1 < whole.length) then none
  else match rest with
    | [] =>
      if left = 0 then some (integer negative significand) else scaled? negative significand left
    | '.' :: rest =>
      let fraction := rest.takeWhile Char.isDigit
      let (significand, unused) := accumulate significand fraction
      if fraction.isEmpty then none
      else atExponent? negative significand (left - (fraction.length - unused : Nat))
        (rest.dropWhile Char.isDigit)
    | rest => atExponent? negative significand left rest

/-- The number that a text stands for. -/
def number? : List Char → Option Value
  | '-' :: rest => unsigned? true rest
  | cs => unsigned? false cs

end Mustache.Json
