import Mustache.Number.Binary64
import Mustache.Number.Shortest
/-!
Writing floating-point numbers. The digits are the shortest that read back; a notation decides
which numbers are written positionally and which with an exponent, whether a whole number shows a
fraction, and how the exponent is signed.
-/
namespace Mustache.Number

/-- How decimals are laid out. -/
structure Notation where
  /-- The least and the greatest exponent of the leading digit that are written positionally; all
  are if there is no such range. -/
  positional : Option (Int × Int)
  /-- Whether a whole number written positionally ends in `.0`. -/
  pointZero : Bool
  /-- Whether an exponent that is not negative has a plus sign. -/
  plus : Bool
  /-- Which of two equally near decimals is written. -/
  tie : Tie
deriving DecidableEq, Repr

namespace Decimal

/-- The exponent of the leading digit. -/
def leading (d : Decimal) : Int := d.exponent + (Nat.toDigits 10 d.digits).length - 1

/-- The decimal without an exponent. -/
def positional (pointZero : Bool) (d : Decimal) : List Char :=
  let digits := Nat.toDigits 10 d.digits
  if 0 ≤ d.exponent then
    digits ++ List.replicate d.exponent.toNat '0' ++ (if pointZero then ['.', '0'] else [])
  else
    let places := (-d.exponent).toNat
    let padded := List.replicate (places + 1 - digits.length) '0' ++ digits
    let whole := padded.length - places
    padded.take whole ++ '.' :: padded.drop whole

/-- The decimal with one digit before the point and an exponent. -/
def scientific (plus : Bool) (d : Decimal) : List Char :=
  let mantissa := match Nat.toDigits 10 d.digits with
    | [] => []
    | [digit] => [digit]
    | digit :: rest => digit :: '.' :: rest
  let sign := if d.leading < 0 then ['-'] else if plus then ['+'] else []
  mantissa ++ 'e' :: sign ++ Nat.toDigits 10 d.leading.natAbs

/-- The decimal in a notation. -/
def written (n : Notation) (d : Decimal) : List Char :=
  match n.positional with
  | none => d.positional n.pointZero
  | some (least, greatest) =>
    if least ≤ d.leading ∧ d.leading ≤ greatest then d.positional n.pointZero
    else d.scientific n.plus

end Decimal

/-- A number of the smallest units of a format, in a notation. -/
def writeUnits (n : Notation) (f : Format) (negative : Bool) (units : Nat) : String :=
  let decimal := if units = 0 then ⟨0, 0⟩ else Decimal.shortest f n.tie units
  String.ofList ((if negative then ['-'] else []) ++ decimal.written n)

end Mustache.Number

namespace Mustache.Binary64

open Number

/-- A number in a notation; infinities and the undefined number have fixed names. -/
def write (n : Notation) : Binary64 → String
  | .nan => "NaN"
  | .infinite negative => if negative then "-inf" else "inf"
  | .finite negative units => writeUnits n binary64 negative units

end Mustache.Binary64
