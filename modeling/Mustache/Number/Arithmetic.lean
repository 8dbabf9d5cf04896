import Mustache.Number.Binary64
/-!
Scaling a number by powers of ten in floating-point arithmetic: every multiplication and division is
rounded, and so is the power itself.
-/
namespace Mustache.Binary64

open Number

/-- The product of two finite numbers, rounded. -/
def multiply : Binary64 → Binary64 → Binary64
  | .finite a m, .finite b n => ofRatio (a != b) (m * n) (Nat.pow 2 (2 * binary64.unitExponent))
  | _, _ => .nan

/-- The quotient of two finite numbers, rounded. -/
def divide : Binary64 → Binary64 → Binary64
  | .finite a m, .finite b n => ofRatio (a != b) m n
  | _, _ => .nan

/-- The greatest power of ten that is a number. -/
def greatestPower : Nat := 308

/-- A power of ten, rounded. -/
def power (n : Nat) : Binary64 := ofNat (Nat.pow 10 n)

/-- A number divided by a power of ten; powers beyond the greatest are divided by in parts. -/
def scaleDown (x : Binary64) (n : Nat) : Binary64 :=
  if n ≤ greatestPower then x.divide (power n)
  else if x.isZero then x
  else scaleDown (x.divide (power greatestPower)) (n - greatestPower)
termination_by n
decreasing_by simp only [greatestPower] at *; omega

/-- A number times a power of ten, unless that overflows. -/
def scaleUp? (x : Binary64) (n : Nat) : Option Binary64 :=
  if n ≤ greatestPower then
    let product := x.multiply (power n)
    if product.isFinite then some product else none
  else if x.isZero then some x
  else none

/-- A number times ten to an exponent, unless that overflows. -/
def scale? (x : Binary64) (exponent : Int) : Option Binary64 :=
  if 0 ≤ exponent then x.scaleUp? exponent.toNat else some (x.scaleDown (-exponent).toNat)

/-- The number with a sign. -/
def withSign (negative : Bool) : Binary64 → Binary64
  | .nan => .nan
  | .infinite _ => .infinite negative
  | .finite _ units => .finite negative units

end Mustache.Binary64
