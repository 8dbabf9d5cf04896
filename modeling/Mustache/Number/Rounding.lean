/-!
Rounding to a binary floating-point format. A format has a smallest unit, and every finite value is
a natural number of units; the larger the value, the coarser the steps it may take. An exact ratio
is rounded to the nearest step, and to the even one if two are equally near.
-/
namespace Mustache.Number

/-- A binary floating-point format. -/
structure Format where
  /-- The number of significant bits. -/
  precision : Nat
  /-- The smallest unit is two to the power of minus this. -/
  unitExponent : Nat
  /-- Values from two to this power on overflow. -/
  limitExponent : Nat
deriving DecidableEq, Repr

/-- The 64-bit format. -/
def binary64 : Format := ⟨53, 1074, 1024⟩

/-- The 32-bit format. -/
def binary32 : Format := ⟨24, 149, 128⟩

namespace Format

/-- The step, in units, that values of about this many units take. -/
def step (f : Format) (units : Nat) : Nat :=
  Nat.pow 2 (units.log2 + 1 - f.precision)

/-- The number of units from which on a value overflows. -/
def limit (f : Format) : Nat := Nat.pow 2 (f.limitExponent + f.unitExponent)

/-- The quotient of two numbers, to the nearest integer, halves to the even neighbour. -/
def divideToEven (numerator denominator : Nat) : Nat :=
  let quotient := numerator / denominator
  let twice := 2 * (numerator % denominator)
  if twice < denominator then quotient
  else if denominator < twice then quotient + 1
  else quotient + quotient % 2

/-- The units of the value nearest to a ratio, or nothing if that overflows. -/
def round? (f : Format) (numerator denominator : Nat) : Option Nat :=
  let scaled := numerator * Nat.pow 2 f.unitExponent
  let step := f.step (scaled / denominator)
  let units := divideToEven scaled (denominator * step) * step
  if units < f.limit then some units else none

end Format

end Mustache.Number
