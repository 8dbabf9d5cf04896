import Mustache.Number.Rounding
/-!
The shortest decimal that reads back. The reals that round to a value form an interval around it,
whose ends belong to it if the significand is even. Decimal grids are tried from the coarsest to the
finest; the first one with a point in the interval wins, and of its two points around the value the
nearer is taken.
-/
namespace Mustache.Number

/-- A decimal: the digits times ten to the exponent. -/
structure Decimal where
  digits : Nat
  exponent : Int
deriving DecidableEq, Repr

/-- What to do with a value halfway between two decimals of one grid. -/
inductive Tie where
  | away
  | toEven
deriving DecidableEq, Repr

/-- The interval of reals that round to a value: all of them divided by one denominator. -/
structure Interval where
  low : Nat
  value : Nat
  high : Nat
  denominator : Nat
  /-- Whether the two ends belong to the interval. -/
  isClosed : Bool

namespace Interval

/-- The reals that round to a positive number of units; below a power of two they lie closer. -/
def ofUnits (f : Format) (units : Nat) : Interval :=
  let step := f.step units
  let significand := units / step
  let isPower := significand == Nat.pow 2 (f.precision - 1) && 1 < step
  { low := 4 * units - (if isPower then step else 2 * step)
    value := 4 * units
    high := 4 * units + 2 * step
    denominator := 4 * Nat.pow 2 f.unitExponent
    isClosed := significand % 2 == 0 }

/-- The interval in units of ten to the given exponent. -/
def scaled (i : Interval) (exponent : Int) : Interval :=
  let up := Nat.pow 10 (-exponent).toNat
  { i with
    low := i.low * up
    value := i.value * up
    high := i.high * up
    denominator := i.denominator * Nat.pow 10 exponent.toNat }

/-- Whether an integer lies in the interval. -/
def holds (i : Interval) (n : Nat) : Bool :=
  let point := n * i.denominator
  if i.isClosed then i.low ≤ point && point ≤ i.high else i.low < point && point < i.high

/-- The integer of the interval nearest to its value among the two around the value, if any. -/
def pick (tie : Tie) (i : Interval) : Option Nat :=
  let below := i.value / i.denominator
  let above := below + 1
  match i.holds below, i.holds above with
  | false, false => none
  | true, false => some below
  | false, true => some above
  | true, true =>
    let twice := 2 * (i.value % i.denominator)
    if twice < i.denominator then some below
    else if i.denominator < twice then some above
    else match tie with
      | .away => some above
      | .toEven => some (below + below % 2)

end Interval

namespace Decimal

/-- The same decimal without trailing zeros; the bound is the number of digits there may be. -/
def strip : Nat → Decimal → Decimal
  | 0, d => d
  | bound + 1, d =>
    if d.digits ≠ 0 ∧ d.digits % 10 = 0 then strip bound ⟨d.digits / 10, d.exponent + 1⟩ else d

/-- Tries a number of grids, each ten times finer than the one before. -/
def search (tie : Tie) (i : Interval) : Nat → Int → Option Decimal
  | 0, _ => none
  | grids + 1, exponent =>
    match (i.scaled exponent).pick tie with
    | some digits => some ⟨digits, exponent⟩
    | none => search tie i grids (exponent - 1)

/-- An exponent of ten that no value of so many units reaches, and comes close to. -/
def coarsest (f : Format) (units : Nat) : Int :=
  (((units.log2 + 1 : Nat) : Int) - f.unitExponent) * 30103 / 100000 + 1

/-- The shortest decimal that rounds to a positive number of units. -/
def shortest (f : Format) (tie : Tie) (units : Nat) : Decimal :=
  match search tie (.ofUnits f units) 20 (coarsest f units) with
  | some d => d.strip 20
  | none => ⟨units * Nat.pow 5 f.unitExponent, -f.unitExponent⟩

end Decimal

end Mustache.Number
