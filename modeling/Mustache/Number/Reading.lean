import Mustache.Number.Binary64
/-!
Reading decimal numbers. The value of a decimal text is exact until the one rounding at the end; a
decimal far outside the range of a format is not computed with.
-/
namespace Mustache.Number

/-- The value of a run of decimal digits. -/
def digitsValue (cs : List Char) : Nat := cs.foldl (fun n c => 10 * n + (c.toNat - '0'.toNat)) 0

/-- A decimal number as it is written: a sign, digits and a power of ten. -/
structure Literal where
  negative : Bool
  digits : Nat
  exponent : Int
deriving DecidableEq, Repr

namespace Literal

/-- The exponent part of a number, zero if there is none. -/
def exponent? : List Char → Option Int
  | [] => some 0
  | mark :: rest =>
    if mark = 'e' ∨ mark = 'E' then
      match rest with
      | '-' :: digits => if accepts digits then some (-(digitsValue digits : Int)) else none
      | '+' :: digits => if accepts digits then some (digitsValue digits) else none
      | digits => if accepts digits then some (digitsValue digits) else none
    else none
where
  /-- Whether a text is a run of at least one digit. -/
  accepts (cs : List Char) : Bool := !cs.isEmpty && cs.all Char.isDigit

/-- An unsigned decimal number: digits with at most one point among them, and an exponent. -/
def ofUnsigned? (negative : Bool) (cs : List Char) : Option Literal :=
  let whole := cs.takeWhile Char.isDigit
  let afterWhole := cs.dropWhile Char.isDigit
  let (fraction, rest) := match afterWhole with
    | '.' :: rest => (rest.takeWhile Char.isDigit, rest.dropWhile Char.isDigit)
    | rest => ([], rest)
  if whole.isEmpty && fraction.isEmpty then none
  else (exponent? rest).map fun exponent =>
    ⟨negative, digitsValue (whole ++ fraction), exponent - fraction.length⟩

/-- The exponent of the leading digit. -/
def leading (l : Literal) : Int := l.exponent + (Nat.toDigits 10 l.digits).length - 1

/-- The number of a format nearest to a literal, given how it rounds ratios and the exponents of
the leading digit outside of which all literals overflow or vanish. -/
def round (ofRatio : Bool → Nat → Nat → Binary64) (least greatest : Int) (l : Literal) : Binary64 :=
  if l.digits = 0 ∨ l.leading < least then .finite l.negative 0
  else if greatest < l.leading then .infinite l.negative
  else
    ofRatio l.negative (l.digits * Nat.pow 10 l.exponent.toNat) (Nat.pow 10 (-l.exponent).toNat)

/-- The 64-bit number nearest to a literal. -/
def toBinary64 (l : Literal) : Binary64 := l.round Binary64.ofRatio (-400) 400

/-- The 32-bit number nearest to a literal. -/
def toBinary32 (l : Literal) : Binary64 := l.round Binary64.ofRatio32 (-100) 100

end Literal

/-- A signed number, or one of the names of infinities and the undefined number in any case. -/
def readWith (round : Literal → Binary64) (text : String) : Option Binary64 :=
  let (negative, cs) := match text.toList with
    | '-' :: rest => (true, rest)
    | '+' :: rest => (false, rest)
    | rest => (false, rest)
  let lower := String.ofList (cs.map Char.toLower)
  if lower = "nan" then some .nan
  else if lower = "inf" ∨ lower = "infinity" then some (.infinite negative)
  else (Literal.ofUnsigned? negative cs).map round

end Mustache.Number

namespace Mustache.Binary64

/-- The number that a text stands for. -/
def read? (text : String) : Option Binary64 := Number.readWith Number.Literal.toBinary64 text

/-- The number that a text stands for, rounded to 32 bits. -/
def read32? (text : String) : Option Binary64 := Number.readWith Number.Literal.toBinary32 text

end Mustache.Binary64
