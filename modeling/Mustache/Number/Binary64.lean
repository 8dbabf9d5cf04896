import Mustache.Number.Rounding
/-!
Floating-point numbers of 64 bits. A finite number is a sign and a count of the smallest unit,
2^-1074, so that every operation here is exact arithmetic on natural numbers and one rounding.
-/
namespace Mustache

/-- A floating-point number. -/
inductive Binary64 where
  | nan
  | infinite (negative : Bool)
  /-- A sign and a number of units of 2^-1074; zero has a sign as well. -/
  | finite (negative : Bool) (units : Nat)
deriving DecidableEq, Repr

namespace Binary64

open Number

/-- The number nearest to a signed ratio; one that overflows is infinite. -/
def ofRatio (negative : Bool) (numerator denominator : Nat) : Binary64 :=
  match binary64.round? numerator denominator with
  | some units => .finite negative units
  | none => .infinite negative

/-- The number nearest to a natural number. -/
def ofNat (n : Nat) : Binary64 := ofRatio false n 1

/-- The number nearest to a signed ratio among the 32-bit numbers. -/
def ofRatio32 (negative : Bool) (numerator denominator : Nat) : Binary64 :=
  match binary32.round? numerator denominator with
  | some units =>
    .finite negative (units * Nat.pow 2 (binary64.unitExponent - binary32.unitExponent))
  | none => .infinite negative

/-- Whether a number is zero, of either sign. -/
def isZero : Binary64 → Bool
  | .finite _ units => units == 0
  | _ => false

/-- Whether a number is neither infinite nor undefined. -/
def isFinite : Binary64 → Bool
  | .finite _ _ => true
  | _ => false

/-- Numeric equality: the undefined number equals nothing and the two zeros are equal. -/
def equal : Binary64 → Binary64 → Bool
  | .infinite a, .infinite b => a == b
  | .finite a m, .finite b n => m == n && (a == b || m == 0)
  | _, _ => false

theorem equal_symm (a b : Binary64) (h : a.equal b = true) : b.equal a = true := by
  cases a <;> cases b <;> simp_all [equal]
  rcases h with ⟨rfl, h | h⟩ <;> simp_all

theorem equal_trans {a b c : Binary64} (first : a.equal b = true) (second : b.equal c = true) :
    a.equal c = true := by
  match a, b, c with
  | .infinite _, .infinite _, .infinite _ =>
    simp only [equal, beq_iff_eq] at first second ⊢
    exact first.trans second
  | .finite _ _, .finite _ _, .finite _ _ =>
    simp only [equal, Bool.and_eq_true, Bool.or_eq_true, beq_iff_eq] at first second ⊢
    obtain ⟨rfl, rfl | zero⟩ := first
    · exact second
    · exact ⟨second.1, .inr zero⟩

/-- A number differs from itself exactly if it is undefined. -/
theorem equal_self (a : Binary64) : a.equal a = true ↔ a ≠ .nan := by
  cases a <;> simp [equal]

end Binary64

end Mustache
