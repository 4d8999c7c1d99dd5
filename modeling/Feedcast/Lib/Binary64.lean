/-
  Feedcast.Lib.Binary64 — arithmetic of doubles, on the rationals they denote.

  An operation is the exact one, and its result is rounded to the nearest double,
  a tie to the one with an even significand.  Zero has no sign here, and nothing
  overflows: what is computed stays far below the largest double.

    • `nearestDouble` — the rounding,
    • `sumFloats` — a compensated sum, in an arithmetic that rounds as it is told,
    • `sumFloats_exact` — where nothing is rounded, it is the sum.
-/
import Mathlib.Algebra.BigOperators.Group.List.Basic
import Mathlib.Algebra.Order.Group.Unbundled.Abs
import Mathlib.Data.Rat.Floor
import Mathlib.Tactic.Ring

namespace Feedcast.Lib

/-! ## §1. Rounding. -/

/-- The nearest integer, a tie to the even one. -/
def roundHalfEven (x : ℚ) : Int :=
  let below := ⌊x⌋
  if x - below < 1 / 2 then below
  else if 1 / 2 < x - below then below + 1
  else if below % 2 = 0 then below else below + 1

/-- The exponent of the power of two at or below a number. -/
def binade (x : ℚ) : Int :=
  let exponent : Int := Nat.log2 x.num.natAbs - Nat.log2 x.den
  -- the quotient of the two powers is that or the next one above
  if (2 : ℚ) ^ exponent ≤ |x| then exponent else exponent - 1

/-- The nearest double: 53 bits, and none below the smallest of them all. -/
def nearestDouble (x : ℚ) : ℚ :=
  let unit : ℚ := 2 ^ max (binade x - 52) (-1074)
  roundHalfEven (x / unit) * unit

/-! ## §2. A sum. -/

/-- One summand: the total so far, and what its roundings have lost. -/
def sumFloatsStep (fl : ℚ → ℚ) (acc : ℚ × ℚ) (x : ℚ) : ℚ × ℚ :=
  let total := fl (acc.1 + x)
  let lost :=
    if |x| ≤ |acc.1| then fl (fl (acc.1 - total) + x) else fl (fl (x - total) + acc.1)
  (total, fl (acc.2 + lost))

/-- The compensated sum of Neumaier, where `fl` rounds the result of an operation. -/
def sumFloats (fl : ℚ → ℚ) (xs : List ℚ) : ℚ :=
  let acc := xs.foldl (sumFloatsStep fl) (0, 0)
  fl (acc.1 + acc.2)

/-- Nothing is lost where nothing is rounded. -/
theorem sumFloatsStep_exact (total x : ℚ) : sumFloatsStep id (total, 0) x = (total + x, 0) := by
  have hfirst : total - (total + x) + x = 0 := by ring
  have hsecond : x - (total + x) + total = 0 := by ring
  simp only [sumFloatsStep, id_eq, hfirst, hsecond, ite_self, add_zero]

theorem sumFloats_exact (xs : List ℚ) : sumFloats id xs = xs.sum := by
  have hfold (total : ℚ) : xs.foldl (sumFloatsStep id) (total, 0) = (total + xs.sum, 0) := by
    induction xs generalizing total with
    | nil => rw [List.foldl_nil, List.sum_nil, add_zero]
    | cons x xs ih => rw [List.foldl_cons, sumFloatsStep_exact, ih, List.sum_cons, add_assoc]
  unfold sumFloats
  rw [hfold]
  simp

end Feedcast.Lib
