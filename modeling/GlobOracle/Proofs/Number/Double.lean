import GlobOracle.Number.Double
import Mathlib.Algebra.Order.Field.Power
import Mathlib.Algebra.Order.Ring.Rat

/-!
# The number that a double stands for

A finite double stands for a rational number, its magnitude with its sign.  `isPositive_iff` measures the
test for a positive double, which looks at bits only, by that number, and `IsNearest` says which double
stands for a rational number that is none's own.
-/

namespace GlobOracle.Double

/-- How far the number that a finite double stands for is from zero.  The bits of infinity come to the power
of two behind the largest finite double. -/
def size (x : Double) : ℚ := x.magnitude.significand * 2 ^ x.magnitude.exponent

/-- The number that a finite double stands for. -/
def toRat (x : Double) : ℚ := (if x.negative then -1 else 1) * x.size

/-- A double that is a number greater than zero: the positive infinity, or a finite one that stands for
such a number. -/
def IsAboveZero (x : Double) : Prop :=
  ¬x.isNaN ∧ if x.isInfinite then ¬x.negative else 0 < x.toRat

theorem significand_pos_iff (x : Double) : 0 < x.magnitude.significand ↔ ¬x.isZero := by
  by_cases h : x.exponentField = 0
  · simp [magnitude, isZero, h, Nat.pos_iff_ne_zero]
  · have hpow : 0 < 2 ^ 52 := by decide
    simp [magnitude, isZero, h]

theorem toRat_pos_iff (x : Double) : 0 < x.toRat ↔ ¬x.negative ∧ ¬x.isZero := by
  have hpow : (0 : ℚ) < 2 ^ x.magnitude.exponent := zpow_pos (by norm_num) _
  rw [← significand_pos_iff, toRat, size]
  by_cases hsign : x.negative
  · have hnonneg : (0 : ℚ) ≤ x.magnitude.significand * 2 ^ x.magnitude.exponent :=
      mul_nonneg (Nat.cast_nonneg _) hpow.le
    rw [if_pos hsign, neg_one_mul, neg_pos]
    exact ⟨fun h => absurd h hnonneg.not_gt, fun h => absurd hsign h.1⟩
  · rw [if_neg hsign, one_mul, mul_pos_iff_of_pos_right hpow, Nat.cast_pos]
    simp [hsign]

theorem isPositive_iff (x : Double) : x.isPositive ↔ x.IsAboveZero := by
  have hzero (hinf : x.isInfinite = true) : x.isZero = false := by
    simp only [isInfinite, isZero, Bool.and_eq_true, beq_iff_eq, Bool.and_eq_false_iff] at *
    left
    simp [hinf.1]
  by_cases hinf : x.isInfinite
  · simp [isPositive, IsAboveZero, hinf, hzero hinf, and_comm]
  · simp [isPositive, IsAboveZero, hinf, toRat_pos_iff, and_comm]

/-! ## The nearest double -/

/-- A double that may stand for a number that is not negative: its sign bit is not set, and it is a number
or infinity. -/
def IsCandidate (x : Double) : Prop := ¬x.negative ∧ ¬x.isNaN

/-- A double is the nearest one to a number that is not negative: no other candidate is nearer, and if another
one is as near, its own fraction is even. -/
structure IsNearest (v : ℚ) (x : Double) : Prop where
  candidate : x.IsCandidate
  nearest : ∀ y : Double, y.IsCandidate → |x.size - v| ≤ |y.size - v|
  even : ∀ y : Double, y.IsCandidate → y ≠ x → |x.size - v| = |y.size - v| →
    x.fractionField % 2 = 0

theorem toRat_of_isCandidate {x : Double} (h : x.IsCandidate) : x.toRat = x.size := by
  rw [toRat, if_neg h.1, one_mul]

theorem IsCandidate.isAboveZero {x : Double} (h : x.IsCandidate) (hpos : 0 < x.toRat) :
    x.IsAboveZero := by
  refine ⟨h.2, ?_⟩
  split
  · exact h.1
  · exact hpos

end GlobOracle.Double
