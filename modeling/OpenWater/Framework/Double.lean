import Mathlib.Data.Rat.Cast.Order
import Mathlib.Tactic.Common

/-!
# Binary floating point, by value

A double is one of the two infinities, a NaN or a rational. Rounding is not modelled: no result
below depends on which rationals are representable. The two comparisons in use differ on NaN. An
IEEE comparison with NaN is false, and PostgreSQL sorts NaN above every other value.
-/

namespace OpenWater.Framework

inductive Double where
  | nan
  | negInf
  | finite (q : ℚ)
  | posInf
  deriving DecidableEq

namespace Double

/-- IEEE `<`, as Python compares floats. -/
def lt : Double → Double → Bool
  | .negInf, .finite _ => true
  | .negInf, .posInf => true
  | .finite p, .finite q => decide (p < q)
  | .finite _, .posInf => true
  | _, _ => false

/-- `<=` of PostgreSQL's total order on DOUBLE PRECISION. -/
def sqlLe : Double → Double → Bool
  | .negInf, _ => true
  | _, .nan => true
  | .finite p, .finite q => decide (p ≤ q)
  | .finite _, .posInf => true
  | .posInf, .posInf => true
  | _, _ => false

def between (lo hi : ℚ) (v : Double) : Bool := sqlLe (.finite lo) v && sqlLe v (.finite hi)

/-- A range check that rejects what is below `lo` or above `hi`. -/
def withinBounds (lo hi : ℚ) (v : Double) : Bool := !lt v (.finite lo) && !lt (.finite hi) v

theorem between_iff {lo hi : ℚ} {v : Double} :
    v.between lo hi = true ↔ ∃ q, v = .finite q ∧ lo ≤ q ∧ q ≤ hi := by
  cases v <;> simp [between, sqlLe]

theorem withinBounds_iff {lo hi : ℚ} {v : Double} :
    v.withinBounds lo hi = true ↔ v = .nan ∨ ∃ q, v = .finite q ∧ lo ≤ q ∧ q ≤ hi := by
  cases v <;> simp [withinBounds, lt]

theorem between_of_withinBounds {lo hi : ℚ} {v : Double} (h : v.withinBounds lo hi = true) :
    v.between lo hi = true ↔ v ≠ .nan := by
  rcases withinBounds_iff.mp h with rfl | ⟨q, rfl, hq⟩
  · simp [between, sqlLe]
  · simpa [between_iff] using hq

end Double

end OpenWater.Framework
