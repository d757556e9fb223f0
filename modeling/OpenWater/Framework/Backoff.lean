import Mathlib.Algebra.Order.Ring.Basic
import Mathlib.Data.List.Basic

/-!
# Doubling backoff

A delay that is doubled after each wait and capped then. The first wait is the initial delay as it
stands: the cap is met by the later ones only.
-/

namespace OpenWater.Framework

variable {α : Type*} [Semiring α] [LinearOrder α]

def backoff (initial cap : α) : ℕ → α
  | 0 => initial
  | k + 1 => min (backoff initial cap k * 2) cap

def backoffs (initial cap : α) (n : ℕ) : List α := (List.range n).map (backoff initial cap)

/-- What the waits are to be: each the doubled initial delay or the cap, none above the cap and
none below the one before. -/
structure Paced (initial cap : α) (waits : List α) : Prop where
  sorted : waits.Pairwise (· ≤ ·)
  value : ∀ k d, waits[k]? = some d → d = min (initial * 2 ^ k) cap
  le_cap : ∀ d ∈ waits, d ≤ cap

variable {initial cap : α}

@[simp] theorem backoffs_zero : backoffs initial cap 0 = [] := rfl

theorem backoffs_succ (n : ℕ) :
    backoffs initial cap (n + 1) = backoffs initial cap n ++ [backoff initial cap n] := by
  simp [backoffs, List.range_succ]

@[simp] theorem length_backoffs (n : ℕ) : (backoffs initial cap n).length = n := by
  simp [backoffs]

variable [IsStrictOrderedRing α]

theorem min_mul_two_pow_succ (hcap : 0 ≤ cap) (k : ℕ) :
    min (min (initial * 2 ^ k) cap * 2) cap = min (initial * 2 ^ (k + 1)) cap := by
  have hdouble : cap ≤ cap * 2 := by
    rw [mul_two]
    exact le_add_of_nonneg_left hcap
  rw [min_mul_of_nonneg _ _ (zero_le_two : (0 : α) ≤ 2), mul_assoc, ← pow_succ, min_assoc,
    min_eq_right hdouble]

theorem backoff_eq (hinitial : 0 ≤ initial) (h : initial ≤ cap) (k : ℕ) :
    backoff initial cap k = min (initial * 2 ^ k) cap := by
  induction k with
  | zero => rw [backoff, pow_zero, mul_one, min_eq_left h]
  | succ k ih => rw [backoff, ih, min_mul_two_pow_succ (hinitial.trans h)]

theorem min_mul_two_pow_eq_iff (hinitial : 0 < initial) (h : initial ≤ cap) (k : ℕ) :
    min (initial * 2 ^ k) cap = initial ↔ initial = cap ∨ k = 0 := by
  constructor
  · intro hk
    rcases le_total (initial * 2 ^ k) cap with hle | hle
    · rw [min_eq_left hle] at hk
      right
      by_contra hne
      have hgrows : initial * 1 < initial * 2 ^ k :=
        mul_lt_mul_of_pos_left (one_lt_pow₀ one_lt_two hne) hinitial
      rw [mul_one, hk] at hgrows
      exact hgrows.false
    · rw [min_eq_right hle] at hk
      exact .inl hk.symm
  · rintro (rfl | rfl)
    · exact min_eq_right (le_mul_of_one_le_right hinitial.le (one_le_pow₀ one_le_two))
    · rw [pow_zero, mul_one, min_eq_left h]

theorem paced_of_values (hinitial : 0 ≤ initial) {waits : List α}
    (h : ∀ k d, waits[k]? = some d → d = min (initial * 2 ^ k) cap) : Paced initial cap waits where
  sorted := by
    rw [List.pairwise_iff_getElem]
    intro i j hi hj hij
    rw [h i _ (List.getElem?_eq_getElem hi), h j _ (List.getElem?_eq_getElem hj)]
    have hpow : (2 : α) ^ i ≤ 2 ^ j := pow_le_pow_right₀ one_le_two hij.le
    exact min_le_min_right cap (mul_le_mul_of_nonneg_left hpow hinitial)
  value := h
  le_cap d hd := by
    obtain ⟨k, hk⟩ := List.mem_iff_getElem?.mp hd
    rw [h k d hk]
    exact min_le_right _ _

theorem paced_backoffs_iff (hinitial : 0 ≤ initial) (n : ℕ) :
    Paced initial cap (backoffs initial cap n) ↔ n = 0 ∨ initial ≤ cap := by
  constructor
  · intro h
    cases n with
    | zero => exact .inl rfl
    | succ n => exact .inr (h.le_cap initial (List.mem_map.mpr ⟨0, by simp, rfl⟩))
  · rintro (rfl | hle)
    · exact ⟨by simp, by simp, by simp⟩
    · apply paced_of_values hinitial
      intro k d hk
      simp only [backoffs, List.getElem?_map, Option.map_eq_some_iff] at hk
      obtain ⟨j, hj, rfl⟩ := hk
      obtain ⟨_, rfl⟩ := List.getElem?_eq_some_iff.mp hj
      rw [List.getElem_range]
      exact backoff_eq hinitial hle k

end OpenWater.Framework
