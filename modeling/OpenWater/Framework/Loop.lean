import Mathlib.Tactic.Common

/-!
# Unbounded loops

A `while True` body either goes round again with a new state or leaves with a result. Fuel bounds
the number of rounds; a variant shows how much of it is enough. A retry loop with a budget stops at
the first attempt that is not worth another one, or at the last attempt it has.
-/

namespace OpenWater.Framework

variable {σ ρ : Type*}

def iterate (body : σ → σ ⊕ ρ) : Nat → σ → Option ρ
  | 0, _ => none
  | fuel + 1, s => match body s with
    | .inl s' => iterate body fuel s'
    | .inr r => some r

theorem iterate_inl {body : σ → σ ⊕ ρ} {s s' : σ} (h : body s = .inl s') (fuel : Nat) :
    iterate body (fuel + 1) s = iterate body fuel s' := by
  rw [iterate, h]

theorem iterate_inr {body : σ → σ ⊕ ρ} {s : σ} {r : ρ} (h : body s = .inr r) (fuel : Nat) :
    iterate body (fuel + 1) s = some r := by
  rw [iterate, h]

/-- Partial correctness: an invariant of the rounds that gives the postcondition on leaving. -/
theorem iterate_invariant {body : σ → σ ⊕ ρ} {I : σ → Prop} {Q : ρ → Prop}
    (hround : ∀ s s', I s → body s = .inl s' → I s')
    (hleave : ∀ s r, I s → body s = .inr r → Q r)
    {fuel : Nat} {s : σ} {r : ρ} (hs : I s) (hr : iterate body fuel s = some r) : Q r := by
  induction fuel generalizing s with
  | zero => simp [iterate] at hr
  | succ fuel ih =>
    cases hb : body s with
    | inl s' =>
      simp only [iterate, hb] at hr
      exact ih (hround s s' hs hb) hr
    | inr r' =>
      simp only [iterate, hb, Option.some.injEq] at hr
      exact hr ▸ hleave s r' hs hb

/-- Termination: a variant that falls in each round bounds the number of rounds. -/
theorem iterate_terminates {body : σ → σ ⊕ ρ} {I : σ → Prop} (variant : σ → Nat)
    (hround : ∀ s s', I s → body s = .inl s' → I s' ∧ variant s' < variant s)
    {fuel : Nat} {s : σ} (hs : I s) (hf : variant s < fuel) :
    ∃ r, iterate body fuel s = some r := by
  induction fuel generalizing s with
  | zero => omega
  | succ fuel ih =>
    cases hb : body s with
    | inl s' =>
      obtain ⟨hs', hv⟩ := hround s s' hs hb
      simpa only [iterate, hb] using ih hs' (by omega)
    | inr r => exact ⟨r, by simp only [iterate, hb]⟩

/-- A retry loop with `budget` attempts stops after attempt `n` (counted from 0), where `again k`
says that attempt `k` asks for another one. -/
structure StopsAt (again : Nat → Prop) (budget n : Nat) : Prop where
  lt : n < budget
  before : ∀ j < n, again j
  last : again n → n + 1 = budget

theorem StopsAt.exhausted_iff {again : Nat → Prop} {budget n : Nat}
    (h : StopsAt again budget n) : again n ↔ ∀ k < budget, again k := by
  constructor
  · intro hn k hk
    have hlast := h.last hn
    rcases Nat.lt_or_ge k n with hkn | hkn
    · exact h.before k hkn
    · have hkeq : k = n := by omega
      exact hkeq ▸ hn
  · intro hall
    exact hall n h.lt

theorem StopsAt.eq_of_first {again : Nat → Prop} {budget n k : Nat} (h : StopsAt again budget n)
    (hk : k < budget) (hnot : ¬ again k) (hbefore : ∀ j < k, again j) : n = k := by
  rcases Nat.lt_trichotomy n k with hlt | heq | hgt
  · have hlast := h.last (hbefore n hlt)
    omega
  · exact heq
  · exact absurd (h.before k hgt) hnot

theorem StopsAt.verdict_iff {again V : Nat → Prop} {budget n : Nat}
    (h : StopsAt again budget n) (hv : ∀ k, V k → ¬ again k) :
    V n ↔ ∃ k < budget, V k ∧ ∀ j < k, again j := by
  constructor
  · intro hn
    exact ⟨n, h.lt, hn, h.before⟩
  · rintro ⟨k, hk, hvk, hbefore⟩
    rw [h.eq_of_first hk (hv k hvk) hbefore]
    exact hvk

end OpenWater.Framework
