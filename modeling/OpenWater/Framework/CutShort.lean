import OpenWater.Framework.Transaction

/-!
# Programs that are cut short

A program makes queries, numbered in the order it makes them, and the environment may fail any of
them. The first failure ends the program; the rules say step by step how many queries there are.
-/

namespace OpenWater.Framework

variable {ε φ α β : Type}

/-- The program makes the `n` queries from `first` on: it ends as it does without failures, or with
the first of these that fails. -/
def CutShort (failed : φ → ε) (first n : Nat) (run : (Nat → Option φ) → Except ε α) : Prop :=
  ∀ failures, run failures = match (List.range' first n).findSome? failures with
    | none => run fun _ => none
    | some failure => .error (failed failure)

/-- The program makes at most `count` queries, and so many where it succeeds without failures. -/
def Asks (failed : φ → ε) (first count : Nat) (run : (Nat → Option φ) → Except ε α) : Prop :=
  ∃ n ≤ count, CutShort failed first n run ∧ ∀ a, run (fun _ => none) = .ok a → n = count

def Avoids (P : ε → Prop) (x : Except ε α) : Prop := ∀ e, x = .error e → ¬ P e

variable {failed : φ → ε} {first c d : Nat} {x : (Nat → Option φ) → Except ε α}
  {f : α → (Nat → Option φ) → Except ε β}

theorem Asks.const (y : Except ε α) : Asks failed first 0 fun _ => y :=
  ⟨0, Nat.le_refl 0, fun _ => rfl, fun _ _ => rfl⟩

private theorem cutShort_error {n : Nat} {e : ε} (h : CutShort failed first n x)
    (hcalm : x (fun _ => none) = .error e) :
    CutShort failed first n fun failures => x failures >>= fun a => f a failures := by
  intro failures
  have hx := h failures
  cases hfirst : (List.range' first n).findSome? failures with
  | none =>
    rw [hfirst] at hx
    simp only [hx, hcalm]
    rfl
  | some failure =>
    rw [hfirst] at hx
    simp only [hx]
    rfl

private theorem cutShort_ok {n m : Nat} {a : α} (h : CutShort failed first n x)
    (hcalm : x (fun _ => none) = .ok a) (hf : CutShort failed (first + n) m (f a)) :
    CutShort failed first (n + m) fun failures => x failures >>= fun a => f a failures := by
  intro failures
  have hx := h failures
  rw [← List.range'_append_1, List.findSome?_append]
  cases hfirst : (List.range' first n).findSome? failures with
  | none =>
    rw [hfirst] at hx
    simp only [hx, hcalm, Option.none_or]
    exact hf failures
  | some failure =>
    rw [hfirst] at hx
    simp only [hx, Option.some_or]
    rfl

/-- The second program starts counting where the first one ends. -/
theorem Asks.bind (hx : Asks failed first c x) (hf : ∀ a, Asks failed (first + c) d (f a)) :
    Asks failed first (c + d) fun failures => x failures >>= fun a => f a failures := by
  obtain ⟨n, hn, hcut, hall⟩ := hx
  cases hcalm : x fun _ => none with
  | error e =>
    refine ⟨n, by omega, cutShort_error hcut hcalm, ?_⟩
    intro b hb
    simp only [hcalm] at hb
    cases hb
  | ok a =>
    obtain rfl := hall a hcalm
    obtain ⟨m, hm, hcut', hall'⟩ := hf a
    refine ⟨n + m, by omega, cutShort_ok hcut hcalm hcut', ?_⟩
    intro b hb
    simp only [hcalm] at hb
    rw [hall' b hb]

theorem Asks.map (h : Asks failed first c x) (g : α → β) :
    Asks failed first c fun failures => (x failures).map g := by
  obtain ⟨n, hn, hcut, hall⟩ := h
  refine ⟨n, hn, ?_, ?_⟩
  · intro failures
    simp only [hcut failures]
    cases (List.range' first n).findSome? failures <;> rfl
  · intro b hb
    cases hcalm : x fun _ => none with
    | error e =>
      simp only [hcalm] at hb
      cases hb
    | ok a => exact hall a hcalm

variable {P : ε → Prop} {y : Except ε α} {g : α → Except ε β}

theorem Avoids.ok (a : α) : Avoids P (.ok a) := nofun

theorem Avoids.bind (h : Avoids P y) (hg : ∀ a, Avoids P (g a)) : Avoids P (y >>= g) := by
  intro e he
  rcases bind_error.mp he with herror | ⟨a, _, herror⟩
  · exact h e herror
  · exact hg a e herror

theorem Avoids.map (h : Avoids P y) (g : α → β) : Avoids P (y.map g) := by
  intro e he
  cases y with
  | ok a => cases he
  | error e' => exact h e (congrArg Except.error (Except.error.inj he))

end OpenWater.Framework
