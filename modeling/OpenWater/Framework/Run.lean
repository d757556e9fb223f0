import Mathlib.Tactic.Common

/-!
# Labelled runs

A system steps on a label, or refuses it. A run is a list of labels the system accepts one after
the other; a condition on steps can be asked of each step of a run, at the state it starts from.
-/

namespace OpenWater.Framework

variable {σ τ α β γ : Type*}

def run (step : σ → α → Option σ) : σ → List α → Option σ
  | s, [] => some s
  | s, a :: as => match step s a with
    | some s' => run step s' as
    | none => none

/-- Every step of the run meets `Ok` at the state it starts from. -/
def Along (step : σ → α → Option σ) (Ok : σ → α → Prop) : σ → List α → Prop
  | _, [] => True
  | s, a :: as => Ok s a ∧ ∀ s', step s a = some s' → Along step Ok s' as

instance Along.decidable {step : σ → α → Option σ} {Ok : σ → α → Prop}
    [∀ s a, Decidable (Ok s a)] : ∀ s as, Decidable (Along step Ok s as)
  | _, [] => isTrue trivial
  | s, a :: as =>
    have : ∀ s', Decidable (Along step Ok s' as) := fun s' => Along.decidable s' as
    inferInstanceAs (Decidable (Ok s a ∧ ∀ s' ∈ step s a, Along step Ok s' as))

theorem along_of_forall {step : σ → α → Option σ} {Ok : σ → α → Prop} (h : ∀ s a, Ok s a) :
    ∀ s as, Along step Ok s as
  | _, [] => trivial
  | s, a :: as => ⟨h s a, fun s' _ => along_of_forall h s' as⟩

theorem along_of_mem {step : σ → α → Option σ} {P : α → Prop} {as : List α}
    (h : ∀ a ∈ as, P a) (s : σ) : Along step (fun _ a => P a) s as := by
  induction as generalizing s with
  | nil => trivial
  | cons a as ih =>
    exact ⟨h a List.mem_cons_self, fun s' _ => ih (fun b hb => h b (List.mem_cons_of_mem _ hb)) s'⟩

theorem run_cons {step : σ → α → Option σ} {s t : σ} {a : α} {as : List α} :
    run step s (a :: as) = some t ↔ ∃ s', step s a = some s' ∧ run step s' as = some t := by
  rw [run]
  cases step s a <;> simp

theorem run_append {step : σ → α → Option σ} {s t : σ} {as bs : List α} :
    run step s (as ++ bs) = some t ↔ ∃ u, run step s as = some u ∧ run step u bs = some t := by
  induction as generalizing s with
  | nil => simp [run]
  | cons a as ih =>
    rw [List.cons_append, run, run]
    cases step s a with
    | none => simp
    | some s' => exact ih

theorem run_invariant {step : σ → α → Option σ} {Ok : σ → α → Prop} {I : σ → Prop}
    (hstep : ∀ s a s', I s → Ok s a → step s a = some s' → I s') {s t : σ} {as : List α}
    (hs : I s) (hok : Along step Ok s as) (hrun : run step s as = some t) : I t := by
  induction as generalizing s with
  | nil => exact (Option.some.inj hrun) ▸ hs
  | cons a as ih =>
    obtain ⟨s', hs', ht⟩ := run_cons.mp hrun
    exact ih (hstep s a s' hs hok.1 hs') (hok.2 s' hs') ht

theorem run_preserves {step : σ → α → Option σ} {I : σ → Prop}
    (hstep : ∀ s a s', I s → step s a = some s' → I s') {s t : σ} {as : List α}
    (hs : I s) (hrun : run step s as = some t) : I t := by
  induction as generalizing s with
  | nil => exact (Option.some.inj hrun) ▸ hs
  | cons a as ih =>
    obtain ⟨s', hs', ht⟩ := run_cons.mp hrun
    exact ih (hstep s a s' hs hs') ht

theorem length_le_work {step : σ → α → Option σ} {P : α → Prop} {work : σ → Nat}
    (hstep : ∀ s a s', P a → step s a = some s' → work s' < work s) {s t : σ} {as : List α}
    (has : ∀ a ∈ as, P a) (hrun : run step s as = some t) : as.length + work t ≤ work s := by
  induction as generalizing s with
  | nil =>
    obtain rfl := Option.some.inj hrun
    simp
  | cons a as ih =>
    obtain ⟨s', hs', ht⟩ := run_cons.mp hrun
    have hone := hstep s a s' (has a List.mem_cons_self) hs'
    have hrest := ih (fun b hb => has b (List.mem_cons_of_mem _ hb)) ht
    rw [List.length_cons]
    omega

/-- A system each of whose steps is a run of another system, with the same observations, has only
runs that the other one has. -/
theorem run_refines {step : σ → α → Option σ} {step' : τ → β → Option τ} {R : σ → τ → Prop}
    {obs : α → List γ} {obs' : β → List γ}
    (hstep : ∀ s a s' t, R s t → step s a = some s' →
      ∃ bs t', run step' t bs = some t' ∧ bs.flatMap obs' = obs a ∧ R s' t')
    {s s' : σ} {t : τ} {as : List α} (hrel : R s t) (hrun : run step s as = some s') :
    ∃ bs t', run step' t bs = some t' ∧ bs.flatMap obs' = as.flatMap obs ∧ R s' t' := by
  induction as generalizing s t with
  | nil =>
    obtain rfl := Option.some.inj hrun
    exact ⟨[], t, rfl, rfl, hrel⟩
  | cons a as ih =>
    obtain ⟨u, hu, hrest⟩ := run_cons.mp hrun
    obtain ⟨bs, v, hbs, hobs, hrel'⟩ := hstep s a u t hrel hu
    obtain ⟨cs, w, hcs, hobs', hrel''⟩ := ih hrel' hrest
    refine ⟨bs ++ cs, w, run_append.mpr ⟨v, hbs, hcs⟩, ?_, hrel''⟩
    rw [List.flatMap_append, hobs, hobs', List.flatMap_cons]

/-- Where `Ok` says of each step whether it keeps `P`, a run keeps `P` in all its states exactly
when it goes along `Ok`. -/
theorem along_iff {step : σ → α → Option σ} {Ok : σ → α → Prop} {I P : σ → Prop}
    (hinv : ∀ s a s', I s → step s a = some s' → I s')
    (hstep : ∀ s a s', I s → P s → step s a = some s' → (P s' ↔ Ok s a)) {s t : σ} {as : List α}
    (hs : I s) (hp : P s) (hrun : run step s as = some t) :
    (∀ before u, before <+: as → run step s before = some u → P u) ↔ Along step Ok s as := by
  induction as generalizing s with
  | nil =>
    refine iff_of_true ?_ trivial
    intro before u hb hu
    obtain rfl := List.prefix_nil.mp hb
    exact (Option.some.inj hu) ▸ hp
  | cons a as ih =>
    obtain ⟨s', hs', ht⟩ := run_cons.mp hrun
    have hone := hstep s a s' hs hp hs'
    constructor
    · intro hall
      have hp' : P s' := by
        apply hall [a] s' (List.cons_prefix_cons.mpr ⟨rfl, List.nil_prefix⟩)
        exact run_cons.mpr ⟨s', hs', rfl⟩
      refine ⟨hone.mp hp', ?_⟩
      intro s'' hs''
      obtain rfl := Option.some.inj (hs'.symm.trans hs'')
      apply (ih (hinv s a s' hs hs') hp' ht).mp
      intro before u hb hu
      exact hall (a :: before) u (List.cons_prefix_cons.mpr ⟨rfl, hb⟩)
        (run_cons.mpr ⟨s', hs', hu⟩)
    · rintro ⟨hok, hrest⟩ before u hb hu
      cases before with
      | nil => exact (Option.some.inj hu) ▸ hp
      | cons b before =>
        obtain ⟨rfl, htail⟩ := List.cons_prefix_cons.mp hb
        obtain ⟨s'', hs'', hu'⟩ := run_cons.mp hu
        obtain rfl := Option.some.inj (hs'.symm.trans hs'')
        exact (ih (hinv s b s' hs hs') (hone.mpr hok) ht).mpr (hrest s' hs') before u htail hu'

end OpenWater.Framework
