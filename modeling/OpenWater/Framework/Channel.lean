import OpenWater.Framework.Run

/-!
# Channels that may lose

A first-in first-out channel from a source to a sink. It may lose what it carries, but it never
reorders, repeats or makes up anything. A system whose steps are moves of such a channel is known
by what arrives: in every run a subsequence of what was sent, and without losses a prefix of it.
-/

namespace OpenWater.Framework

variable {α β σ : Type*}

/-- What is under way and what has arrived, each in the order of sending. -/
structure Channel (α : Type*) where
  carried : List α
  arrived : List α

namespace Channel

def idle : Channel α := ⟨[], []⟩

/-- One move, and what the source sends in it; losing is allowed if `lossy`. -/
inductive Moves (lossy : Prop) : Channel α → List α → Channel α → Prop
  | put (carried arrived : List α) (x : α) :
      Moves lossy ⟨carried, arrived⟩ [x] ⟨carried ++ [x], arrived⟩
  | arrive (x : α) (carried arrived : List α) :
      Moves lossy ⟨x :: carried, arrived⟩ [] ⟨carried, arrived ++ [x]⟩
  | lose {carried kept : List α} (arrived : List α) (h : lossy) (hkept : kept.Sublist carried) :
      Moves lossy ⟨carried, arrived⟩ [] ⟨kept, arrived⟩

/-- Any number of moves, and all that is sent in them. -/
inductive Steps (lossy : Prop) : Channel α → List α → Channel α → Prop
  | refl (ch : Channel α) : Steps lossy ch [] ch
  | tail {ch ch' ch'' : Channel α} {sent more : List α} (h : Steps lossy ch sent ch')
      (hmove : Moves lossy ch' more ch'') : Steps lossy ch (sent ++ more) ch''

variable {lossy : Prop} {ch ch' ch'' : Channel α} {sent more : List α}

theorem Moves.mono {lossy' : Prop} (himp : lossy → lossy') (h : Moves lossy ch sent ch') :
    Moves lossy' ch sent ch' := by
  cases h with
  | put carried arrived x => exact .put carried arrived x
  | arrive x carried arrived => exact .arrive x carried arrived
  | lose arrived hlossy hkept => exact .lose arrived (himp hlossy) hkept

theorem Moves.steps (h : Moves lossy ch sent ch') : Steps lossy ch sent ch' :=
  Steps.tail (.refl ch) h

theorem Steps.mono {lossy' : Prop} (himp : lossy → lossy') (h : Steps lossy ch sent ch') :
    Steps lossy' ch sent ch' := by
  induction h with
  | refl => exact .refl _
  | tail _ hmove ih => exact ih.tail (hmove.mono himp)

theorem Steps.trans (h : Steps lossy ch sent ch') (h' : Steps lossy ch' more ch'') :
    Steps lossy ch (sent ++ more) ch'' := by
  induction h' with
  | refl =>
    rw [List.append_nil]
    exact h
  | tail _ hmove ih =>
    rw [← List.append_assoc]
    exact ih.tail hmove

theorem putAll (carried arrived xs : List α) :
    Steps lossy ⟨carried, arrived⟩ xs ⟨carried ++ xs, arrived⟩ := by
  induction xs generalizing carried with
  | nil =>
    rw [List.append_nil]
    exact .refl _
  | cons x xs ih =>
    have hput := (Moves.put carried arrived x : Moves lossy _ _ _).steps
    rw [List.append_cons]
    exact hput.trans (ih (carried ++ [x]))

theorem lose_or_keep {carried kept : List α} (arrived : List α) (hkept : kept.Sublist carried) :
    Steps (kept ≠ carried) ⟨carried, arrived⟩ [] ⟨kept, arrived⟩ := by
  by_cases heq : kept = carried
  · rw [heq]
    exact .refl _
  · exact (Moves.lose arrived heq hkept).steps

def content (ch : Channel α) : List α := ch.arrived ++ ch.carried

theorem Moves.content_sublist (h : Moves lossy ch sent ch') :
    ch'.content.Sublist (ch.content ++ sent) := by
  cases h with
  | put carried arrived x => simp only [content, List.append_assoc, List.Sublist.refl]
  | arrive x carried arrived =>
    simp only [content, List.append_assoc, List.append_nil, List.singleton_append,
      List.Sublist.refl]
  | lose arrived _ hkept =>
    rw [content, content, List.append_nil]
    exact hkept.append_left arrived

theorem Moves.content_eq (h : Moves False ch sent ch') : ch'.content = ch.content ++ sent := by
  cases h with
  | put carried arrived x => exact (List.append_assoc _ _ _).symm
  | arrive x carried arrived => simp [content]
  | lose _ hlossy _ => exact hlossy.elim

theorem Steps.content_sublist (h : Steps lossy ch sent ch') :
    ch'.content.Sublist (ch.content ++ sent) := by
  induction h with
  | refl => exact (List.append_nil ch.content).symm ▸ List.Sublist.refl ch.content
  | tail _ hmove ih =>
    rw [← List.append_assoc]
    exact hmove.content_sublist.trans (ih.append_right _)

theorem Steps.content_eq (h : Steps False ch sent ch') : ch'.content = ch.content ++ sent := by
  induction h with
  | refl => exact (List.append_nil _).symm
  | tail _ hmove ih => rw [hmove.content_eq, ih, List.append_assoc]

/-! ## Systems that behave like a channel -/

theorem run_steps {step : σ → β → Option σ} {sends : β → List α} {Loses : σ → β → Prop}
    {R : σ → Channel α → Prop}
    (hstep : ∀ s b s' ch, R s ch → step s b = some s' →
      ∃ ch', Steps (Loses s b) ch (sends b) ch' ∧ R s' ch')
    {s t : σ} {bs : List β} (hrel : R s ch)
    (hlossy : Along step (fun s b => Loses s b → lossy) s bs) (hrun : run step s bs = some t) :
    ∃ ch', Steps lossy ch (bs.flatMap sends) ch' ∧ R t ch' := by
  induction bs generalizing s ch with
  | nil =>
    obtain rfl := Option.some.inj hrun
    exact ⟨ch, .refl ch, hrel⟩
  | cons b bs ih =>
    obtain ⟨s', hs', ht⟩ := run_cons.mp hrun
    obtain ⟨ch', hsteps, hrel'⟩ := hstep s b s' ch hrel hs'
    obtain ⟨ch'', hrest, hrel''⟩ := ih hrel' (hlossy.2 s' hs') ht
    exact ⟨ch'', (hsteps.mono hlossy.1).trans hrest, hrel''⟩

end Channel

end OpenWater.Framework
