import Mathlib.Data.List.DropRight

/-!
# Separated text

Text that is split at a separator, with the parts stripped of the space around them and the empty
ones left out. Joining the parts again gives a text with the same parts.
-/

namespace OpenWater.Framework

variable {α : Type*} {space : α → Bool}

def strip (space : α → Bool) (s : List α) : List α := (s.dropWhile space).rdropWhile space

structure Stripped (space : α → Bool) (s : List α) : Prop where
  head : ∀ x ∈ s.head?, space x = false
  last : ∀ x ∈ s.getLast?, space x = false

theorem strip_stripped (space : α → Bool) (s : List α) : Stripped space (strip space s) where
  head x hx := by
    obtain ⟨rest, hrest⟩ := List.rdropWhile_prefix space (l := s.dropWhile space)
    have hfirst : (strip space s ++ rest).head? = some x := by
      rw [List.head?_append, Option.mem_def.mp hx]
      rfl
    have hhead := List.head?_dropWhile_not space s
    rw [← hrest, show List.rdropWhile space (s.dropWhile space) = strip space s from rfl,
      hfirst] at hhead
    simpa using hhead
  last x hx := by
    obtain ⟨hne, rfl⟩ := List.mem_getLast?_eq_getLast hx
    exact Bool.eq_false_iff.mpr (List.rdropWhile_last_not space (s.dropWhile space) hne)

theorem Stripped.strip_eq {s : List α} (h : Stripped space s) : strip space s = s := by
  have hdrop : s.dropWhile space = s := by
    cases s with
    | nil => rfl
    | cons x s => rw [List.dropWhile_cons, if_neg (by simp [h.head x rfl])]
  rw [strip, hdrop, List.rdropWhile_eq_self_iff]
  intro hne
  simp [h.last _ (List.getLast?_eq_some_getLast hne)]

theorem strip_sublist (space : α → Bool) (s : List α) : (strip space s).Sublist s :=
  (List.rdropWhile_prefix space _).sublist.trans (List.dropWhile_sublist space)

theorem strip_eq_nil {s : List α} : strip space s = [] ↔ ∀ x ∈ s, space x = true := by
  rw [strip, List.rdropWhile_eq_nil_iff]
  constructor
  · intro h x hx
    rw [← List.takeWhile_append_dropWhile (p := space) (l := s)] at hx
    rcases List.mem_append.mp hx with hx | hx
    · exact List.mem_takeWhile_imp hx
    · exact h x hx
  · intro h x hx
    exact h x ((List.dropWhile_sublist space).subset hx)

variable [DecidableEq α] {sep : α}

def fields (sep : α) (space : α → Bool) (s : List α) : List (List α) :=
  ((s.splitOn sep).filter fun part => strip space part ≠ []).map (strip space)

theorem mem_splitOn {s : List α} {x : α} :
    (∃ part ∈ s.splitOn sep, x ∈ part) ↔ x ∈ s ∧ x ≠ sep := by
  induction s with
  | nil => simp
  | cons y s ih =>
    rw [List.splitOn_cons_eq_if_modifyHead]
    by_cases hy : y = sep
    · rw [if_pos (by simpa using hy)]
      subst hy
      simp only [List.mem_cons, exists_eq_or_imp, List.not_mem_nil, false_or, ih]
      tauto
    · rw [if_neg (by simpa using hy)]
      obtain ⟨part, parts, hparts⟩ := List.exists_cons_of_ne_nil (List.splitOn_ne_nil sep s)
      rw [hparts] at ih ⊢
      simp only [List.modifyHead_cons, List.mem_cons, exists_eq_or_imp] at ih ⊢
      constructor
      · rintro ((rfl | hx) | hx)
        · exact ⟨.inl rfl, hy⟩
        · exact (ih.mp (.inl hx)).imp .inr id
        · exact (ih.mp (.inr hx)).imp .inr id
      · rintro ⟨rfl | hx, hne⟩
        · exact .inl (.inl rfl)
        · exact (ih.mpr ⟨hx, hne⟩).imp .inr id

structure Field (sep : α) (space : α → Bool) (part : List α) : Prop where
  nonempty : part ≠ []
  no_sep : sep ∉ part
  stripped : Stripped space part

theorem field_of_mem {s part : List α} (h : part ∈ fields sep space s) :
    Field sep space part := by
  obtain ⟨whole, hwhole, rfl⟩ := List.mem_map.mp h
  obtain ⟨hmem, hne⟩ := List.mem_filter.mp hwhole
  refine ⟨by simpa using hne, ?_, strip_stripped space whole⟩
  intro hsep
  exact (mem_splitOn.mp ⟨whole, hmem, (strip_sublist space whole).subset hsep⟩).2 rfl

theorem fields_intercalate {parts : List (List α)} (h : ∀ part ∈ parts, Field sep space part) :
    fields sep space ([sep].intercalate parts) = parts := by
  have hself : ∀ part ∈ parts, strip space part = part := fun part hpart =>
    (h part hpart).stripped.strip_eq
  cases parts with
  | nil => rfl
  | cons part parts =>
    rw [fields, List.splitOn_intercalate sep (fun p hp => (h p hp).no_sep) (by simp),
      List.filter_eq_self.mpr]
    · exact (List.map_congr_left hself).trans (List.map_id' _)
    · intro p hp
      simp [hself p hp, (h p hp).nonempty]

theorem fields_eq_nil {s : List α} :
    fields sep space s = [] ↔ ∀ x ∈ s, x = sep ∨ space x = true := by
  have hnone : fields sep space s = [] ↔
      ∀ part ∈ s.splitOn sep, ∀ x ∈ part, space x = true := by
    simp [fields, List.filter_eq_nil_iff, strip_eq_nil]
  rw [hnone]
  constructor
  · intro h x hx
    rw [or_iff_not_imp_left]
    intro hsep
    obtain ⟨part, hpart, hmem⟩ := mem_splitOn.mpr ⟨hx, hsep⟩
    exact h part hpart x hmem
  · intro h part hpart x hx
    obtain ⟨hmem, hsep⟩ := mem_splitOn.mp ⟨part, hpart, hx⟩
    exact (h x hmem).resolve_left hsep

end OpenWater.Framework
