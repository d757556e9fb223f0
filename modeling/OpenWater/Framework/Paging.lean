import Mathlib.Data.List.Nodup
import Mathlib.Data.List.Perm.Subperm
import Mathlib.Data.List.Range
import Mathlib.Data.List.Sort
import OpenWater.Framework.Query
import OpenWater.Framework.Run

/-!
# Offset paging

A client reads a sorted query page by page, and the query is run again for each page. Rows that
compare equal can stand elsewhere each time, and the rows can change between two pages. What is
certain about a row is how many rows come before it in every arrangement.
-/

namespace OpenWater.Framework

variable {ρ : Type*}

def window (limit offset : Nat) (rows : List ρ) : List ρ := (rows.drop offset).take limit

@[simp] theorem length_window (limit offset : Nat) (rows : List ρ) :
    (window limit offset rows).length = min limit (rows.length - offset) := by
  simp [window]

theorem mem_window {limit offset : Nat} {rows : List ρ} {r : ρ} :
    r ∈ window limit offset rows ↔ ∃ i, offset ≤ i ∧ i < offset + limit ∧ rows[i]? = some r := by
  simp only [window, List.mem_iff_getElem?, List.getElem?_take, List.getElem?_drop,
    Option.ite_none_right_eq_some]
  constructor
  · rintro ⟨j, hj, hr⟩
    exact ⟨offset + j, by omega, by omega, hr⟩
  · rintro ⟨i, hlo, hhi, hr⟩
    refine ⟨i - offset, by omega, ?_⟩
    rwa [Nat.add_sub_cancel' hlo]

theorem window_append (limit offset : Nat) (rows rows' : List ρ) :
    window limit (rows.length + offset) (rows ++ rows') = window limit offset rows' := by
  rw [window, List.drop_length_add_append, window]

theorem window_reverse (limit offset : Nat) (rows : List ρ) :
    window limit offset rows.reverse =
      (window (rows.length - offset - (rows.length - (offset + limit)))
        (rows.length - (offset + limit)) rows).reverse := by
  unfold window
  rw [List.drop_reverse, List.take_reverse, List.length_take, List.drop_take]
  congr 2
  · omega
  · congr 1
    omega

theorem window_sublist (limit offset : Nat) (rows : List ρ) :
    (window limit offset rows).Sublist rows :=
  (List.take_sublist _ _).trans (List.drop_sublist _ _)

theorem length_filter_eq_iff {p q : ρ → Bool} {rows : List ρ}
    (hpq : ∀ r, p r = true → q r = true) :
    (rows.filter p).length = (rows.filter q).length ↔ ∀ r ∈ rows, p r = q r := by
  constructor
  · intro hlength r hr
    have hsub : (rows.filter p).Sublist (rows.filter q) := List.monotone_filter_right rows hpq
    have hiff : r ∈ rows.filter p ↔ r ∈ rows.filter q := by rw [hsub.eq_of_length hlength]
    exact Bool.eq_iff_iff.mpr (by simpa [hr] using hiff)
  · intro h
    rw [List.filter_congr h]

/-! ## The place of a row -/

section place

variable (le : ρ → ρ → Bool)

/-- `s` comes before `r` however ties are broken. -/
def precedes (s r : ρ) : Bool := le s r && !le r s

def tied (s r : ρ) : Bool := le s r && le r s

/-- How many rows come before `r` however ties are broken. -/
def rank (r : ρ) (rows : List ρ) : Nat := rows.countP (precedes le · r)

def ties (r : ρ) (rows : List ρ) : Nat := rows.countP (tied le · r)

variable {le}

theorem rank_perm {r : ρ} {rows rows' : List ρ} (h : rows.Perm rows') :
    rank le r rows = rank le r rows' :=
  h.countP_eq _

theorem ties_perm {r : ρ} {rows rows' : List ρ} (h : rows.Perm rows') :
    ties le r rows = ties le r rows' :=
  h.countP_eq _

theorem rank_add_ties (r : ρ) (rows : List ρ) :
    rank le r rows + ties le r rows = rows.countP (le · r) := by
  unfold rank ties
  induction rows with
  | nil => rfl
  | cons s rows ih =>
    simp only [List.countP_cons, ← ih, precedes, tied]
    cases le s r <;> cases le r s <;> simp only [Bool.and_true, Bool.and_false, Bool.not_true,
      Bool.not_false, Bool.false_eq_true, if_true, if_false] <;> omega

theorem rank_le_index {rows : List ρ} (hsorted : rows.Pairwise fun r s => le r s = true)
    {i : Nat} {r : ρ} (hi : rows[i]? = some r) : rank le r rows ≤ i := by
  obtain ⟨hlt, rfl⟩ := List.getElem?_eq_some_iff.mp hi
  have hsplit := hsorted
  rw [← List.take_append_drop i rows, List.drop_eq_getElem_cons hlt] at hsplit
  have htail := (List.pairwise_cons.mp (List.pairwise_append.mp hsplit).2.1).1
  have hafter : (rows.drop i).countP (precedes le · rows[i]) = 0 := by
    rw [List.countP_eq_zero, List.drop_eq_getElem_cons hlt]
    intro s hs
    rcases List.mem_cons.mp hs with rfl | hs
    · cases h : le rows[i] rows[i] <;> simp [precedes, h]
    · simp [precedes, htail s hs]
  have hbefore := List.countP_le_length (p := (precedes le · rows[i])) (l := rows.take i)
  calc rank le rows[i] rows
      = (rows.take i).countP (precedes le · rows[i]) +
          (rows.drop i).countP (precedes le · rows[i]) := by
        rw [← List.countP_append, List.take_append_drop]
        rfl
    _ ≤ i := by
        rw [hafter]
        exact hbefore.trans (List.length_take_le i rows)

theorem index_lt_rank_add_ties (hrefl : ∀ r, le r r = true) {rows : List ρ}
    (hsorted : rows.Pairwise fun r s => le r s = true) {i : Nat} {r : ρ}
    (hi : rows[i]? = some r) : i < rank le r rows + ties le r rows := by
  obtain ⟨hlt, rfl⟩ := List.getElem?_eq_some_iff.mp hi
  have hall : ∀ s ∈ rows.take (i + 1), le s rows[i] = true := by
    intro s hs
    rw [List.take_succ_eq_append_getElem hlt, List.mem_append, List.mem_singleton] at hs
    rcases hs with hs | rfl
    · obtain ⟨j, hj, rfl⟩ := List.mem_take_iff_getElem.mp hs
      exact List.pairwise_iff_getElem.mp hsorted j i (by omega) hlt (by omega)
    · exact hrefl _
  have hcount : (rows.take (i + 1)).countP (le · rows[i]) = i + 1 := by
    rw [List.countP_eq_length.mpr hall, List.length_take]
    omega
  have hmono := (List.take_sublist (i + 1) rows).countP_le (p := (le · rows[i]))
  rw [rank_add_ties]
  omega

theorem index_eq_rank (hrefl : ∀ r, le r r = true) {rows : List ρ}
    (hsorted : rows.Pairwise fun r s => le r s = true) {i : Nat} {r : ρ}
    (hi : rows[i]? = some r) (hties : ties le r rows = 1) : i = rank le r rows := by
  have hlow := rank_le_index hsorted hi
  have hhigh := index_lt_rank_add_ties hrefl hsorted hi
  omega

theorem ties_eq_one [DecidableEq ρ] {rows : List ρ} (hnodup : rows.Nodup) {r : ρ} (hr : r ∈ rows)
    (h : ∀ s ∈ rows, tied le s r = true ↔ s = r) : ties le r rows = 1 := by
  rw [← List.count_eq_one_of_mem hnodup hr, List.count]
  apply List.countP_congr
  intro s hs
  rw [h s hs, beq_iff_eq]

theorem rank_mono {r : ρ} {rows rows' : List ρ} (hnodup : rows.Nodup)
    (hsub : ∀ s ∈ rows, s ∈ rows') : rank le r rows ≤ rank le r rows' :=
  (hnodup.subperm hsub).countP_le _

/-- A page that begins at or before a row's place shows the row, or is full and ends before it. -/
theorem shown_or_later (hrefl : ∀ r, le r r = true) (plan : Arrangement le) {rows : List ρ} {r : ρ}
    (hr : r ∈ rows) (hties : ties le r rows = 1) (limit : Nat) {offset : Nat}
    (hahead : offset ≤ rank le r rows) :
    r ∈ window limit offset (plan.sort rows) ∨
      ((window limit offset (plan.sort rows)).length = limit ∧
        offset + limit ≤ rank le r rows) := by
  have hperm := plan.perm rows
  obtain ⟨i, hi⟩ := List.mem_iff_getElem?.mp (hperm.mem_iff.mpr hr)
  obtain ⟨hlt, _⟩ := List.getElem?_eq_some_iff.mp hi
  have hplace := index_eq_rank hrefl (plan.sorted rows) hi ((ties_perm hperm).trans hties)
  rw [rank_perm hperm] at hplace
  rcases Nat.lt_or_ge i (offset + limit) with hpage | hlater
  · exact .inl (mem_window.mpr ⟨i, by omega, hpage, hi⟩)
  · refine .inr ⟨?_, by omega⟩
    rw [length_window]
    omega

theorem window_first (hrefl : ∀ r, le r r = true) (plan : Arrangement le) {rows : List ρ} {r : ρ}
    (hr : r ∈ rows) (hties : ties le r rows = 1) (hfirst : ∀ s ∈ rows, le r s = true) :
    window 1 0 (plan.sort rows) = [r] := by
  have hperm := plan.perm rows
  obtain ⟨i, hi⟩ := List.mem_iff_getElem?.mp (hperm.mem_iff.mpr hr)
  have hplace := index_eq_rank hrefl (plan.sorted rows) hi ((ties_perm hperm).trans hties)
  have hrank : rank le r rows = 0 := by
    refine List.countP_eq_zero.mpr fun s hs => ?_
    simp [precedes, hfirst s hs]
  rw [hplace, rank_perm hperm, hrank] at hi
  obtain ⟨rest, hrest⟩ : ∃ rest, plan.sort rows = r :: rest := by
    cases hsort : plan.sort rows with
    | nil => simp [hsort] at hi
    | cons s rest => exact ⟨rest, by simpa [hsort] using hi⟩
  rw [hrest]
  rfl

end place

/-! ## Ties broken on purpose -/

section ties

variable {le : ρ → ρ → Bool}

def preferred (le : ρ → ρ → Bool) (p : ρ → Bool) (r s : ρ) : Bool :=
  le r s && (!le s r || p r || !p s)

theorem preferred_trans (trans : ∀ r s t, le r s = true → le s t = true → le r t = true)
    (p : ρ → Bool) (r s t : ρ) (hrs : preferred le p r s = true)
    (hst : preferred le p s t = true) : preferred le p r t = true := by
  simp only [preferred, Bool.and_eq_true, Bool.or_eq_true, Bool.not_eq_true'] at hrs hst ⊢
  refine ⟨trans r s t hrs.1 hst.1, ?_⟩
  cases htr : le t r with
  | false => exact .inl (.inl rfl)
  | true =>
    have hsr := trans s t r hst.1 htr
    have hts := trans t r s htr hrs.1
    have hpr := hrs.2
    have hps := hst.2
    rw [hsr] at hpr
    rw [hts] at hps
    cases hp : p r <;> cases hq : p s <;> simp_all

theorem preferred_total (total : ∀ r s, (le r s || le s r) = true) (p : ρ → Bool) (r s : ρ) :
    (preferred le p r s || preferred le p s r) = true := by
  have h := total r s
  unfold preferred
  cases hrs : le r s <;> cases hsr : le s r <;> cases hp : p r <;> cases hq : p s <;> simp_all

private theorem pairwise_preferring
    (trans : ∀ r s t, le r s = true → le s t = true → le r t = true)
    (total : ∀ r s, (le r s || le s r) = true) (p : ρ → Bool) (rows : List ρ) :
    (rows.insertionSort fun r s => preferred le p r s = true).Pairwise fun r s =>
      preferred le p r s = true := by
  have : Std.Total fun r s => preferred le p r s = true :=
    ⟨fun r s => by simpa using preferred_total total p r s⟩
  have : IsTrans ρ fun r s => preferred le p r s = true := ⟨preferred_trans trans p⟩
  exact List.pairwise_insertionSort _ rows

def Arrangement.preferring (trans : ∀ r s t, le r s = true → le s t = true → le r t = true)
    (total : ∀ r s, (le r s || le s r) = true) (p : ρ → Bool) : Arrangement le where
  sort rows := rows.insertionSort fun r s => preferred le p r s = true
  perm rows := List.perm_insertionSort _ rows
  sorted rows := by
    apply (pairwise_preferring trans total p rows).imp
    intro r s h
    simp only [preferred, Bool.and_eq_true] at h
    exact h.1

theorem refl_of_total (total : ∀ r s, (le r s || le s r) = true) (r : ρ) : le r r = true := by
  simpa using total r r

variable [DecidableEq ρ] (trans : ∀ r s t, le r s = true → le s t = true → le r t = true)
  (total : ∀ r s, (le r s || le s r) = true)

private theorem index_preferring {p : ρ → Bool} {rows : List ρ} (hnodup : rows.Nodup) {r : ρ}
    (hr : r ∈ rows) (hp : ∀ s, s ≠ r → p s ≠ p r) :
    ties (preferred le p) r rows = 1 ∧
      ((Arrangement.preferring trans total p).sort rows)[rank (preferred le p) r rows]? =
        some r := by
  have hrefl := refl_of_total (preferred_total total p)
  have hperm := (Arrangement.preferring trans total p).perm rows
  have hties : ties (preferred le p) r rows = 1 := by
    refine ties_eq_one hnodup hr fun s _ => ?_
    by_cases hs : s = r
    · simp [hs, tied, hrefl]
    · have hne := hp s hs
      cases hps : p s <;> cases hpr : p r <;> cases le s r <;> cases le r s <;>
        simp_all [tied, preferred]
  obtain ⟨i, hi⟩ := List.mem_iff_getElem?.mp (hperm.mem_iff.mpr hr)
  have hplace := index_eq_rank hrefl (pairwise_preferring trans total p rows) hi
    ((ties_perm hperm).trans hties)
  rw [hplace.trans (rank_perm hperm)] at hi
  exact ⟨hties, hi⟩

theorem index_preferring_first {rows : List ρ} (hnodup : rows.Nodup) {r : ρ} (hr : r ∈ rows) :
    ((Arrangement.preferring trans total fun s => decide (s = r)).sort rows)[rank le r rows]? =
      some r := by
  have hindex := (index_preferring trans total (p := fun s => decide (s = r)) hnodup hr
    (by simp)).2
  have hrank : rank (preferred le fun s => decide (s = r)) r rows = rank le r rows := by
    apply List.countP_congr
    intro s _
    by_cases hs : s = r
    · simp [hs, precedes, preferred]
    · cases h : le s r <;> cases h' : le r s <;> simp [precedes, preferred, hs, h, h']
  rwa [hrank] at hindex

theorem index_preferring_last {rows : List ρ} (hnodup : rows.Nodup) {r : ρ} (hr : r ∈ rows) :
    ((Arrangement.preferring trans total fun s => decide (s ≠ r)).sort rows)[
      rank le r rows + ties le r rows - 1]? = some r := by
  obtain ⟨hties, hindex⟩ := index_preferring trans total (p := fun s => decide (s ≠ r)) hnodup hr
    (by simp)
  have hall : rows.countP (preferred le (fun s => decide (s ≠ r)) · r) = rows.countP (le · r) := by
    apply List.countP_congr
    intro s _
    cases h : le s r <;> cases h' : le r s <;> simp [preferred, h, h']
  have hrank : rank (preferred le fun s => decide (s ≠ r)) r rows + 1 =
      rank le r rows + ties le r rows := by
    rw [rank_add_ties, ← hall, ← rank_add_ties, hties]
  rwa [← hrank, Nat.add_sub_cancel]

end ties

/-! ## Pages of unchanging rows -/

section pages

variable {le : ρ → ρ → Bool}

/-- The first `n` pages, each from its own run of the query. -/
def pagesOf (plans : Nat → Arrangement le) (limit n : Nat) (rows : List ρ) : List ρ :=
  (List.range n).flatMap fun k => window limit (k * limit) ((plans k).sort rows)

/-- No page boundary falls inside a group of rows that compare equal. -/
def Unsplit (le : ρ → ρ → Bool) (limit : Nat) (rows : List ρ) : Prop :=
  ∀ r ∈ rows, ∀ k, k * limit ≤ rank le r rows ∨ rank le r rows + ties le r rows ≤ k * limit

theorem mem_page_iff (hrefl : ∀ r, le r r = true) {limit : Nat} (hlimit : 0 < limit)
    {rows : List ρ} (hunsplit : Unsplit le limit rows) (plan : Arrangement le) (k : Nat) (r : ρ) :
    r ∈ window limit (k * limit) (plan.sort rows) ↔ r ∈ rows ∧ k = rank le r rows / limit := by
  have hperm := plan.perm rows
  have hplace : ∀ i, (plan.sort rows)[i]? = some r →
      rank le r rows ≤ i ∧ i < rank le r rows + ties le r rows := by
    intro i hi
    rw [← rank_perm hperm, ← ties_perm hperm]
    exact ⟨rank_le_index (plan.sorted rows) hi, index_lt_rank_add_ties hrefl (plan.sorted rows) hi⟩
  have hpage : k = rank le r rows / limit ↔
      k * limit ≤ rank le r rows ∧ rank le r rows < (k + 1) * limit := by
    rw [eq_comm, Nat.div_eq_iff hlimit]
    have hpos : 1 ≤ (k + 1) * limit := Nat.mul_pos (Nat.succ_pos k) hlimit
    rw [Nat.add_mul, Nat.one_mul] at hpos ⊢
    omega
  have hnext : (k + 1) * limit = k * limit + limit := Nat.succ_mul k limit
  rw [mem_window, hpage]
  constructor
  · rintro ⟨i, hlo, hhi, hi⟩
    obtain ⟨hrank, hties⟩ := hplace i hi
    have hr : r ∈ rows := hperm.mem_iff.mp (List.mem_of_getElem? hi)
    refine ⟨hr, ?_, by omega⟩
    rcases hunsplit r hr k with h | h <;> omega
  · rintro ⟨hr, hlo, hhi⟩
    obtain ⟨i, hi⟩ := List.mem_iff_getElem?.mp (hperm.mem_iff.mpr hr)
    obtain ⟨hrank, hties⟩ := hplace i hi
    refine ⟨i, by omega, ?_, hi⟩
    rcases hunsplit r hr (k + 1) with h | h <;> omega

private theorem pagesOf_perm (hrefl : ∀ r, le r r = true) {limit : Nat} (hlimit : 0 < limit)
    {rows : List ρ} (hnodup : rows.Nodup) (hunsplit : Unsplit le limit rows)
    (plans : Nat → Arrangement le) {n : Nat} (hn : rows.length ≤ n * limit) :
    (pagesOf plans limit n rows).Perm rows := by
  have hmem := mem_page_iff hrefl hlimit hunsplit
  rw [List.perm_ext_iff_of_nodup _ hnodup]
  · intro r
    simp only [pagesOf, List.mem_flatMap, List.mem_range, hmem]
    constructor
    · rintro ⟨_, _, hr, _⟩
      exact hr
    · intro hr
      refine ⟨rank le r rows / limit, ?_, hr, rfl⟩
      obtain ⟨i, hi⟩ := List.mem_iff_getElem?.mp (((plans 0).perm rows).mem_iff.mpr hr)
      obtain ⟨hlt, _⟩ := List.getElem?_eq_some_iff.mp hi
      have hrank := rank_le_index ((plans 0).sorted rows) hi
      rw [rank_perm ((plans 0).perm rows)] at hrank
      rw [((plans 0).perm rows).length_eq] at hlt
      rw [Nat.div_lt_iff_lt_mul hlimit]
      omega
  · refine List.nodup_flatMap.mpr ⟨?_, ?_⟩
    · intro k _
      exact (((plans k).perm rows).nodup_iff.mpr hnodup).sublist (window_sublist _ _ _)
    · apply List.nodup_range.imp
      intro j k hjk r hj hk
      exact hjk (((hmem (plans j) j r).mp hj).2.trans ((hmem (plans k) k r).mp hk).2.symm)

/-- Reading page by page is reading every row exactly once, whatever each run of the query does
with rows that compare equal, exactly when no page boundary falls among such rows. -/
theorem pagesOf_perm_iff [DecidableEq ρ]
    (trans : ∀ r s t, le r s = true → le s t = true → le r t = true)
    (total : ∀ r s, (le r s || le s r) = true) {limit : Nat} (hlimit : 0 < limit)
    {rows : List ρ} (hnodup : rows.Nodup) {n : Nat} (hn : rows.length ≤ n * limit) :
    (∀ plans : Nat → Arrangement le, (pagesOf plans limit n rows).Perm rows) ↔
      Unsplit le limit rows := by
  constructor
  · intro hall r hr k
    by_contra hsplit
    obtain ⟨hlow, hhigh⟩ := not_or.mp hsplit
    -- The row comes first among its equals on all pages before the boundary, and last on the rest.
    let plans : Nat → Arrangement le := fun j =>
      if j < k then .preferring trans total fun s => decide (s = r)
      else .preferring trans total fun s => decide (s ≠ r)
    have hfirst := index_preferring_first trans total hnodup hr
    have hlast := index_preferring_last trans total hnodup hr
    have hlength : rank le r rows + ties le r rows - 1 < rows.length := by
      obtain ⟨hlt, _⟩ := List.getElem?_eq_some_iff.mp hlast
      rwa [((Arrangement.preferring trans total _).perm rows).length_eq] at hlt
    have hbefore : rank le r rows / limit < k := (Nat.div_lt_iff_lt_mul hlimit).mpr (by omega)
    have hafter : k ≤ (rank le r rows + ties le r rows - 1) / limit :=
      (Nat.le_div_iff_mul_le hlimit).mpr (by omega)
    have hend : (rank le r rows + ties le r rows - 1) / limit < n :=
      (Nat.div_lt_iff_lt_mul hlimit).mpr (by omega)
    have hpage : ∀ j i, ((plans j).sort rows)[i]? = some r → j = i / limit →
        r ∈ window limit (j * limit) ((plans j).sort rows) := by
      rintro _ i hi rfl
      have hmod := Nat.div_add_mod' i limit
      have hrest := Nat.mod_lt i hlimit
      exact mem_window.mpr ⟨i, by omega, by omega, hi⟩
    have hdisjoint := (List.nodup_flatMap.mp ((hall plans).nodup_iff.mpr hnodup)).2
    have hpair := List.pairwise_iff_getElem.mp hdisjoint (rank le r rows / limit)
      ((rank le r rows + ties le r rows - 1) / limit) (by rw [List.length_range]; omega)
      (by rw [List.length_range]; omega) (by omega)
    simp only [List.getElem_range] at hpair
    refine hpair (hpage _ _ ?_ rfl) (hpage _ _ ?_ rfl)
    · simpa only [plans, if_pos hbefore] using hfirst
    · simpa only [plans, if_neg (Nat.not_lt.mpr hafter)] using hlast
  · intro hunsplit plans
    exact pagesOf_perm (refl_of_total total) hlimit hnodup hunsplit plans hn

end pages

end OpenWater.Framework
