import Mathlib.Data.List.Destutter
import Mathlib.Data.String.Basic
import Mathlib.Tactic.Common

/-!
# Query results

What SQL promises of ORDER BY and of DISTINCT ON, and no more: an arrangement sorts the rows, and
leaves open where rows go that compare equal; of neighbours with one key, the first one stays.
-/

namespace OpenWater.Framework

variable {ρ κ : Type*}

/-- A way to carry out ORDER BY `le`. -/
structure Arrangement (le : ρ → ρ → Bool) where
  sort : List ρ → List ρ
  perm : ∀ rows, (sort rows).Perm rows
  sorted : ∀ rows, (sort rows).Pairwise fun r s => le r s = true

structure Collation where
  le : String → String → Bool
  trans : ∀ s t u, le s t = true → le t u = true → le s u = true
  total : ∀ s t, (le s t || le t s) = true
  antisymm : ∀ s t, le s t = true → le t s = true → s = t

def Collation.codepoints : Collation where
  le s t := decide (s ≤ t)
  trans s t u hst htu := by
    simp only [decide_eq_true_eq] at hst htu ⊢
    exact hst.trans htu
  total s t := by
    simp only [Bool.or_eq_true, decide_eq_true_eq]
    exact le_total s t
  antisymm s t hst hts := by
    simp only [decide_eq_true_eq] at hst hts
    exact hst.antisymm hts

def Arrangement.stable (le : ρ → ρ → Bool)
    (trans : ∀ r s t, le r s = true → le s t = true → le r t = true)
    (total : ∀ r s, (le r s || le s r) = true) : Arrangement le where
  sort rows := rows.mergeSort le
  perm rows := List.mergeSort_perm rows le
  sorted rows := List.pairwise_mergeSort trans total rows

theorem Arrangement.sort_unique {le : ρ → ρ → Bool} (a b : Arrangement le) {rows rows' : List ρ}
    (hperm : rows.Perm rows')
    (hanti : ∀ r ∈ rows, ∀ s ∈ rows, le r s = true → le s r = true → r = s) :
    a.sort rows = b.sort rows' := by
  have hsorted : (a.sort rows).Perm (b.sort rows') :=
    (a.perm rows).trans (hperm.trans (b.perm rows').symm)
  refine List.Perm.eq_of_pairwise ?_ (a.sorted rows) (b.sorted rows') hsorted
  intro r s hr hs
  apply hanti r ((a.perm rows).mem_iff.mp hr) s
  exact hperm.mem_iff.mpr ((b.perm rows').mem_iff.mp hs)

theorem Arrangement.sort_split {le : ρ → ρ → Bool} (a : Arrangement le) (p : ρ → Bool)
    {rows : List ρ} (hbefore : ∀ r ∈ rows, ∀ s ∈ rows, p r = true → p s = false → le r s = true)
    (hanti : ∀ r ∈ rows, ∀ s ∈ rows, le r s = true → le s r = true → r = s) :
    a.sort rows = a.sort (rows.filter p) ++ a.sort (rows.filter fun r => !p r) := by
  have hfirst := a.perm (rows.filter p)
  have hrest := a.perm (rows.filter fun r => !p r)
  have hperm : (a.sort (rows.filter p) ++ a.sort (rows.filter fun r => !p r)).Perm rows :=
    (hfirst.append hrest).trans (List.filter_append_perm p rows)
  have hsorted : (a.sort (rows.filter p) ++ a.sort (rows.filter fun r => !p r)).Pairwise
      fun r s => le r s = true := by
    refine List.pairwise_append.mpr ⟨a.sorted _, a.sorted _, fun r hr s hs => ?_⟩
    obtain ⟨hr, hpr⟩ := List.mem_filter.mp (hfirst.mem_iff.mp hr)
    obtain ⟨hs, hps⟩ := List.mem_filter.mp (hrest.mem_iff.mp hs)
    exact hbefore r hr s hs hpr (by simpa using hps)
  refine List.Perm.eq_of_pairwise ?_ (a.sorted rows) hsorted ((a.perm rows).trans hperm.symm)
  intro r s hr hs
  exact hanti r ((a.perm rows).mem_iff.mp hr) s (hperm.mem_iff.mp hs)

theorem Arrangement.sort_toList {le : ρ → ρ → Bool} (a : Arrangement le) (o : Option ρ) :
    a.sort o.toList = o.toList := by
  cases o with
  | none => exact List.perm_nil.mp (a.perm [])
  | some r => exact List.perm_singleton.mp (a.perm [r])

def distinctOn [DecidableEq κ] (key : ρ → κ) (rows : List ρ) : List ρ :=
  rows.destutter fun r s => key r ≠ key s

theorem distinctOn_eq_nil [DecidableEq κ] {key : ρ → κ} {rows : List ρ} :
    distinctOn key rows = [] ↔ rows = [] :=
  List.destutter_eq_nil _

theorem Arrangement.sort_eq_nil {le : ρ → ρ → Bool} (arrangement : Arrangement le)
    {rows : List ρ} : arrangement.sort rows = [] ↔ rows = [] := by
  rw [← List.length_eq_zero_iff, (arrangement.perm rows).length_eq, List.length_eq_zero_iff]

/-! ## The first row of each key -/

section distinctOn

variable [DecidableEq κ] {key : ρ → κ} {le : ρ → ρ → Bool}

private theorem mem_destutter
    (hgroup : ∀ r s t, le r s = true → le s t = true → key r = key t → key s = key t)
    {a : ρ} {rows : List ρ} (hsorted : (a :: rows).Pairwise fun r s => le r s = true) {r : ρ} :
    r ∈ rows.destutter' (fun s t => key s ≠ key t) a ↔
      (a :: rows).find? (fun s => decide (key s = key r)) = some r := by
  induction rows generalizing a with
  | nil =>
    rw [List.destutter'_nil, List.mem_singleton, List.find?_cons]
    by_cases hkey : key a = key r
    · simp [hkey, eq_comm]
    · simpa [hkey] using fun h : r = a => hkey (h ▸ rfl)
  | cons b rows ih =>
    obtain ⟨hhead, htail⟩ := List.pairwise_cons.mp hsorted
    by_cases hab : key a = key b
    · -- `b` is dropped, and is not the first row of its key.
      rw [List.destutter'_cons_neg _ (by simpa using hab),
        ih (hsorted.sublist ((List.sublist_cons_self b rows).cons_cons a))]
      by_cases hkey : key a = key r
      · simp [hkey]
      · have hb : ¬ key b = key r := hab ▸ hkey
        simp [hkey, hb]
    · rw [List.destutter'_cons_pos _ hab, List.mem_cons, ih htail]
      by_cases hkey : key a = key r
      · have hlater : (b :: rows).find? (fun s => decide (key s = key r)) ≠ some r := by
          intro hfind
          rcases List.mem_cons.mp (List.mem_of_find?_eq_some hfind) with rfl | hr
          · exact hab hkey
          · have hbr := (List.pairwise_cons.mp htail).1 r hr
            have hb := hgroup a b r (hhead b List.mem_cons_self) hbr hkey
            exact hab (hkey.trans hb.symm)
        rw [or_iff_left hlater, List.find?_cons_of_pos (by simpa using hkey), Option.some.injEq,
          eq_comm]
      · have hne : r ≠ a := fun h => hkey (h ▸ rfl)
        rw [or_iff_right hne, List.find?_cons_of_neg (a := a) (by simpa using hkey)]

theorem mem_distinctOn
    (hgroup : ∀ r s t, le r s = true → le s t = true → key r = key t → key s = key t)
    {rows : List ρ} (hsorted : rows.Pairwise fun r s => le r s = true) {r : ρ} :
    r ∈ distinctOn key rows ↔ rows.find? (fun s => decide (key s = key r)) = some r := by
  cases rows with
  | nil => simp [distinctOn]
  | cons a rows => exact mem_destutter hgroup hsorted

theorem nodup_distinctOn
    (hgroup : ∀ r s t, le r s = true → le s t = true → key r = key t → key s = key t)
    {rows : List ρ} (hsorted : rows.Pairwise fun r s => le r s = true) (hnodup : rows.Nodup) :
    ((distinctOn key rows).map key).Nodup := by
  refine List.Nodup.map_on ?_ (hnodup.sublist (List.destutter_sublist _ rows))
  intro r hr s hs hkey
  have hfirst := (mem_distinctOn hgroup hsorted).mp hr
  rw [hkey, (mem_distinctOn hgroup hsorted).mp hs] at hfirst
  exact (Option.some.inj hfirst).symm

theorem exists_mem_distinctOn
    (hgroup : ∀ r s t, le r s = true → le s t = true → key r = key t → key s = key t)
    {rows : List ρ} (hsorted : rows.Pairwise fun r s => le r s = true) {k : κ} :
    k ∈ (distinctOn key rows).map key ↔ ∃ r ∈ rows, key r = k := by
  rw [List.mem_map]
  constructor
  · rintro ⟨r, hr, rfl⟩
    exact ⟨r, (List.destutter_sublist _ rows).subset hr, rfl⟩
  · rintro ⟨r, hr, rfl⟩
    obtain ⟨first, hfirst⟩ : ∃ first, rows.find? (fun s => decide (key s = key r)) = some first :=
      Option.isSome_iff_exists.mp (List.find?_isSome.mpr ⟨r, hr, by simp⟩)
    have hkey : key first = key r := by simpa using List.find?_some hfirst
    exact ⟨first, (mem_distinctOn hgroup hsorted).mpr (hkey.symm ▸ hfirst), hkey⟩

theorem le_of_find {rows : List ρ} (hrefl : ∀ r, le r r = true)
    (hsorted : rows.Pairwise fun r s => le r s = true) {q : ρ → Bool} {r s : ρ}
    (hfind : rows.find? q = some r) (hs : s ∈ rows) (hq : q s = true) : le r s = true := by
  obtain ⟨_, before, after, rfl, hbefore⟩ := List.find?_eq_some_iff_append.mp hfind
  rcases List.mem_append.mp hs with hs | hs
  · have hnone := hbefore s hs
    rw [hq] at hnone
    cases hnone
  · rcases List.mem_cons.mp hs with rfl | hs
    · exact hrefl _
    · exact (List.pairwise_cons.mp (List.pairwise_append.mp hsorted).2.1).1 s hs

end distinctOn

end OpenWater.Framework
