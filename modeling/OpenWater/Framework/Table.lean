import Mathlib.Data.List.Nodup
import Mathlib.Tactic.Common

/-!
# Keyed tables

A relation with a primary key, the two conflict rules an insert can have (keep the stored row, or
put a new row in its place), and what a key reads after each of them.
-/

namespace OpenWater.Framework

/-- Rows in which no two share a key. -/
@[ext] structure Table {ρ κ : Type*} (key : ρ → κ) where
  rows : List ρ
  nodup : (rows.map key).Nodup

namespace Table

variable {ρ κ : Type*} [DecidableEq κ] {key : ρ → κ}

def empty : Table key := ⟨[], List.nodup_nil⟩

def lookup (t : Table key) (k : κ) : Option ρ := t.rows.find? fun r => decide (key r = k)

theorem lookup_eq_none {t : Table key} {k : κ} :
    t.lookup k = none ↔ ∀ r ∈ t.rows, key r ≠ k := by
  simp [lookup]

theorem lookup_ne_none {t : Table key} {k : κ} :
    t.lookup k ≠ none ↔ ∃ r ∈ t.rows, key r = k := by
  simp [lookup_eq_none]

theorem key_of_lookup {t : Table key} {k : κ} {r : ρ} (h : t.lookup k = some r) : key r = k := by
  simpa using List.find?_some h

theorem mem_of_lookup {t : Table key} {k : κ} {r : ρ} (h : t.lookup k = some r) : r ∈ t.rows :=
  List.mem_of_find?_eq_some h

private theorem find_of_mem {rows : List ρ} (hn : (rows.map key).Nodup) {r : ρ} (hr : r ∈ rows) :
    (rows.find? fun x => decide (key x = key r)) = some r := by
  induction rows with
  | nil => simp at hr
  | cons x xs ih =>
    have hx : key x ∉ xs.map key := (List.nodup_cons.mp hn).1
    rcases List.mem_cons.mp hr with rfl | hr
    · simp
    · have hne : key x ≠ key r := fun he => hx (he ▸ List.mem_map_of_mem hr)
      rw [List.find?_cons_of_neg (by simpa using hne)]
      exact ih (List.nodup_cons.mp hn).2 hr

theorem lookup_of_mem {t : Table key} {r : ρ} (h : r ∈ t.rows) : t.lookup (key r) = some r :=
  find_of_mem t.nodup h

theorem mem_iff_lookup {t : Table key} {r : ρ} : r ∈ t.rows ↔ t.lookup (key r) = some r :=
  ⟨lookup_of_mem, mem_of_lookup⟩

theorem eq_of_key {t : Table key} {r s : ρ} (hr : r ∈ t.rows) (hs : s ∈ t.rows)
    (hk : key r = key s) : r = s := by
  have h := lookup_of_mem hr
  rw [hk, lookup_of_mem hs] at h
  exact (Option.some.inj h).symm

private theorem filter_eq_find {rows : List ρ} (hn : (rows.map key).Nodup) (k : κ) :
    (rows.filter fun r => decide (key r = k)) =
      (rows.find? fun r => decide (key r = k)).toList := by
  induction rows with
  | nil => rfl
  | cons x xs ih =>
    obtain ⟨hx, hxs⟩ := List.nodup_cons.mp hn
    by_cases hk : key x = k
    · have hrest : (xs.filter fun r => decide (key r = k)) = [] := by
        rw [List.filter_eq_nil_iff]
        intro r hr
        have hne : key r ≠ k := fun heq => hx (hk ▸ heq ▸ List.mem_map_of_mem hr)
        simpa using hne
      rw [List.filter_cons_of_pos (by simpa using hk), hrest,
        List.find?_cons_of_pos (by simpa using hk)]
      rfl
    · rw [List.filter_cons_of_neg (by simpa using hk), List.find?_cons_of_neg (by simpa using hk)]
      exact ih hxs

theorem filter_key (t : Table key) (k : κ) :
    (t.rows.filter fun r => decide (key r = k)) = (t.lookup k).toList :=
  filter_eq_find t.nodup k

/-- A row under a key the table does not hold yet. -/
def insert (t : Table key) (r : ρ) (h : t.lookup (key r) = none) : Table key where
  rows := t.rows ++ [r]
  nodup := by
    have hn := lookup_eq_none.mp h
    rw [List.map_append, List.nodup_append]
    refine ⟨t.nodup, by simp, ?_⟩
    intro a ha b hb
    obtain ⟨x, hx, rfl⟩ := List.mem_map.mp ha
    have hbr : b = key r := by simpa using hb
    exact hbr ▸ hn x hx

theorem lookup_insert (t : Table key) (r : ρ) (h : t.lookup (key r) = none) (k : κ) :
    (t.insert r h).lookup k = (t.lookup k).or (if key r = k then some r else none) := by
  simp only [lookup, insert, List.find?_append]
  by_cases hk : key r = k <;> simp [hk]

/-- A conflicting row is dropped: the stored row stays. -/
def insertIfAbsent (t : Table key) (r : ρ) : Table key :=
  if h : t.lookup (key r) = none then t.insert r h else t

theorem insertIfAbsent_of_lookup {t : Table key} {r s : ρ} (h : t.lookup (key r) = some s) :
    t.insertIfAbsent r = t := by
  simp [insertIfAbsent, h]

theorem lookup_insertIfAbsent (t : Table key) (r : ρ) (k : κ) :
    (t.insertIfAbsent r).lookup k = (t.lookup k).or (if key r = k then some r else none) := by
  unfold insertIfAbsent
  split
  · exact lookup_insert t r _ k
  · rename_i h
    by_cases hk : key r = k
    · obtain ⟨s, hs⟩ := Option.ne_none_iff_exists'.mp (hk ▸ h)
      simp [hs]
    · simp [hk]

private theorem map_key_replace (rows : List ρ) (r : ρ) :
    (rows.map fun x => if key x = key r then r else x).map key = rows.map key := by
  rw [List.map_map]
  apply List.map_congr_left
  intro x _
  by_cases hx : key x = key r <;> simp [hx]

def replace (t : Table key) (r : ρ) : Table key where
  rows := t.rows.map fun x => if key x = key r then r else x
  nodup := by rw [map_key_replace]; exact t.nodup

private theorem find_replace (rows : List ρ) (r : ρ) (k : κ) :
    ((rows.map fun x => if key x = key r then r else x).find? fun x => decide (key x = k)) =
      if key r = k then (rows.find? fun x => decide (key x = k)).map fun _ => r
      else rows.find? fun x => decide (key x = k) := by
  induction rows with
  | nil => simp
  | cons x xs ih =>
    rw [List.map_cons, List.find?_cons, List.find?_cons, ih]
    by_cases hx : key x = key r
    · by_cases hk : key r = k <;> simp [hx, hk]
    · by_cases hk : key r = k
      · have hxk : key x ≠ k := hk ▸ hx
        simp [hk, hxk]
      · rw [if_neg hx, if_neg hk, if_neg hk]

theorem lookup_replace (t : Table key) (r : ρ) (k : κ) :
    (t.replace r).lookup k = if key r = k then (t.lookup k).map fun _ => r else t.lookup k :=
  find_replace t.rows r k

theorem replace_of_lookup {t : Table key} {r : ρ} (h : t.lookup (key r) = some r) :
    t.replace r = t := by
  apply Table.ext
  change t.rows.map (fun x => if key x = key r then r else x) = t.rows
  rw [List.map_congr_left (g := id), List.map_id]
  intro x hx
  by_cases hk : key x = key r
  · simp [eq_of_key hx (mem_of_lookup h) hk]
  · simp [hk]

/-- A conflicting row takes the place of the stored one. -/
def put (t : Table key) (r : ρ) : Table key :=
  if h : t.lookup (key r) = none then t.insert r h else t.replace r

theorem put_of_lookup {t : Table key} {r : ρ} (h : t.lookup (key r) = some r) : t.put r = t := by
  simp [put, h, replace_of_lookup h]

theorem lookup_put (t : Table key) (r : ρ) (k : κ) :
    (t.put r).lookup k = if key r = k then some r else t.lookup k := by
  unfold put
  split
  · rename_i h
    rw [lookup_insert]
    by_cases hk : key r = k
    · simp [← hk, h]
    · simp [hk]
  · rename_i h
    rw [lookup_replace]
    by_cases hk : key r = k
    · obtain ⟨s, hs⟩ := Option.ne_none_iff_exists'.mp (hk ▸ h)
      simp [hk, hs]
    · simp [hk]

theorem mem_put {t : Table key} {r s : ρ} (h : s ∈ (t.put r).rows) : s = r ∨ s ∈ t.rows := by
  have hs := lookup_of_mem h
  rw [lookup_put] at hs
  by_cases hk : key r = key s
  · left
    simpa [hk] using hs.symm
  · right
    rw [if_neg hk] at hs
    exact mem_of_lookup hs

theorem mem_insert {t : Table key} {r s : ρ} {h : t.lookup (key r) = none} :
    s ∈ (t.insert r h).rows ↔ s ∈ t.rows ∨ s = r := by
  simp [insert]

def insertAll (t : Table key) (rs : List ρ) : Table key := rs.foldl insertIfAbsent t

/-- First writer wins: the stored row, else the first of the new rows under the key. -/
theorem lookup_insertAll (t : Table key) (rs : List ρ) (k : κ) :
    (t.insertAll rs).lookup k = (t.lookup k).or (rs.find? fun r => decide (key r = k)) := by
  induction rs generalizing t with
  | nil => simp [insertAll]
  | cons r rs ih =>
    have hrest := ih (t.insertIfAbsent r)
    simp only [insertAll, List.foldl_cons] at hrest ⊢
    rw [hrest, lookup_insertIfAbsent]
    by_cases hk : key r = k
    · cases t.lookup k <;> simp [hk]
    · simp [hk]

theorem insertAll_of_lookup {t : Table key} {rs : List ρ}
    (h : ∀ r ∈ rs, t.lookup (key r) ≠ none) : t.insertAll rs = t := by
  induction rs with
  | nil => rfl
  | cons r rs ih =>
    obtain ⟨s, hs⟩ := Option.ne_none_iff_exists'.mp (h r List.mem_cons_self)
    rw [insertAll, List.foldl_cons, insertIfAbsent_of_lookup hs]
    exact ih fun x hx => h x (List.mem_cons_of_mem _ hx)

theorem mem_insertAll {t : Table key} {rs : List ρ} {r : ρ} (h : r ∈ (t.insertAll rs).rows) :
    r ∈ t.rows ∨ r ∈ rs := by
  have hr := lookup_of_mem h
  rw [lookup_insertAll] at hr
  rcases Option.or_eq_some_iff.mp hr with hr | ⟨_, hr⟩
  · exact .inl (mem_of_lookup hr)
  · exact .inr (List.mem_of_find?_eq_some hr)

theorem lookup_insertAll_ne_none {t : Table key} {rs : List ρ} {k : κ} :
    (t.insertAll rs).lookup k ≠ none ↔ t.lookup k ≠ none ∨ ∃ r ∈ rs, key r = k := by
  rw [lookup_insertAll, ne_eq, Option.or_eq_none_iff, not_and_or]
  simp

end Table

end OpenWater.Framework
