import Mathlib.Tactic.Common

/-!
# Patterns of levels

A publish/subscribe broker names what is published by a list of levels, and a subscription is a
pattern for such lists: some levels are given, any will do for the others, and more may follow.
-/

namespace OpenWater.Framework

variable {α : Type*}

/-- The levels a name has to have, `none` where any will do, and whether it may have more. -/
structure LevelPattern (α : Type*) where
  levels : List (Option α)
  deeper : Bool
  deriving DecidableEq

namespace LevelPattern

def cons (level : Option α) (p : LevelPattern α) : LevelPattern α :=
  { p with levels := level :: p.levels }

variable [DecidableEq α]

def acceptsLevels (deeper : Bool) : List (Option α) → List α → Bool
  | [], [] => true
  | [], _ :: _ => deeper
  | _ :: _, [] => false
  | some x :: levels, y :: name => decide (x = y) && acceptsLevels deeper levels name
  | none :: levels, _ :: name => acceptsLevels deeper levels name

def accepts (p : LevelPattern α) (name : List α) : Bool := acceptsLevels p.deeper p.levels name

theorem acceptsLevels_append {deeper : Bool} {levels levels' : List (Option α)} {name : List α} :
    acceptsLevels deeper (levels ++ levels') name = true ↔
      ∃ front back, name = front ++ back ∧ acceptsLevels false levels front = true ∧
        acceptsLevels deeper levels' back = true := by
  induction levels generalizing name with
  | nil =>
    constructor
    · intro h
      exact ⟨[], name, rfl, rfl, h⟩
    · rintro ⟨front, back, rfl, hfront, hback⟩
      cases front with
      | nil => exact hback
      | cons x front => cases hfront
  | cons level levels ih =>
    constructor
    · intro h
      cases name with
      | nil => cases level <;> cases h
      | cons x name =>
        cases level with
        | none =>
          obtain ⟨front, back, rfl, hfront, hback⟩ := ih.mp h
          exact ⟨x :: front, back, rfl, hfront, hback⟩
        | some y =>
          obtain ⟨heq, h⟩ := Bool.and_eq_true_iff.mp h
          obtain ⟨front, back, rfl, hfront, hback⟩ := ih.mp h
          exact ⟨x :: front, back, rfl, Bool.and_eq_true_iff.mpr ⟨heq, hfront⟩, hback⟩
    · rintro ⟨front, back, rfl, hfront, hback⟩
      cases front with
      | nil => cases level <;> cases hfront
      | cons x front =>
        cases level with
        | none => exact ih.mpr ⟨front, back, rfl, hfront, hback⟩
        | some y =>
          obtain ⟨heq, hfront⟩ := Bool.and_eq_true_iff.mp hfront
          exact Bool.and_eq_true_iff.mpr ⟨heq, ih.mpr ⟨front, back, rfl, hfront, hback⟩⟩

theorem acceptsLevels_given {given name : List α} :
    acceptsLevels false (given.map some) name = true ↔ name = given := by
  induction given generalizing name with
  | nil => cases name <;> simp [acceptsLevels]
  | cons x given ih =>
    cases name with
    | nil => simp [acceptsLevels]
    | cons y name =>
      show (decide (x = y) && acceptsLevels false (given.map some) name) = true ↔ _
      rw [Bool.and_eq_true_iff, decide_eq_true_eq, ih, List.cons.injEq, eq_comm]

def hole (before after : List α) : LevelPattern α :=
  ⟨before.map some ++ none :: after.map some, false⟩

theorem hole_accepts {before after name : List α} :
    (hole before after).accepts name = true ↔ ∃ x, name = before ++ x :: after := by
  unfold accepts hole
  rw [acceptsLevels_append]
  constructor
  · rintro ⟨front, back, rfl, hfront, hback⟩
    obtain rfl := acceptsLevels_given.mp hfront
    cases back with
    | nil => cases hback
    | cons x back =>
      obtain rfl := acceptsLevels_given.mp hback
      exact ⟨x, rfl⟩
  · rintro ⟨x, rfl⟩
    exact ⟨before, x :: after, rfl, acceptsLevels_given.mpr rfl, acceptsLevels_given.mpr rfl⟩

/-- A pattern as it is written, with one level for any level, and one at the end for any levels. -/
def read (single multi : α) : List (List α) → Option (LevelPattern (List α))
  | [] => some ⟨[], false⟩
  | level :: levels =>
    if level = [multi] then if levels = [] then some ⟨[], true⟩ else none
    else if level = [single] then (read single multi levels).map (cons none)
    else if single ∈ level ∨ multi ∈ level then none
    else (read single multi levels).map (cons (some level))

end LevelPattern

theorem intercalate_around (sep : List α) (before after : List (List α)) :
    ∃ front back, ∀ x, sep.intercalate (before ++ x :: after) = front ++ x ++ back := by
  induction before with
  | nil =>
    cases after with
    | nil =>
      refine ⟨[], [], fun x => ?_⟩
      simp
    | cons y after =>
      refine ⟨[], sep ++ sep.intercalate (y :: after), fun x => ?_⟩
      simp [List.intercalate]
  | cons y before ih =>
    obtain ⟨front, back, h⟩ := ih
    refine ⟨y ++ sep ++ front, back, fun x => ?_⟩
    have hne : before ++ x :: after ≠ [] := by simp
    obtain ⟨z, rest, hrest⟩ := List.exists_cons_of_ne_nil hne
    rw [List.cons_append, List.append_assoc, List.append_assoc, List.append_assoc,
      ← List.append_assoc front, ← h x, hrest]
    simp [List.intercalate]

theorem intercalate_middle {sep : List α} {before after : List (List α)} {x y : List α} :
    sep.intercalate (before ++ x :: after) = sep.intercalate (before ++ y :: after) ↔ x = y := by
  obtain ⟨front, back, h⟩ := intercalate_around sep before after
  rw [h x, h y, List.append_cancel_right_eq, List.append_cancel_left_eq]

end OpenWater.Framework
