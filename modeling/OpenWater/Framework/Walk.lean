import OpenWater.Framework.Run

/-!
# Walks

A client asks a server for one page after the other, each time at the offset where the last page
ended, until a page is short; meanwhile the server's store is written to. A request that fails
leaves the client where it was.
-/

namespace OpenWater.Framework

variable {σ ω α π ι : Type*}

structure Server (σ ω α π ι : Type*) where
  write : ω → σ → σ
  /-- The answer to a request at an offset, and the store after it. -/
  respond : α → Nat → σ → σ × Option π
  items : π → List ι
  limit : π → Nat

structure Walk (σ π : Type*) where
  store : σ
  offset : Nat
  pages : List π
  finished : Bool

inductive Move (ω α : Type*) where
  | write (w : ω)
  | request (a : α)

def Walk.start (store : σ) : Walk σ π := ⟨store, 0, [], false⟩

namespace Server

variable (S : Server σ ω α π ι)

def step (s : Walk σ π) : Move ω α → Option (Walk σ π)
  | .write w => some { s with store := S.write w s.store }
  | .request a =>
    if s.finished then none
    else
      let store := (S.respond a s.offset s.store).1
      match (S.respond a s.offset s.store).2 with
      | none => some { s with store := store }
      | some page => some
        { store := store
          offset := s.offset + S.limit page
          pages := s.pages ++ [page]
          finished := decide ((S.items page).length < S.limit page) }

def Shown (hit : ι → Prop) (s : Walk σ π) : Prop :=
  ∃ page ∈ s.pages, ∃ item ∈ S.items page, hit item

instance (hit : ι → Prop) [DecidablePred hit] (s : Walk σ π) : Decidable (S.Shown hit s) :=
  inferInstanceAs (Decidable (∃ page ∈ s.pages, ∃ item ∈ S.items page, hit item))

variable {S}

theorem step_write {s s' : Walk σ π} {w : ω} (h : S.step s (.write w) = some s') :
    s' = { s with store := S.write w s.store } :=
  (Option.some.inj h).symm

theorem step_request {s s' : Walk σ π} {a : α} (h : S.step s (.request a) = some s') :
    s.finished = false ∧
      (((S.respond a s.offset s.store).2 = none ∧
          s' = { s with store := (S.respond a s.offset s.store).1 }) ∨
        ∃ page, (S.respond a s.offset s.store).2 = some page ∧ s' =
          { store := (S.respond a s.offset s.store).1
            offset := s.offset + S.limit page
            pages := s.pages ++ [page]
            finished := decide ((S.items page).length < S.limit page) }) := by
  simp only [step, Option.ite_none_left_eq_some, Bool.not_eq_true] at h
  obtain ⟨hfin, h⟩ := h
  refine ⟨hfin, ?_⟩
  cases hpage : (S.respond a s.offset s.store).2 with
  | none =>
    rw [hpage] at h
    exact .inl ⟨rfl, (Option.some.inj h).symm⟩
  | some page =>
    rw [hpage] at h
    exact .inr ⟨page, rfl, (Option.some.inj h).symm⟩

theorem walk_pages {P : π → Prop}
    (hanswer : ∀ a o st page, (S.respond a o st).2 = some page → P page) {store : σ}
    {s : Walk σ π} {moves : List (Move ω α)} (hrun : run S.step (.start store) moves = some s) :
    ∀ page ∈ s.pages, P page := by
  refine run_preserves (I := fun t : Walk σ π => ∀ page ∈ t.pages, P page) ?_ ?_ hrun
  · intro t move t' ht hstep
    cases move with
    | write w =>
      obtain rfl := step_write hstep
      exact ht
    | request a =>
      obtain ⟨_, ⟨_, rfl⟩ | ⟨page, hpage, rfl⟩⟩ := step_request hstep
      · exact ht
      · intro p hp
        rcases List.mem_append.mp hp with hp | hp
        · exact ht p hp
        · exact List.mem_singleton.mp hp ▸ hanswer a _ _ page hpage
  · simp [Walk.start]

/-- A walk shows an item if, until it does, no step lets the item fall behind the offset: `Ahead`
says of a store that the item is there and stands at the offset or after it. -/
theorem walk_shows {hit : ι → Prop} {Ok : Walk σ π → Move ω α → Prop}
    (Ahead : σ → Nat → Prop)
    (hwrite : ∀ s w, Ok s (.write w) → ¬ S.Shown hit s → Ahead s.store s.offset →
      Ahead (S.write w s.store) s.offset)
    (hfail : ∀ s a, Ok s (.request a) → ¬ S.Shown hit s → Ahead s.store s.offset →
      (S.respond a s.offset s.store).2 = none →
      Ahead (S.respond a s.offset s.store).1 s.offset)
    (hpage : ∀ s a page, Ok s (.request a) → ¬ S.Shown hit s → Ahead s.store s.offset →
      (S.respond a s.offset s.store).2 = some page →
      (∃ item ∈ S.items page, hit item) ∨ (S.limit page ≤ (S.items page).length ∧
        Ahead (S.respond a s.offset s.store).1 (s.offset + S.limit page)))
    {store : σ} (hstart : Ahead store 0) {s : Walk σ π} {moves : List (Move ω α)}
    (hok : Along S.step Ok (.start store) moves) (hrun : run S.step (.start store) moves = some s)
    (hfinished : s.finished = true) : S.Shown hit s := by
  have hinv : S.Shown hit s ∨ (s.finished = false ∧ Ahead s.store s.offset) := by
    refine run_invariant (I := fun t => S.Shown hit t ∨
      (t.finished = false ∧ Ahead t.store t.offset)) ?_ (.inr ⟨rfl, hstart⟩) hok hrun
    intro t move t' ht hmove hstep
    by_cases hshown : S.Shown hit t
    · left
      obtain ⟨page, hpages, hitem⟩ := hshown
      cases move with
      | write w =>
        obtain rfl := step_write hstep
        exact ⟨page, hpages, hitem⟩
      | request a =>
        obtain ⟨_, ⟨_, rfl⟩ | ⟨last, _, rfl⟩⟩ := step_request hstep
        · exact ⟨page, hpages, hitem⟩
        · exact ⟨page, List.mem_append_left _ hpages, hitem⟩
    · obtain ⟨hfin, hahead⟩ := ht.resolve_left hshown
      cases move with
      | write w =>
        obtain rfl := step_write hstep
        exact .inr ⟨hfin, hwrite t w hmove hshown hahead⟩
      | request a =>
        obtain ⟨_, ⟨hnone, rfl⟩ | ⟨page, hsome, rfl⟩⟩ := step_request hstep
        · exact .inr ⟨hfin, hfail t a hmove hshown hahead hnone⟩
        · rcases hpage t a page hmove hshown hahead hsome with hitem | ⟨hfull, hahead'⟩
          · exact .inl ⟨page, by simp, hitem⟩
          · exact .inr ⟨by simpa using hfull, hahead'⟩
  exact hinv.resolve_right fun h => by simp [hfinished] at h

end Server

end OpenWater.Framework
