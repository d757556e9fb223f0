import OpenWater.Framework.Run
import OpenWater.Ingestion.Database

/-!
# The connection pool of the backend

`connect`, `_ensure_pool` and `close` of `Database` in `backend/owp_backend/db.py`, run by many
requests at once. A step is what happens between two awaits; `connect` awaits between its check of
`self._pool` and the assignment to it.
-/

namespace OpenWater.Backend

open Framework Ingestion

inductive CallPhase where
  | connecting
  | holding (pool : Nat)
  | answered
  | unavailable (cause : PyException)
  | raised (exc : PyException)
  deriving DecidableEq

def CallPhase.isFinished : CallPhase → Bool
  | .connecting | .holding _ => false
  | .answered | .unavailable _ | .raised _ => true

/-- The lifespan of the application: `close` is called when it has served its last request. -/
inductive Lifespan where
  | serving
  | closing (pool : Nat)
  | closed
  deriving DecidableEq

/-- A `Database`, its calls, and every pool that `create_pool` has returned or that has been
closed. -/
structure PoolOwner where
  pool : Option Nat
  calls : List CallPhase
  lifespan : Lifespan
  opened : List Nat
  released : List Nat
  deriving DecidableEq

def PoolOwner.new : PoolOwner := ⟨none, [], .serving, [], []⟩

inductive PoolEvent where
  | arrive
  | created (call : Nat)
  | refused (call : Nat) (exc : PyException)
  | answered (call : Nat)
  | failed (call : Nat) (exc : PyException)
  | close
  | poolClosed

/-- The handlers in `connect` and around the queries; `_CONNECT_RETRYABLE_EXCEPTIONS` has the
members of `_RETRYABLE_EXCEPTIONS`. -/
def connectFailed (exc : PyException) : CallPhase :=
  if exc.isRetryable then .unavailable exc else .raised exc

namespace PoolOwner

/-- `_ensure_pool` as far as its first await. -/
def ensurePool (s : PoolOwner) : CallPhase :=
  match s.pool with
  | some pool => .holding pool
  | none => .connecting

def step (s : PoolOwner) : PoolEvent → Option PoolOwner
  | .arrive =>
    if s.lifespan = .serving then some { s with calls := s.calls ++ [s.ensurePool] } else none
  | .created call =>
    if s.calls[call]? = some .connecting then
      some { s with
        pool := some s.opened.length
        calls := s.calls.set call (.holding s.opened.length)
        opened := s.opened ++ [s.opened.length] }
    else none
  | .refused call exc =>
    if s.calls[call]? = some .connecting then
      some { s with calls := s.calls.set call (connectFailed exc) }
    else none
  | .answered call =>
    match s.calls[call]? with
    | some (.holding _) => some { s with calls := s.calls.set call .answered }
    | _ => none
  | .failed call exc =>
    match s.calls[call]? with
    | some (.holding _) => some { s with calls := s.calls.set call (connectFailed exc) }
    | _ => none
  | .close =>
    if s.lifespan = .serving ∧ s.calls.all CallPhase.isFinished = true then
      match s.pool with
      | none => some { s with lifespan := .closed }
      | some pool => some { s with lifespan := .closing pool }
    else none
  | .poolClosed =>
    match s.lifespan with
    | .closing pool => some { s with
        pool := none
        lifespan := .closed
        released := s.released ++ [pool] }
    | _ => none

def openPools (s : PoolOwner) : List Nat := s.opened.filter fun pool => pool ∉ s.released

/-- No pool is leaked: at most one is open, and none once `close` has returned. -/
def LeakFree (s : PoolOwner) : Prop :=
  s.openPools.length ≤ 1 ∧ (s.lifespan = .closed → s.openPools = [])

instance (s : PoolOwner) : Decidable s.LeakFree := inferInstanceAs (Decidable (_ ∧ (_ → _)))

/-- Until `close` has returned no pool is closed, and the instance holds one as soon as one was
opened; once `close` is called, no call is pending. -/
structure Invariant (s : PoolOwner) : Prop where
  released : s.lifespan ≠ .closed → s.released = []
  held : s.lifespan ≠ .closed → (s.pool = none ↔ s.opened = [])
  owned : ∀ pool, s.pool = some pool → pool ∈ s.opened
  closing : ∀ pool, s.lifespan = .closing pool → s.pool = some pool
  quiet : s.lifespan ≠ .serving → ∀ call ∈ s.calls, call.isFinished = true

theorem step_cases {s s' : PoolOwner} {event : PoolEvent} (h : s.step event = some s') :
    (∃ calls, s' = { s with calls := calls } ∧ (∀ call, event ≠ .created call) ∧
        (s.lifespan ≠ .serving → (∀ c ∈ s.calls, c.isFinished = true) →
          ∀ c ∈ calls, c.isFinished = true)) ∨
      (∃ call, event = .created call ∧ .connecting ∈ s.calls ∧ s' = { s with
        pool := some s.opened.length
        calls := s.calls.set call (.holding s.opened.length)
        opened := s.opened ++ [s.opened.length] }) ∨
      (event = .close ∧ s.lifespan = .serving ∧ (∀ c ∈ s.calls, c.isFinished = true) ∧
        ((s.pool = none ∧ s' = { s with lifespan := .closed }) ∨
          ∃ pool, s.pool = some pool ∧ s' = { s with lifespan := .closing pool })) ∨
      (∃ pool, event = .poolClosed ∧ s.lifespan = .closing pool ∧ s' = { s with
        pool := none
        lifespan := .closed
        released := s.released ++ [pool] }) := by
  have hset : ∀ call phase, phase.isFinished = true →
      (∀ c ∈ s.calls, c.isFinished = true) →
        ∀ c ∈ s.calls.set call phase, c.isFinished = true := by
    intro call phase hphase hall c hc
    rcases List.mem_or_eq_of_mem_set hc with hc | rfl
    · exact hall c hc
    · exact hphase
  have hfailed : ∀ exc, (connectFailed exc).isFinished = true := by
    intro exc
    unfold connectFailed
    split <;> rfl
  cases event with
  | arrive =>
    obtain ⟨hserving, h⟩ := Option.ite_none_right_eq_some.mp h
    obtain rfl := Option.some.inj h
    exact .inl ⟨_, rfl, by simp, fun hquiet => absurd hserving hquiet⟩
  | created call =>
    obtain ⟨hconnecting, h⟩ := Option.ite_none_right_eq_some.mp h
    obtain rfl := Option.some.inj h
    exact .inr (.inl ⟨call, rfl, List.mem_of_getElem? hconnecting, rfl⟩)
  | refused call exc =>
    obtain ⟨_, h⟩ := Option.ite_none_right_eq_some.mp h
    obtain rfl := Option.some.inj h
    exact .inl ⟨_, rfl, by simp, fun _ => hset call _ (hfailed exc)⟩
  | answered call =>
    simp only [step] at h
    split at h
    · obtain rfl := Option.some.inj h
      exact .inl ⟨_, rfl, by simp, fun _ => hset call _ rfl⟩
    · cases h
  | failed call exc =>
    simp only [step] at h
    split at h
    · obtain rfl := Option.some.inj h
      exact .inl ⟨_, rfl, by simp, fun _ => hset call _ (hfailed exc)⟩
    · cases h
  | close =>
    obtain ⟨⟨hserving, hall⟩, h⟩ := Option.ite_none_right_eq_some.mp h
    refine .inr (.inr (.inl ⟨rfl, hserving, List.all_eq_true.mp hall, ?_⟩))
    cases hpool : s.pool with
    | none =>
      rw [hpool] at h
      exact .inl ⟨rfl, (Option.some.inj h).symm⟩
    | some pool =>
      rw [hpool] at h
      exact .inr ⟨pool, rfl, (Option.some.inj h).symm⟩
  | poolClosed =>
    simp only [step] at h
    split at h
    · rename_i pool hclosing
      exact .inr (.inr (.inr ⟨pool, rfl, hclosing, (Option.some.inj h).symm⟩))
    · cases h

theorem Invariant.step {s s' : PoolOwner} {event : PoolEvent} (hs : s.Invariant)
    (h : s.step event = some s') : s'.Invariant := by
  rcases step_cases h with ⟨calls, rfl, _, hquiet⟩ | ⟨call, _, hconnecting, rfl⟩ |
    ⟨_, hserving, hall, ⟨hpool, rfl⟩ | ⟨pool, hpool, rfl⟩⟩ | ⟨pool, _, hclosing, rfl⟩
  · exact ⟨hs.released, hs.held, hs.owned, hs.closing, fun hl => hquiet hl (hs.quiet hl)⟩
  · have hserving : s.lifespan = .serving := by
      by_contra hl
      cases hs.quiet hl _ hconnecting
    refine ⟨hs.released, fun _ => by simp, ?_, ?_, fun hl => absurd hserving hl⟩
    · rintro _ ⟨⟩
      simp
    · intro pool hclosing
      rw [hserving] at hclosing
      cases hclosing
  · refine ⟨fun hl => absurd rfl hl, fun hl => absurd rfl hl, hs.owned, ?_, fun _ => hall⟩
    rintro _ ⟨⟩
  · have hopen : s.lifespan ≠ .closed := by simp [hserving]
    refine ⟨fun _ => hs.released hopen, fun _ => hs.held hopen, hs.owned, ?_, fun _ => hall⟩
    rintro _ ⟨⟩
    exact hpool
  · have hopen : s.lifespan ≠ .serving := by simp [hclosing]
    refine ⟨fun hl => absurd rfl hl, fun hl => absurd rfl hl, ?_, ?_, fun _ => hs.quiet hopen⟩
    · rintro _ ⟨⟩
    · rintro _ ⟨⟩

/-- A step from a state without leaks leaks a pool exactly if it opens one beside the one held. -/
theorem leakFree_step {s s' : PoolOwner} {event : PoolEvent} (hs : s.Invariant) (hfree : s.LeakFree)
    (h : s.step event = some s') :
    s'.LeakFree ↔ ∀ call, event = .created call → s.pool = none := by
  rcases step_cases h with ⟨calls, rfl, hcall, _⟩ | ⟨call, rfl, hconnecting, rfl⟩ |
    ⟨rfl, hserving, hall, hclose⟩ | ⟨pool, rfl, hclosing, rfl⟩
  · exact iff_of_true hfree fun call heq => absurd heq (hcall call)
  · have hserving : s.lifespan = .serving := by
      by_contra hl
      cases hs.quiet hl _ hconnecting
    have hopen : s.lifespan ≠ .closed := by simp [hserving]
    have hpools : s.opened.length + 1 ≤ 1 ↔ s.pool = none := by
      rw [hs.held hopen, ← List.length_eq_zero_iff]
      omega
    simp [LeakFree, openPools, hs.released hopen, hserving, ← hpools]
  · have hopen : s.lifespan ≠ .closed := by simp [hserving]
    refine iff_of_true ?_ (by simp)
    rcases hclose with ⟨hpool, rfl⟩ | ⟨pool, _, rfl⟩
    · have hnone := (hs.held hopen).mp hpool
      simp [LeakFree, openPools, hnone]
    · exact ⟨hfree.1, by simp⟩
  · have hopen : s.lifespan ≠ .closed := by simp [hclosing]
    have hrel := hs.released hopen
    have hmem := hs.owned pool (hs.closing pool hclosing)
    refine iff_of_true ?_ (by simp)
    have hone := hfree.1
    simp only [openPools, hrel, List.not_mem_nil, not_false_eq_true, decide_true,
      List.filter_true] at hone
    obtain ⟨only, honly⟩ := List.length_eq_one_iff.mp
      (le_antisymm hone (List.length_pos_of_mem hmem))
    rw [honly, List.mem_singleton] at hmem
    simp [LeakFree, openPools, hrel, honly, hmem]

private theorem invariant_new : PoolOwner.new.Invariant where
  released _ := rfl
  held _ := iff_of_true rfl rfl
  owned _ h := by cases h
  closing _ h := by cases h
  quiet h := absurd rfl h

private theorem exists_holding {s : PoolOwner} (hs : s.lifespan = .serving) :
    ∃ events s' pool, run step s events = some s' ∧
      s'.calls[s.calls.length]? = some (.holding pool) := by
  cases hpool : s.pool with
  | some pool =>
    refine ⟨[.arrive], { s with calls := s.calls ++ [.holding pool] }, pool, ?_, by simp⟩
    simp [run, step, hs, ensurePool, hpool]
  | none =>
    refine ⟨[.arrive, .created s.calls.length], { s with
      pool := some s.opened.length
      calls := s.calls ++ [.holding s.opened.length]
      opened := s.opened ++ [s.opened.length] }, s.opened.length, ?_, by simp⟩
    simp [run, step, hs, ensurePool, hpool]

private theorem refused_recovers {s s' : PoolOwner} (hs : s.Invariant) {call : Nat}
    {exc : PyException}
    (h : s.step (.refused call exc) = some s') :
    s'.pool = s.pool ∧ s'.opened = s.opened ∧ ∃ events s'' pool, run step s' events = some s'' ∧
      s''.calls[s'.calls.length]? = some (.holding pool) := by
  obtain ⟨hconnecting, h⟩ := Option.ite_none_right_eq_some.mp h
  obtain rfl := Option.some.inj h
  have hserving : s.lifespan = .serving := by
    by_contra hl
    cases hs.quiet hl _ (List.mem_of_getElem? hconnecting)
  exact ⟨rfl, rfl, exists_holding hserving⟩

end PoolOwner

/-- In every state of a run at most one pool is open, and none after `close`, and after every failed
connect a later request can connect, exactly when each `create_pool` that succeeds does so while
the instance holds no pool. -/
theorem pools_leakFree_iff {events : List PoolEvent} {s : PoolOwner}
    (hrun : run PoolOwner.step .new events = some s) :
    (∀ before u, before <+: events → run PoolOwner.step .new before = some u → u.LeakFree ∧
        ∀ call exc u', u.step (.refused call exc) = some u' →
          u'.pool = u.pool ∧ u'.opened = u.opened ∧
            ∃ later v pool, run PoolOwner.step u' later = some v ∧
              v.calls[u'.calls.length]? = some (.holding pool)) ↔
      Along PoolOwner.step (fun u event => ∀ call, event = .created call → u.pool = none) .new
        events := by
  have hinv : ∀ before u, run PoolOwner.step .new before = some u → u.Invariant :=
    fun before u hu => run_preserves (I := PoolOwner.Invariant) (fun _ _ _ ht => ht.step)
      PoolOwner.invariant_new hu
  have hnew : PoolOwner.new.LeakFree := ⟨by decide, fun h => by cases h⟩
  rw [← along_iff (I := PoolOwner.Invariant) (P := PoolOwner.LeakFree) (fun _ _ _ ht => ht.step)
    (fun _ _ _ ht hfree => PoolOwner.leakFree_step ht hfree) PoolOwner.invariant_new hnew hrun]
  constructor
  · exact fun hall before u hb hu => (hall before u hb hu).1
  · exact fun hall before u hb hu => ⟨hall before u hb hu, fun _ _ _ =>
      PoolOwner.refused_recovers (hinv before u hu)⟩

/-- Two first requests connect at once. Two pools are open, and `close` leaves one of them so. -/
theorem concurrent_connects_leak_pool :
    let events : List PoolEvent := [.arrive, .arrive, .created 0, .created 1, .answered 0,
      .answered 1, .close, .poolClosed]
    (∃ u, run PoolOwner.step .new (events.take 4) = some u ∧ u.openPools = [0, 1]) ∧
      ∃ s, run PoolOwner.step .new events = some s ∧ s.lifespan = .closed ∧ s.openPools = [0] :=
  ⟨⟨_, rfl, rfl⟩, _, rfl, rfl, rfl⟩

/-- Requests that follow one another, the first of them during an outage. -/
theorem pools_leakFree_iff_outage :
    let events : List PoolEvent := [.arrive, .refused 0 .connectionError, .arrive, .created 1,
      .arrive, .answered 1, .answered 2, .close, .poolClosed]
    ∃ s, run PoolOwner.step .new events = some s ∧ s.LeakFree := by
  intro events
  obtain ⟨s, hrun⟩ : ∃ s, run PoolOwner.step .new events = some s := ⟨_, rfl⟩
  refine ⟨s, hrun, ((pools_leakFree_iff hrun).mpr ?_ events s (List.prefix_refl _) hrun).1⟩
  simp [Along, events, PoolOwner.step, PoolOwner.new, PoolOwner.ensurePool, connectFailed,
    PyException.isRetryable]

end OpenWater.Backend
