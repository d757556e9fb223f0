import OpenWater.Framework.Run

/-!
# Effects with a cleanup

An effect that runs again when its dependencies change, after the cleanup of the run before. A run
can leave a promise behind, whose callback sets the state when the promise has settled, unless the
cleanup has marked the run as cancelled. The requests of all runs settle, and the callbacks run, in
any order.
-/

namespace OpenWater.Framework

/-- Dependencies `δ`, a state `σ`, promises `π` whose requests settle by events `ε`, and what a run
reads from outside, `κ`. -/
structure Effect (δ κ σ π ε : Type*) where
  /-- What a run sets the state to at once, and the promise it leaves. -/
  body : δ → κ → σ → σ × Option π
  progress : π → ε → Option π
  /-- The state the callback sets, once the promise has settled. -/
  outcome : π → Option σ
  outcome_stays : ∀ p e p' s, progress p e = some p' → outcome p = some s → outcome p' = some s

structure EffectRun (δ π : Type*) where
  deps : δ
  promise : Option π
  cancelled : Bool
  called : Bool

/-- A mounted component: its state, the dependencies it was last rendered with, and the runs of its
effect, the newest last. -/
structure Mounted (δ σ π : Type*) where
  state : σ
  deps : δ
  runs : List (EffectRun δ π)

inductive EffectLabel (δ κ ε : Type*) where
  | render (deps : δ) (read : κ)
  | remount (read : κ)
  | progress (i : Nat) (e : ε)
  | callback (i : Nat)

def EffectRun.cancel {δ π : Type*} (run : EffectRun δ π) : EffectRun δ π :=
  { run with cancelled := true }

def EffectLabel.depsAfter {δ κ ε : Type*} (l : EffectLabel δ κ ε) (deps : δ) : δ :=
  match l with
  | .render deps _ => deps
  | .remount _ | .progress _ _ | .callback _ => deps

namespace Effect

variable {δ κ σ π ε : Type*} (E : Effect δ κ σ π ε)

def rerun (m : Mounted δ σ π) (deps : δ) (read : κ) : Mounted δ σ π where
  state := (E.body deps read m.state).1
  deps := deps
  runs := m.runs.modify (m.runs.length - 1) EffectRun.cancel ++
    [⟨deps, (E.body deps read m.state).2, false, false⟩]

def mount (initial : σ) (deps : δ) (read : κ) : Mounted δ σ π :=
  E.rerun ⟨initial, deps, []⟩ deps read

/-- An effect does not run again for equal dependencies, but for a remount. -/
def step [DecidableEq δ] (m : Mounted δ σ π) : EffectLabel δ κ ε → Option (Mounted δ σ π)
  | .render deps read => some (if deps = m.deps then m else E.rerun m deps read)
  | .remount read => some (E.rerun m m.deps read)
  | .progress i e =>
    m.runs[i]?.bind fun run => run.promise.bind fun p => (E.progress p e).map fun p' =>
      { m with runs := m.runs.set i { run with promise := some p' } }
  | .callback i =>
    m.runs[i]?.bind fun run => run.promise.bind fun p => (E.outcome p).bind fun s =>
      if run.called then none
      else some { m with
        state := if run.cancelled then m.state else s
        runs := m.runs.set i { run with called := true } }

variable {E} {m m' : Mounted δ σ π}

theorem progress_cases [DecidableEq δ] {i : Nat} {e : ε} (h : E.step m (.progress i e) = some m') :
    ∃ run p p', m.runs[i]? = some run ∧ run.promise = some p ∧ E.progress p e = some p' ∧
      m' = { m with runs := m.runs.set i { run with promise := some p' } } := by
  obtain ⟨run, hrun, h⟩ := Option.bind_eq_some_iff.mp h
  obtain ⟨p, hp, h⟩ := Option.bind_eq_some_iff.mp h
  obtain ⟨p', hp', rfl⟩ := Option.map_eq_some_iff.mp h
  exact ⟨run, p, p', hrun, hp, hp', rfl⟩

theorem callback_cases [DecidableEq δ] {i : Nat} (h : E.step m (.callback i) = some m') :
    ∃ run p s, m.runs[i]? = some run ∧ run.promise = some p ∧ E.outcome p = some s ∧
      run.called = false ∧ m' = { m with
        state := if run.cancelled then m.state else s
        runs := m.runs.set i { run with called := true } } := by
  obtain ⟨run, hrun, h⟩ := Option.bind_eq_some_iff.mp h
  obtain ⟨p, hp, h⟩ := Option.bind_eq_some_iff.mp h
  obtain ⟨s, hs, h⟩ := Option.bind_eq_some_iff.mp h
  split at h
  · cases h
  · rename_i hcalled
    exact ⟨run, p, s, hrun, hp, hs, by simpa using hcalled, (Option.some.inj h).symm⟩

theorem step_deps [DecidableEq δ] {l : EffectLabel δ κ ε} (h : E.step m l = some m') :
    m'.deps = l.depsAfter m.deps := by
  cases l with
  | render deps read =>
    obtain rfl := Option.some.inj h
    by_cases hdeps : deps = m.deps
    · simp [hdeps, EffectLabel.depsAfter]
    · simp [hdeps, rerun, EffectLabel.depsAfter]
  | remount read =>
    obtain rfl := Option.some.inj h
    rfl
  | progress i e =>
    obtain ⟨_, _, _, _, _, _, rfl⟩ := progress_cases h
    rfl
  | callback i =>
    obtain ⟨_, _, _, _, _, _, _, rfl⟩ := callback_cases h
    rfl

/-! ## One live run -/

/-- The state is what the run has made of it: what its body set, or the outcome of its promise once
the callback has run. -/
inductive Shows (E : Effect δ κ σ π ε) (run : EffectRun δ π) (s : σ) : Prop where
  | body (read : κ) (before : σ) (hcalled : run.called = false)
      (hs : s = (E.body run.deps read before).1)
  | outcome (p : π) (hcalled : run.called = true) (hp : run.promise = some p)
      (hs : E.outcome p = some s)

/-- Every run but the last is cancelled, and the last one runs for the current dependencies and has
the state to itself. -/
structure OneLive (E : Effect δ κ σ π ε) (m : Mounted δ σ π) : Prop where
  cancelled : ∀ i run, m.runs[i]? = some run → (run.cancelled = true ↔ i + 1 ≠ m.runs.length)
  current : ∃ i run, i + 1 = m.runs.length ∧ m.runs[i]? = some run ∧ run.deps = m.deps ∧
    E.Shows run m.state

theorem OneLive.rerun (h : ∀ i run, m.runs[i]? = some run →
    (run.cancelled = true ↔ i + 1 ≠ m.runs.length)) (deps : δ) (read : κ) :
    OneLive E (E.rerun m deps read) := by
  have hlength : (E.rerun m deps read).runs.length = m.runs.length + 1 := by simp [Effect.rerun]
  have hold : ∀ i < m.runs.length, (E.rerun m deps read).runs[i]? =
      (m.runs.modify (m.runs.length - 1) EffectRun.cancel)[i]? := by
    intro i hi
    exact List.getElem?_append_left (by simpa using hi)
  have hnew : (E.rerun m deps read).runs[m.runs.length]? =
      some ⟨deps, (E.body deps read m.state).2, false, false⟩ := by
    simp [Effect.rerun]
  constructor
  · intro i run hrun
    rw [hlength]
    have hi : i < m.runs.length + 1 := hlength ▸ (List.getElem?_eq_some_iff.mp hrun).1
    rcases Nat.lt_or_ge i m.runs.length with hlt | hge
    · rw [hold i hlt, List.getElem?_modify] at hrun
      obtain ⟨run', hrun', rfl⟩ := Option.map_eq_some_iff.mp hrun
      have hcancelled : (if m.runs.length - 1 = i then run'.cancel else run').cancelled = true := by
        split
        · rfl
        · exact (h i run' hrun').mpr (by omega)
      exact iff_of_true hcancelled (by omega)
    · obtain rfl : i = m.runs.length := by omega
      rw [hnew] at hrun
      obtain rfl := Option.some.inj hrun
      simp
  · exact ⟨m.runs.length, _, hlength.symm, hnew, rfl, .body read m.state rfl rfl⟩

theorem OneLive.set (h : OneLive E m) {i : Nat} {run run' : EffectRun δ π} {s : σ}
    (hrun : m.runs[i]? = some run) (hdeps : run'.deps = run.deps)
    (hcancelled : run'.cancelled = run.cancelled)
    (hlast : i + 1 = m.runs.length → E.Shows run m.state → E.Shows run' s)
    (hstale : i + 1 ≠ m.runs.length → s = m.state) :
    OneLive E { m with state := s, runs := m.runs.set i run' } := by
  have hi := (List.getElem?_eq_some_iff.mp hrun).1
  constructor
  · intro j runj hrunj
    rw [List.length_set]
    rcases eq_or_ne i j with rfl | hne
    · rw [List.getElem?_set_self hi] at hrunj
      obtain rfl := Option.some.inj hrunj
      rw [hcancelled]
      exact h.cancelled i run hrun
    · rw [List.getElem?_set_ne hne] at hrunj
      exact h.cancelled j runj hrunj
  · obtain ⟨j, last, hj, hget, hcurrent, hshows⟩ := h.current
    rcases eq_or_ne i j with rfl | hne
    · obtain rfl := Option.some.inj (hrun.symm.trans hget)
      exact ⟨i, run', by simpa using hj, List.getElem?_set_self hi, hdeps.trans hcurrent,
        hlast hj hshows⟩
    · have hstate := hstale (by omega)
      refine ⟨j, last, by simpa using hj, ?_, hcurrent, hstate ▸ hshows⟩
      exact (List.getElem?_set_ne hne).trans hget

theorem OneLive.step [DecidableEq δ] {l : EffectLabel δ κ ε} (h : OneLive E m)
    (hstep : E.step m l = some m') : OneLive E m' := by
  cases l with
  | render deps read =>
    obtain rfl := Option.some.inj hstep
    split
    · exact h
    · exact .rerun h.cancelled deps read
  | remount read =>
    obtain rfl := Option.some.inj hstep
    exact .rerun h.cancelled m.deps read
  | progress i e =>
    obtain ⟨run, p, p', hrun, hp, hp', rfl⟩ := progress_cases hstep
    refine h.set hrun rfl rfl (fun _ hshows => ?_) fun _ => rfl
    cases hshows with
    | body read before hcalled hs => exact .body read before hcalled hs
    | outcome q hcalled hq hs =>
      obtain rfl := Option.some.inj (hp.symm.trans hq)
      exact .outcome p' hcalled rfl (E.outcome_stays p e p' _ hp' hs)
  | callback i =>
    obtain ⟨run, p, s, hrun, hp, hs, hcalled, rfl⟩ := callback_cases hstep
    have hcancelled := h.cancelled i run hrun
    refine h.set hrun rfl rfl (fun hlast _ => ?_) fun hstale => ?_
    · have hlive : run.cancelled = false := by
        rw [← Bool.not_eq_true, hcancelled]
        exact not_not.mpr hlast
      exact .outcome p rfl hp (by simpa [hlive] using hs)
    · simp [hcancelled.mpr hstale]

theorem OneLive.mount (E : Effect δ κ σ π ε) (initial : σ) (deps : δ) (read : κ) :
    OneLive E (E.mount initial deps read) :=
  .rerun (by simp) deps read

/-- In every run of the component, one effect at most has the state to itself. -/
theorem oneLive_run [DecidableEq δ] {initial : σ} {deps : δ} {read : κ}
    {labels : List (EffectLabel δ κ ε)}
    (hrun : run E.step (E.mount initial deps read) labels = some m) : OneLive E m :=
  run_preserves (fun _ _ _ h hstep => h.step hstep) (.mount E initial deps read) hrun

theorem OneLive.stale [DecidableEq δ] (h : OneLive E m) {i : Nat} (hi : i + 1 ≠ m.runs.length) :
    (∀ e, E.step m (.progress i e) = some m' → m'.state = m.state) ∧
      (E.step m (.callback i) = some m' → m'.state = m.state) := by
  constructor
  · intro e hstep
    obtain ⟨run, p, p', _, _, _, rfl⟩ := progress_cases hstep
    rfl
  · intro hstep
    obtain ⟨run, p, s, hrun, _, _, _, rfl⟩ := callback_cases hstep
    simp [(h.cancelled i run hrun).mpr hi]

/-! ## What promises stand for -/

theorem runs_step [DecidableEq δ] {P : δ → Option π → Prop} {l : EffectLabel δ κ ε}
    (hbody : ∀ deps read s, P deps (E.body deps read s).2)
    (hprogress : ∀ i e run p p', l = .progress i e → m.runs[i]? = some run →
      run.promise = some p → E.progress p e = some p' → P run.deps (some p) →
        P run.deps (some p'))
    (h : ∀ run ∈ m.runs, P run.deps run.promise) (hstep : E.step m l = some m') :
    ∀ run ∈ m'.runs, P run.deps run.promise := by
  have hrerun : ∀ deps read, ∀ run ∈ (E.rerun m deps read).runs, P run.deps run.promise := by
    intro deps read run hrun
    rcases List.mem_append.mp hrun with hold | hnew
    · obtain ⟨i, hi⟩ := List.mem_iff_getElem?.mp hold
      rw [List.getElem?_modify] at hi
      obtain ⟨run', hrun', rfl⟩ := Option.map_eq_some_iff.mp hi
      have hrun := h run' (List.mem_of_getElem? hrun')
      split
      · exact hrun
      · exact hrun
    · obtain rfl := List.mem_singleton.mp hnew
      exact hbody deps read m.state
  cases l with
  | render deps read =>
    obtain rfl := Option.some.inj hstep
    split
    · exact h
    · exact hrerun deps read
  | remount read =>
    obtain rfl := Option.some.inj hstep
    exact hrerun m.deps read
  | progress i e =>
    obtain ⟨run, p, p', hrun, hp, hp', rfl⟩ := progress_cases hstep
    intro run' hrun'
    rcases List.mem_or_eq_of_mem_set hrun' with hold | rfl
    · exact h run' hold
    · exact hprogress i e run p p' rfl hrun hp hp' (hp ▸ h run (List.mem_of_getElem? hrun))
  | callback i =>
    obtain ⟨run, p, s, hrun, _, _, _, rfl⟩ := callback_cases hstep
    intro run' hrun'
    rcases List.mem_or_eq_of_mem_set hrun' with hold | rfl
    · exact h run' hold
    · exact h run (List.mem_of_getElem? hrun)

theorem state_step [DecidableEq δ] {S : σ → Prop} {l : EffectLabel δ κ ε}
    (hbody : ∀ deps read s, S s → S (E.body deps read s).1)
    (houtcome : ∀ run ∈ m.runs, ∀ p s, run.promise = some p → E.outcome p = some s → S s)
    (h : S m.state) (hstep : E.step m l = some m') : S m'.state := by
  cases l with
  | render deps read =>
    obtain rfl := Option.some.inj hstep
    split
    · exact h
    · exact hbody deps read m.state h
  | remount read =>
    obtain rfl := Option.some.inj hstep
    exact hbody m.deps read m.state h
  | progress i e =>
    obtain ⟨_, _, _, _, _, _, rfl⟩ := progress_cases hstep
    exact h
  | callback i =>
    obtain ⟨run, p, s, hrun, hp, hs, _, rfl⟩ := callback_cases hstep
    change S (if run.cancelled then m.state else s)
    split
    · exact h
    · exact houtcome run (List.mem_of_getElem? hrun) p s hp hs

/-- Each promise is one that `Q` allows for the dependencies of its run. -/
def Allows (Q : δ → π → Prop) (runs : List (EffectRun δ π)) : Prop :=
  ∀ run ∈ runs, ∀ p ∈ run.promise, Q run.deps p

theorem allows_run [DecidableEq δ] {Q : δ → π → Prop}
    (hbody : ∀ deps read s, ∀ p ∈ (E.body deps read s).2, Q deps p)
    (hprogress : ∀ deps p e p', Q deps p → E.progress p e = some p' → Q deps p')
    {initial : σ} {deps : δ} {read : κ} {labels : List (EffectLabel δ κ ε)}
    (hrun : run E.step (E.mount initial deps read) labels = some m) : Allows Q m.runs := by
  refine run_preserves (I := fun m : Mounted δ σ π => Allows Q m.runs) ?_ ?_ hrun
  · intro m l m' h hstep
    refine runs_step (P := fun deps promise => ∀ p ∈ promise, Q deps p) hbody ?_ h hstep
    intro i e run p p' _ _ _ hp' hq q hpq
    obtain rfl := Option.some.inj hpq
    exact hprogress run.deps p e p' (hq p rfl) hp'
  · intro run hrun
    obtain rfl : run = _ := List.mem_singleton.mp hrun
    exact hbody deps read initial

/-! ## What a reader of the state is shown -/

/-- The state is the outcome of what the newest run has asked for. -/
def ShowsNewest (E : Effect δ κ σ π ε) (asked : δ → π → Prop) (m : Mounted δ σ π) : Prop :=
  ∃ run p, m.runs.getLast? = some run ∧ run.promise = some p ∧ asked m.deps p ∧
    E.outcome p = some m.state

/-- Nothing that happens to an older run changes the state. -/
def IgnoresOlder [DecidableEq δ] (E : Effect δ κ σ π ε) (m : Mounted δ σ π) : Prop :=
  ∀ i m', i + 1 ≠ m.runs.length → (∀ e, E.step m (.progress i e) = some m' → m'.state = m.state) ∧
    (E.step m (.callback i) = some m' → m'.state = m.state)

/-- An effect that asks for something unless it is idle: the state is `blank` then, and otherwise
loading until there is an outcome. -/
structure Asks (E : Effect δ κ σ π ε) (idle : δ → Prop) (blank : σ) (loading : σ → Bool)
    (asked : δ → π → Prop) : Prop where
  blank_of_idle : ∀ deps read s, idle deps → (E.body deps read s).1 = blank
  loading_of_busy : ∀ deps read s, ¬ idle deps → loading (E.body deps read s).1 = true
  asked_body : ∀ deps read s, ∀ p ∈ (E.body deps read s).2, asked deps p
  asked_progress : ∀ deps p e p', asked deps p → E.progress p e = some p' → asked deps p'
  busy_of_asked : ∀ deps p, asked deps p → ¬ idle deps

/-- In every run of the component an idle effect shows `blank`, a state that is not loading is the
outcome of what the newest run has asked for, and older runs are ignored. -/
theorem Asks.run [DecidableEq δ] {idle : δ → Prop} {blank : σ} {loading : σ → Bool}
    {asked : δ → π → Prop} (h : Asks E idle blank loading asked) {initial : σ} {deps : δ}
    {read : κ} {labels : List (EffectLabel δ κ ε)}
    (hrun : Framework.run E.step (E.mount initial deps read) labels = some m) :
    (idle m.deps → m.state = blank) ∧
      (¬ idle m.deps → loading m.state = false → E.ShowsNewest asked m) ∧ E.IgnoresOlder m := by
  have hlive := oneLive_run hrun
  have hallows := allows_run h.asked_body h.asked_progress hrun
  obtain ⟨i, last, hi, hget, hdeps, hshows⟩ := hlive.current
  have hlast : m.runs.getLast? = some last := by
    rw [List.getLast?_eq_getElem?, ← hi, Nat.add_sub_cancel, hget]
  have holder : E.IgnoresOlder m := fun i m' hi => hlive.stale hi
  cases hshows with
  | body read before _ hs =>
    rw [hdeps] at hs
    refine ⟨fun hidle => hs.trans (h.blank_of_idle _ _ _ hidle), fun hbusy hloading => ?_, holder⟩
    rw [hs, h.loading_of_busy _ _ _ hbusy] at hloading
    cases hloading
  | outcome p _ hp hs =>
    have hasked : asked m.deps p := hdeps ▸ hallows last (List.mem_of_getElem? hget) p hp
    exact ⟨fun hidle => absurd hidle (h.busy_of_asked _ _ hasked),
      fun _ _ => ⟨last, p, hlast, hp, hasked, hs⟩, holder⟩

/-! ## At rest -/

def Idle [DecidableEq δ] (E : Effect δ κ σ π ε) (m : Mounted δ σ π) : Prop :=
  ∀ i, (∀ e, E.step m (.progress i e) = none) ∧ E.step m (.callback i) = none

/-- One live run, and every run with a promise that `P` allows for its dependencies. -/
structure Served (E : Effect δ κ σ π ε) (P : δ → Option π → Prop) (m : Mounted δ σ π) : Prop where
  live : OneLive E m
  runs : ∀ run ∈ m.runs, P run.deps run.promise

section Served

variable {P : δ → Option π → Prop}

theorem Served.mount (hbody : ∀ deps read s, P deps (E.body deps read s).2) (initial : σ)
    (deps : δ) (read : κ) : Served E P (E.mount initial deps read) := by
  refine ⟨.mount E initial deps read, fun run hrun => ?_⟩
  obtain rfl : run = _ := List.mem_singleton.mp hrun
  exact hbody deps read initial

theorem Served.step [DecidableEq δ] {l : EffectLabel δ κ ε}
    (hbody : ∀ deps read s, P deps (E.body deps read s).2)
    (hprogress : ∀ i e run p p', l = .progress i e → m.runs[i]? = some run →
      run.promise = some p → E.progress p e = some p' → P run.deps (some p) →
        P run.deps (some p'))
    (h : Served E P m) (hstep : E.step m l = some m') : Served E P m' :=
  ⟨h.live.step hstep, runs_step hbody hprogress h.runs hstep⟩

theorem Served.shows (h : Served E P m) :
    (∃ read before, m.state = (E.body m.deps read before).1) ∨
      ∃ p, P m.deps (some p) ∧ E.outcome p = some m.state := by
  obtain ⟨i, run, _, hrun, hdeps, hshows⟩ := h.live.current
  have hrun := h.runs run (List.mem_of_getElem? hrun)
  rw [hdeps] at hrun
  cases hshows with
  | body read before _ hs => exact .inl ⟨read, before, hdeps ▸ hs⟩
  | outcome p _ hp hs => exact .inr ⟨p, hp ▸ hrun, hs⟩

theorem Served.of_idle [DecidableEq δ] (h : Served E P m) (hidle : E.Idle m)
    (hopen : ∀ p, P m.deps (some p) → E.outcome p = none → ∃ e, (E.progress p e).isSome = true) :
    (P m.deps none ∧ ∃ read before, m.state = (E.body m.deps read before).1) ∨
      ∃ p, P m.deps (some p) ∧ E.outcome p = some m.state := by
  obtain ⟨i, run, _, hrun, hdeps, hshows⟩ := h.live.current
  have hpromise := h.runs run (List.mem_of_getElem? hrun)
  rw [hdeps] at hpromise
  cases hshows with
  | outcome p _ hp hs => exact .inr ⟨p, hp ▸ hpromise, hs⟩
  | body read before hcalled hs =>
    cases hp : run.promise with
    | none => exact .inl ⟨hp ▸ hpromise, read, before, hdeps ▸ hs⟩
    | some p =>
      obtain ⟨hprogress, hcallback⟩ := hidle i
      cases hout : E.outcome p with
      | none =>
        obtain ⟨e, hsome⟩ := hopen p (hp ▸ hpromise) hout
        have hnone : E.progress p e = none := by simpa [Effect.step, hrun, hp] using hprogress e
        rw [hnone] at hsome
        cases hsome
      | some s => simp [Effect.step, hrun, hp, hout, hcalled] at hcallback

end Served

def runWork (openRequests : π → Nat) (run : EffectRun δ π) : Nat :=
  run.promise.elim 0 openRequests + if run.called then 0 else 1

def totalWork (openRequests : π → Nat) (runs : List (EffectRun δ π)) : Nat :=
  runs.foldr (fun run n => runWork openRequests run + n) 0

def work (openRequests : π → Nat) (m : Mounted δ σ π) : Nat := totalWork openRequests m.runs

variable {openRequests : π → Nat}

theorem totalWork_append (runs runs' : List (EffectRun δ π)) :
    totalWork openRequests (runs ++ runs') =
      totalWork openRequests runs + totalWork openRequests runs' := by
  induction runs with
  | nil => exact (Nat.zero_add _).symm
  | cons run runs ih =>
    change runWork openRequests run + totalWork openRequests (runs ++ runs') =
      runWork openRequests run + totalWork openRequests runs + _
    rw [ih, Nat.add_assoc]

theorem totalWork_set_lt {runs : List (EffectRun δ π)} {i : Nat} {run run' : EffectRun δ π}
    (hrun : runs[i]? = some run) (hlt : runWork openRequests run' < runWork openRequests run) :
    totalWork openRequests (runs.set i run') < totalWork openRequests runs := by
  induction runs generalizing i with
  | nil => cases hrun
  | cons first runs ih =>
    cases i with
    | zero =>
      obtain rfl := Option.some.inj hrun
      exact Nat.add_lt_add_right hlt _
    | succ i => exact Nat.add_lt_add_left (ih hrun) _

theorem totalWork_cancel (runs : List (EffectRun δ π)) (i : Nat) :
    totalWork openRequests (runs.modify i EffectRun.cancel) = totalWork openRequests runs := by
  induction runs generalizing i with
  | nil => simp
  | cons first runs ih =>
    cases i with
    | zero => rfl
    | succ i => exact congrArg (runWork openRequests first + ·) (ih i)

theorem work_progress [DecidableEq δ] {i : Nat} {e : ε}
    (hless : ∀ p e p', E.progress p e = some p' → openRequests p' < openRequests p)
    (h : E.step m (.progress i e) = some m') : work openRequests m' < work openRequests m := by
  obtain ⟨run, p, p', hrun, hp, hp', rfl⟩ := progress_cases h
  refine totalWork_set_lt hrun ?_
  rw [runWork, runWork, hp]
  exact Nat.add_lt_add_right (hless p e p' hp') _

theorem work_callback [DecidableEq δ] {i : Nat} (h : E.step m (.callback i) = some m') :
    work openRequests m' < work openRequests m := by
  obtain ⟨run, p, s, hrun, _, _, hcalled, rfl⟩ := callback_cases h
  refine totalWork_set_lt hrun ?_
  rw [runWork, runWork, hcalled]
  exact Nat.lt_succ_self _

theorem work_rerun (deps : δ) (read : κ) : work openRequests (E.rerun m deps read) =
    work openRequests m + ((E.body deps read m.state).2.elim 0 openRequests + 1) := by
  rw [work, rerun, totalWork_append, totalWork_cancel]
  rfl

end Effect

end OpenWater.Framework
