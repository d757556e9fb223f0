import OpenWater.Ingestion.Ledger
import OpenWater.Ingestion.Supervisor

/-!
# The process

`_async_main` of `ingestion/owp_ingestion/main.py`: the pool is opened, `_supervise` runs with it,
and the pool is closed on every way out. The process can be killed at any moment, and be started
again.
-/

namespace OpenWater.Ingestion

open Framework

/-- How the process ends: `create_pool` raises, `_supervise` returns or raises and the pool is
closed, closing the pool raises, or it is killed. -/
inductive Exit where
  | connectFailed (exc : PyException)
  | stopped
  | raised (exc : PyException)
  | closeFailed (exc : PyException)
  | killed
  deriving DecidableEq

inductive Stage where
  | connecting
  | supervising
  | closing
  | exited (exit : Exit)
  deriving DecidableEq

def Stage.isRunning : Stage → Bool
  | .connecting | .supervising | .closing => true
  | .exited _ => false

inductive PoolAction where
  | opened
  | attempted
  | closed
  deriving DecidableEq

/-- The stop event and the devices, broker and database are there before and after the call of
`_supervise`; so they are part of `supervisor` in every stage. -/
structure Process where
  supervisor : Supervisor
  pool : Option Asyncpg
  stage : Stage
  actions : List PoolAction

inductive ProcessLabel where
  | supervisor (l : SupervisorLabel)
  | opened
  | openFailed (exc : PyException)
  | closed
  | closeFailed (exc : PyException)
  | killed
  | started

def Deployment.withPool (D : Deployment) (pool : Option Asyncpg) : Deployment :=
  { D with database := { D.database with pool := pool } }

def SupervisorLabel.actions : SupervisorLabel → List PoolAction
  | .attempt _ => [.attempted]
  | _ => []

namespace Process

def launch (D : Deployment) (system : System) : Process where
  supervisor := ⟨system, false, D.database.settings.reconnectInitialDelay, .waiting, []⟩
  pool := none
  stage := .connecting
  actions := []

def start (D : Deployment) : Process := launch D .start

def settle (p : Process) : Process :=
  match p.supervisor.phase with
  | .returned | .raised _ => { p with stage := .closing }
  | .connecting | .subscribing | .receiving | .waiting => p

def exit (p : Process) : Exit :=
  match p.supervisor.phase with
  | .raised exc => .raised exc
  | _ => .stopped

/-- `pg` is the driver that `create_pool` returns. -/
def step (D : Deployment) (pg : Asyncpg) (p : Process) : ProcessLabel → Option Process
  | .supervisor (.world a) =>
    (p.supervisor.step (D.withPool p.pool) (.world a)).map fun s => { p with supervisor := s }
  | .supervisor .signal =>
    if p.stage.isRunning then
      (p.supervisor.step (D.withPool p.pool) .signal).map fun s => { p with supervisor := s }
    else none
  | .supervisor l =>
    if p.stage = .supervising then
      (p.supervisor.step (D.withPool p.pool) l).map fun s =>
        settle { p with supervisor := s, actions := p.actions ++ l.actions }
    else none
  | .opened =>
    if p.stage = .connecting then
      some (settle { p with
        supervisor := p.supervisor.enter
        pool := some pg
        stage := .supervising
        actions := p.actions ++ [.opened] })
    else none
  | .openFailed exc =>
    if p.stage = .connecting then some { p with stage := .exited (.connectFailed exc) } else none
  | .closed =>
    if p.stage = .closing then
      some { p with
        pool := none, stage := .exited p.exit, actions := p.actions ++ [.closed] }
    else none
  | .closeFailed exc =>
    if p.stage = .closing then some { p with stage := .exited (.closeFailed exc) } else none
  | .killed =>
    if p.stage.isRunning then
      (p.supervisor.onSystem D .crash).map fun s =>
        { p with supervisor := s, pool := none, stage := .exited .killed }
    else none
  | .started => if p.stage.isRunning then none else some (launch D p.supervisor.system)

end Process

/-! ## Steps of the supervisor as steps of the system -/

def SupervisorLabel.sends (D : Deployment) : SupervisorLabel → List ReadingEvent
  | .world a => a.sends D
  | _ => []

def ProcessLabel.sends (D : Deployment) : ProcessLabel → List ReadingEvent
  | .supervisor l => l.sends D
  | _ => []

namespace Supervisor

@[simp] theorem enter_system (s : Supervisor) : s.enter.system = s.system := by
  unfold enter
  split <;> rfl

@[simp] theorem sessionEnded_system (s : Supervisor) : s.sessionEnded.system = s.system := by
  unfold sessionEnded
  split <;> rfl

@[simp] theorem requestStop_system (s : Supervisor) : s.requestStop.system = s.system := by
  unfold requestStop
  split <;> rfl

private theorem disconnect_run {D : Deployment} {s : System} (hinv : Inv D s) :
    ∃ bs, run (Ingestion.step D) s bs = some (s.disconnect D) ∧
      bs.flatMap (Label.sends D) = [] := by
  cases hconnected : s.connected with
  | true =>
    refine ⟨[.drop], ?_, rfl⟩
    simp [run, Ingestion.step, hconnected]
  | false =>
    refine ⟨[], ?_, rfl⟩
    have hsame : s.disconnect D = s := by
      have hnone := hinv.offline hconnected
      rw [System.disconnect, Deployment.clean_eq, if_pos rfl, ← hnone, ← hconnected]
    rw [run, hsame]

theorem step_refines {D : Deployment} {s s' : Supervisor} {l : SupervisorLabel}
    (hinv : Inv D s.system) (h : s.step D l = some s') :
    ∃ bs, run (Ingestion.step D) s.system bs = some s'.system ∧
      bs.flatMap (Label.sends D) = l.sends D := by
  have hsingle : ∀ {a : Label} {system : System},
      Ingestion.step D s.system a = some system → a.sends D = l.sends D →
        ∃ bs, run (Ingestion.step D) s.system bs = some system ∧
          bs.flatMap (Label.sends D) = l.sends D := by
    intro a system hsystem hsends
    exact ⟨[a], run_cons.mpr ⟨system, hsystem, rfl⟩, by simpa using hsends⟩
  cases step_moves h with
  | signal => exact ⟨[], by simp [run], rfl⟩
  | world _ hsystem => exact hsingle hsystem rfl
  | connected _ hsystem => exact hsingle hsystem rfl
  | subscribed _ hsystem => exact hsingle hsystem rfl
  | failed _ =>
    rw [sessionEnded_system]
    exact disconnect_run hinv
  | take _ _ hsystem => exact hsingle hsystem rfl
  | attempt _ hsystem => exact hsingle hsystem rfl
  | ended _ => exact ⟨[], by simp [run], rfl⟩
  | aborted hsystem => exact hsingle hsystem rfl
  | timeout _ => exact ⟨[], by simp [run], rfl⟩
  | wake _ => exact ⟨[], rfl, rfl⟩

private theorem tables_step {D : Deployment} {s s' : Supervisor} {l : SupervisorLabel}
    (hl : ∀ fault, l ≠ .attempt fault) (h : s.step D l = some s') :
    s'.system.db = s.system.db := by
  cases step_moves h with
  | signal => rw [requestStop_system]
  | @world a _ ha hsystem =>
    have htake : a ≠ .take := by
      rintro rfl
      cases ha
    have hattempt : ∀ fault, a ≠ .attempt fault := by
      rintro fault rfl
      cases ha
    exact (step_frame hsystem htake hattempt).1
  | connected _ hsystem => exact (step_frame hsystem (by simp) (by simp)).1
  | subscribed _ hsystem => exact (step_frame hsystem (by simp) (by simp)).1
  | failed _ => rw [sessionEnded_system, System.disconnect]
  | take _ _ hsystem =>
    obtain ⟨_, message, rest, _, ⟨event, _, rfl⟩ | ⟨_, rfl⟩⟩ := stepTake_cases hsystem
    · rfl
    · rfl
  | @attempt fault _ _ _ => exact absurd rfl (hl fault)
  | ended _ => rw [sessionEnded_system]
  | aborted hsystem => exact (step_frame hsystem (by simp) (by simp)).1
  | timeout _ => rw [enter_system]
  | wake _ => rfl

/-- The stop event is set when `_supervise` returns. -/
def ReturnsStopped (s : Supervisor) : Prop := s.phase = .returned → s.stop = true

private theorem enter_returnsStopped (s : Supervisor) : s.enter.ReturnsStopped := by
  unfold enter
  split
  · rename_i hstop
    exact fun _ => hstop
  · intro hreturned
    cases hreturned

private theorem sessionEnded_returnsStopped (s : Supervisor) : s.sessionEnded.ReturnsStopped := by
  unfold sessionEnded
  split
  · rename_i hstop
    exact fun _ => hstop
  · intro hreturned
    cases hreturned

theorem ReturnsStopped.step {D : Deployment} {s s' : Supervisor} {l : SupervisorLabel}
    (hs : s.ReturnsStopped) (h : s.step D l = some s') : s'.ReturnsStopped := by
  cases step_moves h with
  | signal =>
    unfold requestStop
    split
    · exact hs
    · exact fun _ => rfl
  | world _ _ => exact hs
  | connected _ _ => exact fun hreturned => by cases hreturned
  | subscribed _ _ => exact fun hreturned => by cases hreturned
  | failed _ => exact sessionEnded_returnsStopped _
  | take _ _ _ => exact hs
  | attempt _ _ => exact hs
  | ended _ => exact sessionEnded_returnsStopped _
  | aborted _ => exact fun hreturned => by cases hreturned
  | timeout _ => exact enter_returnsStopped _
  | wake hstop => exact fun _ => hstop

end Supervisor

namespace Process

variable {D : Deployment} {pg : Asyncpg} {p p' : Process} {l : ProcessLabel}

/-- Every step, with what lets it happen and where it leads. -/
inductive Moves (D : Deployment) (pg : Asyncpg) (p : Process) : ProcessLabel → Process → Prop
  | outside {l : SupervisorLabel} {s : Supervisor} (hl : l = .signal ∨ ∃ a, l = .world a)
      (hs : p.supervisor.step (D.withPool p.pool) l = some s) :
      Moves D pg p (.supervisor l) { p with supervisor := s }
  | inside {l : SupervisorLabel} {s : Supervisor} (hstage : p.stage = .supervising)
      (hs : p.supervisor.step (D.withPool p.pool) l = some s) :
      Moves D pg p (.supervisor l)
        (settle { p with supervisor := s, actions := p.actions ++ l.actions })
  | opened (hstage : p.stage = .connecting) :
      Moves D pg p .opened (settle { p with
        supervisor := p.supervisor.enter, pool := some pg, stage := .supervising
        actions := p.actions ++ [.opened] })
  | openFailed {exc : PyException} (hstage : p.stage = .connecting) :
      Moves D pg p (.openFailed exc) { p with stage := .exited (.connectFailed exc) }
  | closed (hstage : p.stage = .closing) :
      Moves D pg p .closed { p with
        pool := none, stage := .exited p.exit, actions := p.actions ++ [.closed] }
  | closeFailed {exc : PyException} (hstage : p.stage = .closing) :
      Moves D pg p (.closeFailed exc) { p with stage := .exited (.closeFailed exc) }
  | killed {system : System} (hrunning : p.stage.isRunning = true)
      (hsystem : Ingestion.step D p.supervisor.system .crash = some system) :
      Moves D pg p .killed { p with
        supervisor := { p.supervisor with system := system }, pool := none
        stage := .exited .killed }
  | started (hexited : p.stage.isRunning = false) :
      Moves D pg p .started (launch D p.supervisor.system)

theorem step_moves (h : p.step D pg l = some p') : Moves D pg p l p' := by
  cases l with
  | supervisor l =>
    cases l with
    | world a =>
      obtain ⟨s, hs, rfl⟩ := Option.map_eq_some_iff.mp h
      exact .outside (.inr ⟨a, rfl⟩) hs
    | signal =>
      obtain ⟨_, h⟩ := Option.ite_none_right_eq_some.mp h
      obtain ⟨s, hs, rfl⟩ := Option.map_eq_some_iff.mp h
      exact .outside (.inl rfl) hs
    | _ =>
      obtain ⟨hstage, h⟩ := Option.ite_none_right_eq_some.mp h
      obtain ⟨s, hs, rfl⟩ := Option.map_eq_some_iff.mp h
      exact .inside hstage hs
  | opened =>
    obtain ⟨hstage, h⟩ := Option.ite_none_right_eq_some.mp h
    obtain rfl := Option.some.inj h
    exact .opened hstage
  | openFailed exc =>
    obtain ⟨hstage, h⟩ := Option.ite_none_right_eq_some.mp h
    obtain rfl := Option.some.inj h
    exact .openFailed hstage
  | closed =>
    obtain ⟨hstage, h⟩ := Option.ite_none_right_eq_some.mp h
    obtain rfl := Option.some.inj h
    exact .closed hstage
  | closeFailed exc =>
    obtain ⟨hstage, h⟩ := Option.ite_none_right_eq_some.mp h
    obtain rfl := Option.some.inj h
    exact .closeFailed hstage
  | killed =>
    obtain ⟨hrunning, h⟩ := Option.ite_none_right_eq_some.mp h
    obtain ⟨s, hs, rfl⟩ := Option.map_eq_some_iff.mp h
    obtain ⟨system, hsystem, rfl⟩ := Supervisor.onSystem_cases hs
    exact .killed hrunning hsystem
  | started =>
    obtain ⟨hexited, h⟩ := Option.ite_none_left_eq_some.mp h
    obtain rfl := Option.some.inj h
    exact .started (Bool.not_eq_true _ ▸ hexited)

/-- The pool is opened before the first attempt of a write, and closed after the last one. -/
def Bracketed (pg : Asyncpg) (p : Process) : Prop :=
  match p.stage with
  | .connecting | .exited (.connectFailed _) => p.pool = none ∧ p.actions = []
  | .supervising | .closing | .exited (.closeFailed _) =>
    p.pool = some pg ∧ ∃ n, p.actions = .opened :: List.replicate n .attempted
  | .exited .stopped | .exited (.raised _) =>
    p.pool = none ∧ ∃ n, p.actions = .opened :: List.replicate n .attempted ++ [.closed]
  | .exited .killed => p.actions = [] ∨ ∃ n, p.actions = .opened :: List.replicate n .attempted

private theorem settle_cases (p : Process) : p.settle = p ∨
    (p.settle = { p with stage := .closing } ∧
    (p.supervisor.phase = .returned ∨ ∃ exc, p.supervisor.phase = .raised exc)) := by
  unfold settle
  split
  · rename_i hphase
    exact .inr ⟨rfl, .inl hphase⟩
  · rename_i exc hphase
    exact .inr ⟨rfl, .inr ⟨exc, hphase⟩⟩
  · exact .inl rfl
  · exact .inl rfl
  · exact .inl rfl
  · exact .inl rfl

@[simp] theorem settle_supervisor (p : Process) : p.settle.supervisor = p.supervisor := by
  rcases settle_cases p with hsame | ⟨hclosing, _⟩
  · rw [hsame]
  · rw [hclosing]

structure Valid (D : Deployment) (pg : Asyncpg) (p : Process) : Prop where
  system : Inv (D.withPool (some pg)) p.supervisor.system
  bracketed : p.Bracketed pg
  returns : p.supervisor.ReturnsStopped
  closing : p.stage = .closing →
    p.supervisor.phase = .returned ∨ ∃ exc, p.supervisor.phase = .raised exc
  stopped : p.stage = .exited .stopped → p.supervisor.stop = true

theorem Valid.unopened (h : p.Valid D pg) (hstage : p.stage = .connecting) :
    p.pool = none ∧ p.actions = [] := by
  have hbracketed := h.bracketed
  rwa [Bracketed, hstage] at hbracketed

theorem Valid.pool (h : p.Valid D pg) (hstage : p.stage = .supervising) :
    p.pool = some pg ∧ ∃ n, p.actions = .opened :: List.replicate n .attempted := by
  have hbracketed := h.bracketed
  rwa [Bracketed, hstage] at hbracketed

theorem Valid.unclosed (h : p.Valid D pg) (hstage : p.stage = .closing) :
    p.pool = some pg ∧ ∃ n, p.actions = .opened :: List.replicate n .attempted := by
  have hbracketed := h.bracketed
  rwa [Bracketed, hstage] at hbracketed

theorem Valid.running (h : p.Valid D pg) (hrunning : p.stage.isRunning = true) :
    p.actions = [] ∨ ∃ n, p.actions = .opened :: List.replicate n .attempted := by
  cases hstage : p.stage with
  | connecting => exact .inl (h.unopened hstage).2
  | supervising => exact .inr (h.pool hstage).2
  | closing => exact .inr (h.unclosed hstage).2
  | exited exit =>
    rw [hstage] at hrunning
    cases hrunning

private theorem valid_launch {system : System} (h : Inv (D.withPool (some pg)) system) :
    (launch D system).Valid D pg where
  system := h
  bracketed := ⟨rfl, rfl⟩
  returns hreturned := by cases hreturned
  closing hclosing := by cases hclosing
  stopped hstopped := by cases hstopped

private theorem outside_pool {l : SupervisorLabel} (hl : l = .signal ∨ ∃ a, l = .world a)
    (s : Supervisor) (pool pool' : Option Asyncpg) :
    s.step (D.withPool pool) l = s.step (D.withPool pool') l := by
  rcases hl with rfl | ⟨a, rfl⟩
  · rfl
  · cases a <;> rfl

private theorem outside_step {l : SupervisorLabel} (hl : l = .signal ∨ ∃ a, l = .world a)
    {s s' : Supervisor} (h : s.step D l = some s') :
    s'.phase = s.phase ∧ (s.stop = true → s'.stop = true) := by
  rcases hl with rfl | ⟨a, rfl⟩
  · obtain rfl := Option.some.inj h
    unfold Supervisor.requestStop
    split
    · exact ⟨rfl, id⟩
    · exact ⟨rfl, fun _ => rfl⟩
  · obtain ⟨_, h⟩ := Option.ite_none_right_eq_some.mp h
    obtain ⟨system, _, rfl⟩ := Supervisor.onSystem_cases h
    exact ⟨rfl, id⟩

theorem step_refines (h : p.Valid D pg) (hstep : p.step D pg l = some p') :
    ∃ bs, run (Ingestion.step (D.withPool (some pg))) p.supervisor.system bs =
        some p'.supervisor.system ∧
      bs.flatMap (Label.sends (D.withPool (some pg))) = l.sends (D.withPool (some pg)) := by
  cases step_moves hstep with
  | outside hl hs =>
    rw [outside_pool hl p.supervisor p.pool (some pg)] at hs
    exact Supervisor.step_refines h.system hs
  | inside hstage hs =>
    rw [(h.pool hstage).1] at hs
    rw [settle_supervisor]
    exact Supervisor.step_refines h.system hs
  | opened _ =>
    rw [settle_supervisor, Supervisor.enter_system]
    exact ⟨[], rfl, rfl⟩
  | openFailed _ => exact ⟨[], rfl, rfl⟩
  | closed _ => exact ⟨[], rfl, rfl⟩
  | closeFailed _ => exact ⟨[], rfl, rfl⟩
  | killed _ hsystem => exact ⟨[.crash], run_cons.mpr ⟨_, hsystem, rfl⟩, rfl⟩
  | started _ => exact ⟨[], rfl, rfl⟩

private theorem attempted_actions (l : SupervisorLabel) (n : Nat) :
    ∃ m, PoolAction.opened :: List.replicate n .attempted ++ l.actions =
      .opened :: List.replicate m .attempted := by
  cases l with
  | attempt fault =>
    refine ⟨n + 1, ?_⟩
    rw [List.cons_append, SupervisorLabel.actions, ← List.replicate_succ']
  | _ => exact ⟨n, List.append_nil _⟩

private theorem valid_settle (hsystem : Inv (D.withPool (some pg)) p.supervisor.system)
    (hstage : p.stage = .supervising) (hpool : p.pool = some pg)
    (hactions : ∃ n, p.actions = .opened :: List.replicate n .attempted)
    (hreturns : p.supervisor.ReturnsStopped) : p.settle.Valid D pg := by
  rcases settle_cases p with hsame | ⟨hclosing, hended⟩
  · rw [hsame]
    refine ⟨hsystem, ?_, hreturns, ?_, ?_⟩
    · rw [Bracketed, hstage]
      exact ⟨hpool, hactions⟩
    · simp [hstage]
    · simp [hstage]
  · rw [hclosing]
    exact ⟨hsystem, ⟨hpool, hactions⟩, hreturns, fun _ => hended, by simp⟩

private theorem exit_cases (h : p.Valid D pg) (hstage : p.stage = .closing) :
    (p.exit = .stopped ∧ p.supervisor.stop = true) ∨ ∃ exc, p.exit = .raised exc := by
  rcases h.closing hstage with hreturned | ⟨exc, hraised⟩
  · left
    rw [exit, hreturned]
    exact ⟨rfl, h.returns hreturned⟩
  · right
    rw [exit, hraised]
    exact ⟨exc, rfl⟩

theorem Valid.step (h : p.Valid D pg) (hstep : p.step D pg l = some p') : p'.Valid D pg := by
  have hsystem : Inv (D.withPool (some pg)) p'.supervisor.system := by
    obtain ⟨bs, hrun, _⟩ := step_refines h hstep
    exact run_preserves (fun _ _ _ hinv hone => inv_step hinv hone) h.system hrun
  cases step_moves hstep with
  | outside hl hs =>
    obtain ⟨hphase, hstop⟩ := outside_step hl hs
    refine ⟨hsystem, h.bracketed, h.returns.step hs, ?_, fun hstopped => hstop (h.stopped hstopped)⟩
    change p.stage = .closing → _
    rw [hphase]
    exact h.closing
  | @inside l s hstage hs =>
    obtain ⟨hpool, n, hactions⟩ := h.pool hstage
    obtain ⟨m, hm⟩ := attempted_actions l n
    refine valid_settle ?_ hstage hpool ⟨m, ?_⟩ (h.returns.step hs)
    · rw [settle_supervisor] at hsystem
      exact hsystem
    · rw [hactions, hm]
  | opened hstage =>
    refine valid_settle ?_ rfl rfl ⟨0, ?_⟩ (Supervisor.enter_returnsStopped _)
    · rw [settle_supervisor] at hsystem
      exact hsystem
    · rw [(h.unopened hstage).2]
      rfl
  | openFailed hstage => exact ⟨hsystem, h.unopened hstage, h.returns, nofun, nofun⟩
  | closed hstage =>
    obtain ⟨_, n, hactions⟩ := h.unclosed hstage
    have hall : p.actions ++ [.closed] = .opened :: List.replicate n .attempted ++ [.closed] :=
      congrArg (· ++ [PoolAction.closed]) hactions
    rcases exit_cases h hstage with ⟨hexit, hstop⟩ | ⟨exc, hexit⟩
    · rw [hexit]
      exact ⟨hsystem, ⟨rfl, n, hall⟩, h.returns, nofun, fun _ => hstop⟩
    · rw [hexit]
      exact ⟨hsystem, ⟨rfl, n, hall⟩, h.returns, nofun, nofun⟩
  | closeFailed hstage => exact ⟨hsystem, h.unclosed hstage, h.returns, nofun, nofun⟩
  | killed hrunning _ => exact ⟨hsystem, h.running hrunning, h.returns, nofun, nofun⟩
  | started _ => exact valid_launch hsystem

private theorem supervising_of_writes (hstep : p.step D pg l = some p')
    (hwrites : p'.supervisor.system.db ≠ p.supervisor.system.db) : p.stage = .supervising := by
  by_contra hstage
  apply hwrites
  cases step_moves hstep with
  | outside hl hs =>
    apply Supervisor.tables_step ?_ hs
    rintro fault rfl
    simp at hl
  | inside hinside _ => exact absurd hinside hstage
  | opened _ => rw [settle_supervisor, Supervisor.enter_system]
  | openFailed _ => rfl
  | closed _ => rfl
  | closeFailed _ => rfl
  | killed _ hsystem => exact (step_frame hsystem (by simp) (by simp)).1
  | started _ => rfl

private theorem valid_run {labels : List ProcessLabel} {p : Process}
    (hrun : run (Process.step D pg) (start D) labels = some p) : p.Valid D pg :=
  run_preserves (fun _ _ _ h hstep => h.step hstep) (valid_launch (inv_start _)) hrun

/-- Every run of the process is a run of the system, with the same messages. -/
theorem run_refines_system {labels : List ProcessLabel} {p : Process}
    (hrun : run (Process.step D pg) (start D) labels = some p) :
    ∃ bs, run (Ingestion.step (D.withPool (some pg))) System.start bs =
        some p.supervisor.system ∧
      bs.flatMap (Label.sends (D.withPool (some pg))) =
        labels.flatMap (ProcessLabel.sends (D.withPool (some pg))) := by
  have hsimulates : ∀ (p : Process) (l : ProcessLabel) (p' : Process) (s : System),
      p.Valid D pg ∧ p.supervisor.system = s → p.step D pg l = some p' →
        ∃ bs t, run (Ingestion.step (D.withPool (some pg))) s bs = some t ∧
          bs.flatMap (Label.sends (D.withPool (some pg))) = l.sends (D.withPool (some pg)) ∧
            p'.Valid D pg ∧ p'.supervisor.system = t := by
    rintro p l p' _ ⟨hvalid, rfl⟩ hstep
    obtain ⟨bs, hbs, hsends⟩ := step_refines hvalid hstep
    exact ⟨bs, _, hbs, hsends, hvalid.step hstep, rfl⟩
  obtain ⟨bs, _, hbs, hsends, _, rfl⟩ :=
    run_refines hsimulates ⟨valid_launch (inv_start _), rfl⟩ hrun
  exact ⟨bs, hbs, hsends⟩

end Process

/-- However often the process is stopped, killed and started again, and whatever happens to its
sessions meanwhile: the tables are always what a subsequence of the published events makes of empty
ones, each of them entered once and in the order of publication. -/
theorem process_tables_follow_published {D : Deployment} {pg : Asyncpg}
    {labels : List ProcessLabel} {p : Process}
    (hrun : run (Process.step D pg) (Process.start D) labels = some p) :
    ∃ events, events.Sublist (labels.flatMap (ProcessLabel.sends (D.withPool (some pg)))) ∧
      (D.withPool (some pg)).Tables events p.supervisor.system.db ∧
      ∀ event, event ∈ p.supervisor.system.committed ↔ event ∈ events := by
  obtain ⟨bs, hbs, hsends⟩ := Process.run_refines_system hrun
  obtain ⟨ch, hsteps, hrep⟩ := run_represents True (along_of_forall (fun _ _ _ => trivial) _ _) hbs
  refine ⟨ch.arrived, ?_, hrep.tables, hrep.committed⟩
  rw [← hsends]
  exact (List.sublist_append_left _ _).trans hsteps.content_sublist

/-- The process is killed between a commit and its report, started again, and writes another
event. -/
theorem process_tables_follow_published_killed :
    let labels : List ProcessLabel :=
      [.opened, .supervisor .connected, .supervisor .subscribed, .supervisor (.world publishPh),
        .supervisor (.world .send), .supervisor .take,
        .supervisor (.attempt (.afterCommit .connectionError)), .killed, .started, .opened,
        .supervisor .connected, .supervisor .subscribed, .supervisor (.world publishPh),
        .supervisor (.world .send), .supervisor .take, .supervisor (.attempt .none)]
    ∃ p, run (Process.step (localDeployment 20 (by decide)) .utc)
        (Process.start (localDeployment 20 (by decide))) labels = some p ∧
      p.supervisor.system.committed.length = 2 ∧ ∃ events, events.length ≤ 2 ∧
        ((localDeployment 20 (by decide)).withPool (some .utc)).Tables events
          p.supervisor.system.db := by
  intro labels
  obtain ⟨p, hrun, hcommitted⟩ : ∃ p, run (Process.step (localDeployment 20 (by decide)) .utc)
      (Process.start (localDeployment 20 (by decide))) labels = some p ∧
        p.supervisor.system.committed.length = 2 := ⟨_, rfl, rfl⟩
  obtain ⟨events, hsub, htables, _⟩ := process_tables_follow_published hrun
  exact ⟨p, hrun, hcommitted, events, hsub.length_le, htables⟩

/-- The pool brackets the writes. In each life of the process it is opened before the first attempt
of a write and closed after the last one, once each, on every way out but a kill or a failure to
close it; and only while `_supervise` runs with the open pool do the tables change. The process ends
by itself only when it was asked to, or with an exception. -/
theorem pool_brackets_writes {D : Deployment} {pg : Asyncpg} {labels : List ProcessLabel}
    {p : Process} (hrun : run (Process.step D pg) (Process.start D) labels = some p) :
    p.Bracketed pg ∧ (p.stage = .exited .stopped → p.supervisor.stop = true) ∧
      ∀ l p', p.step D pg l = some p' → p'.supervisor.system.db ≠ p.supervisor.system.db →
        p.stage = .supervising ∧ p.pool = some pg := by
  have hvalid := Process.valid_run hrun
  refine ⟨hvalid.bracketed, hvalid.stopped, ?_⟩
  intro l p' hstep hwrites
  have hstage := Process.supervising_of_writes hstep hwrites
  exact ⟨hstage, (hvalid.pool hstage).1⟩

/-- A stop is requested after a write; the connection drops and the process ends. -/
theorem pool_brackets_writes_stopped :
    let labels : List ProcessLabel :=
      [.opened, .supervisor .connected, .supervisor .subscribed, .supervisor (.world publishPh),
        .supervisor (.world .send), .supervisor .take, .supervisor (.attempt .none),
        .supervisor .signal, .supervisor (.world .drop), .supervisor .ended, .closed]
    ∃ p, run (Process.step (localDeployment 20 (by decide)) .utc)
        (Process.start (localDeployment 20 (by decide))) labels = some p ∧
      p.stage = .exited .stopped ∧ p.pool = none ∧ p.supervisor.stop = true := by
  intro labels
  obtain ⟨p, hrun, hstage⟩ : ∃ p, run (Process.step (localDeployment 20 (by decide)) .utc)
      (Process.start (localDeployment 20 (by decide))) labels = some p ∧
        p.stage = .exited .stopped := ⟨_, rfl, rfl⟩
  obtain ⟨hbracketed, hstopped, _⟩ := pool_brackets_writes hrun
  rw [Process.Bracketed, hstage] at hbracketed
  exact ⟨p, hrun, hstage, hbracketed.1, hstopped hstage⟩

end OpenWater.Ingestion
