import Mathlib.Data.List.TakeWhile
import OpenWater.Ingestion.Delivery

/-!
# The supervisor

`_supervise` and `_request_stop` of `ingestion/owp_ingestion/main.py`: sessions of the subscriber
one after the other, with waits in between, until a stop is requested. A step is what happens
between two awaits; the stop request, the broker and the database can come in at each of them.
-/

namespace OpenWater.Ingestion

open Framework

/-- What `_supervise` awaits: the opening of a session, its next message or the write of one, the
end of a wait; or how it has ended. -/
inductive Phase where
  | connecting
  | subscribing
  | receiving
  | waiting
  | returned
  | raised (exc : PyException)
  deriving DecidableEq

def Phase.inSession : Phase → Bool
  | .connecting | .subscribing | .receiving => true
  | .waiting | .returned | .raised _ => false

inductive SupervisorEffect where
  | sessionStarted
  | subscribed
  | handled (message : Message)
  | waited (delay : ℚ)
  | stopRequested

structure Supervisor where
  system : System
  stop : Bool
  delay : ℚ
  phase : Phase
  trace : List SupervisorEffect

inductive SupervisorLabel where
  | world (a : Label)
  | signal
  | connected
  | subscribed
  | failed
  | take
  | attempt (fault : Fault PyException)
  | ended
  | aborted (exc : PyException)
  | timeout
  | wake

def Label.isWorld : Label → Bool
  | .publish _ _ | .send | .drop | .outage | .recovery => true
  | .take | .attempt _ | .crash | .connect | .subscribe => false

namespace Supervisor

def log (s : Supervisor) (x : SupervisorEffect) : Supervisor := { s with trace := s.trace ++ [x] }

def enter (s : Supervisor) : Supervisor :=
  if s.stop then { s with phase := .returned }
  else { s with phase := .connecting }.log .sessionStarted

/-- After `run_subscriber`, whether it returned or raised an `MqttError`. -/
def sessionEnded (s : Supervisor) : Supervisor :=
  if s.stop then { s with phase := .returned }
  else { s with phase := .waiting }.log (.waited s.delay)

/-- The stop can be requested before `_supervise` is called. -/
def start (D : Deployment) (stop : Bool) : Supervisor :=
  enter ⟨.start, stop, D.database.settings.reconnectInitialDelay, .waiting,
    if stop then [.stopRequested] else []⟩

def onSystem (D : Deployment) (s : Supervisor) (a : Label) : Option Supervisor :=
  (Ingestion.step D s.system a).map fun system => { s with system := system }

def requestStop (s : Supervisor) : Supervisor :=
  if s.stop then s else { s with stop := true }.log .stopRequested

/-- aiomqtt hands over what it has received before it reports a lost connection; and a cancellation
can reach every await. -/
def step (D : Deployment) (s : Supervisor) : SupervisorLabel → Option Supervisor
  | .world a => if a.isWorld then s.onSystem D a else none
  | .signal => some s.requestStop
  | .connected =>
    if s.phase = .connecting then
      (s.onSystem D .connect).map fun s => { s with phase := .subscribing }
    else none
  | .subscribed =>
    if s.phase = .subscribing then
      (s.onSystem D .subscribe).map fun s => { s with phase := .receiving }.log .subscribed
    else none
  | .failed =>
    if s.phase = .connecting ∨ s.phase = .subscribing then
      some { s with system := s.system.disconnect D }.sessionEnded
    else none
  | .take =>
    match s.phase, s.system.inbox with
    | .receiving, message :: _ => (s.onSystem D .take).map fun s => s.log (.handled message)
    | _, _ => none
  | .attempt fault => if s.phase = .receiving then s.onSystem D (.attempt fault) else none
  | .ended =>
    if s.phase = .receiving ∧ s.system.connected = false ∧ s.system.handling.isNone = true ∧
        s.system.inbox.isEmpty = true then
      some s.sessionEnded
    else none
  | .aborted exc =>
    if s.phase.inSession = true ∨ s.phase = .waiting then
      (s.onSystem D .crash).map fun s => { s with phase := .raised exc }
    else none
  | .timeout =>
    if s.phase = .waiting then
      some { s with
        delay := min (s.delay * 2) D.database.settings.reconnectMaxDelay }.enter
    else none
  | .wake =>
    if s.phase = .waiting ∧ s.stop = true then some { s with phase := .returned } else none

end Supervisor

/-! ## What is received -/

private theorem inbox_step {D : Deployment} {s s' : System} {a : Label} (h : step D s a = some s')
    (ha : a ≠ .send) : ∀ m ∈ s'.inbox, m ∈ s.inbox := by
  intro m hm
  cases a with
  | send => exact absurd rfl ha
  | take =>
    obtain ⟨_, message, rest, hinbox, ⟨event, _, rfl⟩ | ⟨_, rfl⟩⟩ := stepTake_cases h
    · exact hinbox ▸ List.mem_cons_of_mem _ hm
    · exact hinbox ▸ List.mem_cons_of_mem _ hm
  | attempt fault =>
    obtain ⟨p, _, ⟨loop, _, rfl⟩ | ⟨r, _, _, rfl⟩⟩ := stepAttempt_rounds h
    · exact hm
    · exact hm
  | drop =>
    obtain ⟨_, rfl⟩ := stepDrop_cases h
    exact hm
  | connect =>
    obtain ⟨_, _, rfl⟩ := stepConnect_cases h
    cases hm
  | subscribe =>
    obtain ⟨_, rfl⟩ := stepSubscribe_cases h
    exact hm
  | crash =>
    obtain rfl := Option.some.inj h
    cases hm
  | publish topic payload =>
    obtain rfl := Option.some.inj h
    exact hm
  | outage =>
    obtain rfl := Option.some.inj h
    exact hm
  | recovery =>
    obtain rfl := Option.some.inj h
    exact hm

/-! ## After a stop request -/

def SupervisorEffect.isStop : SupervisorEffect → Bool
  | .stopRequested => true
  | _ => false

def afterStop (trace : List SupervisorEffect) : List SupervisorEffect :=
  trace.dropWhile fun x => !x.isStop

private theorem afterStop_eq_nil {trace : List SupervisorEffect} :
    afterStop trace = [] ↔ ∀ x ∈ trace, x.isStop = false := by
  simp [afterStop, List.dropWhile_eq_nil_iff]

private theorem afterStop_append {trace : List SupervisorEffect} (h : ∃ x ∈ trace, x.isStop = true)
    (new : List SupervisorEffect) : afterStop (trace ++ new) = afterStop trace ++ new := by
  have hne : afterStop trace ≠ [] := by
    obtain ⟨x, hx, hstop⟩ := h
    intro hnil
    simp [afterStop_eq_nil.mp hnil x hx] at hstop
  unfold afterStop at hne ⊢
  rw [List.dropWhile_append, if_neg (by simpa using hne)]

namespace Supervisor

variable {D : Deployment} {s s' : Supervisor} {l : SupervisorLabel}

theorem onSystem_cases {a : Label} (h : s.onSystem D a = some s') :
    ∃ system, Ingestion.step D s.system a = some system ∧ s' = { s with system := system } := by
  obtain ⟨system, hsystem, rfl⟩ := Option.map_eq_some_iff.mp h
  exact ⟨system, hsystem, rfl⟩

/-- Every step, with what lets it happen and where it leads. -/
inductive Moves (D : Deployment) (s : Supervisor) : SupervisorLabel → Supervisor → Prop
  | signal : Moves D s .signal s.requestStop
  | world {a : Label} {system : System} (ha : a.isWorld = true)
      (hsystem : Ingestion.step D s.system a = some system) :
      Moves D s (.world a) { s with system := system }
  | connected {system : System} (hphase : s.phase = .connecting)
      (hsystem : Ingestion.step D s.system .connect = some system) :
      Moves D s .connected { s with system := system, phase := .subscribing }
  | subscribed {system : System} (hphase : s.phase = .subscribing)
      (hsystem : Ingestion.step D s.system .subscribe = some system) :
      Moves D s .subscribed ({ s with system := system, phase := .receiving }.log .subscribed)
  | failed (hphase : s.phase = .connecting ∨ s.phase = .subscribing) :
      Moves D s .failed { s with system := s.system.disconnect D }.sessionEnded
  | take {message : Message} {rest : List Message} {system : System}
      (hphase : s.phase = .receiving) (hinbox : s.system.inbox = message :: rest)
      (hsystem : Ingestion.step D s.system .take = some system) :
      Moves D s .take ({ s with system := system }.log (.handled message))
  | attempt {fault : Fault PyException} {system : System} (hphase : s.phase = .receiving)
      (hsystem : Ingestion.step D s.system (.attempt fault) = some system) :
      Moves D s (.attempt fault) { s with system := system }
  | ended (hphase : s.phase = .receiving) : Moves D s .ended s.sessionEnded
  | aborted {exc : PyException} {system : System}
      (hsystem : Ingestion.step D s.system .crash = some system) :
      Moves D s (.aborted exc) { s with system := system, phase := .raised exc }
  | timeout (hphase : s.phase = .waiting) :
      Moves D s .timeout { s with
        delay := min (s.delay * 2) D.database.settings.reconnectMaxDelay }.enter
  | wake (hstop : s.stop = true) : Moves D s .wake { s with phase := .returned }

theorem step_moves (h : s.step D l = some s') : s.Moves D l s' := by
  cases l with
  | signal =>
    obtain rfl := Option.some.inj h
    exact .signal
  | world a =>
    obtain ⟨ha, h⟩ := Option.ite_none_right_eq_some.mp h
    obtain ⟨system, hsystem, rfl⟩ := onSystem_cases h
    exact .world ha hsystem
  | connected =>
    obtain ⟨hphase, h⟩ := Option.ite_none_right_eq_some.mp h
    obtain ⟨t, ht, rfl⟩ := Option.map_eq_some_iff.mp h
    obtain ⟨system, hsystem, rfl⟩ := onSystem_cases ht
    exact .connected hphase hsystem
  | subscribed =>
    obtain ⟨hphase, h⟩ := Option.ite_none_right_eq_some.mp h
    obtain ⟨t, ht, rfl⟩ := Option.map_eq_some_iff.mp h
    obtain ⟨system, hsystem, rfl⟩ := onSystem_cases ht
    exact .subscribed hphase hsystem
  | failed =>
    obtain ⟨hphase, h⟩ := Option.ite_none_right_eq_some.mp h
    obtain rfl := Option.some.inj h
    exact .failed hphase
  | take =>
    simp only [step] at h
    split at h
    · rename_i message rest hphase hinbox
      obtain ⟨t, ht, rfl⟩ := Option.map_eq_some_iff.mp h
      obtain ⟨system, hsystem, rfl⟩ := onSystem_cases ht
      exact .take hphase hinbox hsystem
    · cases h
  | attempt fault =>
    obtain ⟨hphase, h⟩ := Option.ite_none_right_eq_some.mp h
    obtain ⟨system, hsystem, rfl⟩ := onSystem_cases h
    exact .attempt hphase hsystem
  | ended =>
    obtain ⟨⟨hphase, _⟩, h⟩ := Option.ite_none_right_eq_some.mp h
    obtain rfl := Option.some.inj h
    exact .ended hphase
  | aborted exc =>
    obtain ⟨_, h⟩ := Option.ite_none_right_eq_some.mp h
    obtain ⟨t, ht, rfl⟩ := Option.map_eq_some_iff.mp h
    obtain ⟨system, hsystem, rfl⟩ := onSystem_cases ht
    exact .aborted hsystem
  | timeout =>
    obtain ⟨hphase, h⟩ := Option.ite_none_right_eq_some.mp h
    obtain rfl := Option.some.inj h
    exact .timeout hphase
  | wake =>
    obtain ⟨⟨_, hstop⟩, h⟩ := Option.ite_none_right_eq_some.mp h
    obtain rfl := Option.some.inj h
    exact .wake hstop

/-- A step that adds `new` to the trace, and no stop request. With the stop requested, it starts no
session. -/
structure Adds (s s' : Supervisor) (new : List SupervisorEffect) : Prop where
  stop : s'.stop = s.stop
  trace : s'.trace = s.trace ++ new
  noStop : ∀ x ∈ new, x.isStop = false
  noSession : s.stop = true → .sessionStarted ∉ new

theorem Adds.none (hstop : s'.stop = s.stop) (htrace : s'.trace = s.trace) : Adds s s' [] :=
  ⟨hstop, by rw [htrace, List.append_nil], by simp, by simp⟩

/-- What a step does to the session and its messages, once the stop is requested: it opens no
session, and only `send` brings a message. -/
structure Confines (l : SupervisorLabel) (s s' : Supervisor) (new : List SupervisorEffect) :
    Prop where
  handled : ∀ m, .handled m ∈ new → s.phase.inSession = true ∧ m ∈ s.system.inbox
  session : s.stop = true → s'.phase.inSession = true → s.phase.inSession = true
  inbox : l ≠ .world .send → s.stop = true → s'.phase.inSession = true →
    ∀ m ∈ s'.system.inbox, m ∈ s.system.inbox

theorem Confines.of_outside {new : List SupervisorEffect}
    (hphase : s.stop = true → s'.phase.inSession = false) (hnew : ∀ m, .handled m ∉ new) :
    Confines l s s' new where
  handled m hm := absurd hm (hnew m)
  session hstop hin := by simp [hphase hstop] at hin
  inbox _ hstop hin := by simp [hphase hstop] at hin

private theorem enter_spec {t : Supervisor} (hstop : t.stop = s.stop) (htrace : t.trace = s.trace) :
    ∃ new, Adds s t.enter new ∧ Confines l s t.enter new := by
  unfold enter
  split
  · exact ⟨[], .none hstop htrace, .of_outside (fun _ => rfl) (by simp)⟩
  · rename_i hrunning
    rw [hstop] at hrunning
    refine ⟨[.sessionStarted], ⟨hstop, congrArg (· ++ _) htrace, ?_, fun h => absurd h hrunning⟩,
      .of_outside (fun h => absurd h hrunning) (by simp)⟩
    simp [SupervisorEffect.isStop]

private theorem sessionEnded_spec {t : Supervisor} (hstop : t.stop = s.stop)
    (htrace : t.trace = s.trace) :
    ∃ new, Adds s t.sessionEnded new ∧ Confines l s t.sessionEnded new := by
  unfold sessionEnded
  split
  · exact ⟨[], .none hstop htrace, .of_outside (fun _ => rfl) (by simp)⟩
  · refine ⟨[.waited t.delay], ⟨hstop, congrArg (· ++ _) htrace, ?_, by simp⟩,
      .of_outside (fun _ => rfl) (by simp)⟩
    simp [SupervisorEffect.isStop]

private theorem onSystem_spec {a : Label} (hsystem : Ingestion.step D s.system a = some s'.system)
    (hl : l ≠ .world .send → a ≠ .send) {new : List SupervisorEffect} (hadds : Adds s s' new)
    (hsession : s'.phase.inSession = true → s.phase.inSession = true)
    (hhandled : ∀ m, .handled m ∉ new) : ∃ new, Adds s s' new ∧ Confines l s s' new :=
  ⟨new, hadds, fun m hm => absurd hm (hhandled m), fun _ => hsession,
    fun hsend _ _ => inbox_step hsystem (hl hsend)⟩

theorem step_cases (h : s.step D l = some s') :
    (l = .signal ∧ s' = s.requestStop) ∨ ∃ new, Adds s s' new ∧ Confines l s s' new := by
  cases step_moves h with
  | signal => exact .inl ⟨rfl, rfl⟩
  | world _ hsystem =>
    exact .inr (onSystem_spec hsystem (fun hl ha => hl (ha ▸ rfl)) (.none rfl rfl) id (by simp))
  | connected hphase hsystem =>
    exact .inr (onSystem_spec hsystem (by simp) (.none rfl rfl) (fun _ => by rw [hphase]; rfl)
      (by simp))
  | @subscribed system hphase hsystem =>
    have hadds : Adds s ({ s with system := system, phase := .receiving }.log .subscribed)
        [.subscribed] := ⟨rfl, rfl, by simp [SupervisorEffect.isStop], by simp⟩
    exact .inr (onSystem_spec hsystem (by simp) hadds (fun _ => by rw [hphase]; rfl) (by simp))
  | failed _ => exact .inr (sessionEnded_spec rfl rfl)
  | @take message rest system hphase hinbox hsystem =>
    refine .inr ⟨[.handled message], ⟨rfl, rfl, by simp [SupervisorEffect.isStop], by simp⟩,
      ?_, fun _ _ => by rw [hphase]; rfl, fun _ _ _ => inbox_step hsystem (by simp)⟩
    intro m hm
    rw [List.mem_singleton, SupervisorEffect.handled.injEq] at hm
    rw [hm, hphase, hinbox]
    exact ⟨rfl, List.mem_cons_self⟩
  | attempt _ hsystem =>
    exact .inr (onSystem_spec hsystem (by simp) (.none rfl rfl) id (by simp))
  | ended _ => exact .inr (sessionEnded_spec rfl rfl)
  | aborted hsystem =>
    exact .inr (onSystem_spec hsystem (by simp) (.none rfl rfl) (fun hin => by cases hin) (by simp))
  | timeout _ => exact .inr (enter_spec rfl rfl)
  | wake _ => exact .inr ⟨[], .none rfl rfl, .of_outside (fun _ => rfl) (by simp)⟩

def Recorded (s : Supervisor) : Prop := s.stop = true ↔ ∃ x ∈ s.trace, x.isStop = true

theorem Recorded.running (hs : s.Recorded) (hstop : ¬ s.stop = true) :
    ∀ x ∈ s.trace, x.isStop = false := by
  intro x hx
  by_contra hyes
  exact hstop (hs.mpr ⟨x, hx, by simpa using hyes⟩)

private theorem afterStop_adds {new : List SupervisorEffect} (hs : s.Recorded) (h : Adds s s' new)
    {x : SupervisorEffect} (hx : x ∈ afterStop s'.trace) :
    s.stop = true ∧ (x ∈ afterStop s.trace ∨ x ∈ new) := by
  rw [h.trace] at hx
  by_cases hstop : s.stop = true
  · rw [afterStop_append (hs.mp hstop)] at hx
    exact ⟨hstop, List.mem_append.mp hx⟩
  · have hnone : afterStop (s.trace ++ new) = [] := by
      rw [afterStop_eq_nil]
      intro y hy
      rcases List.mem_append.mp hy with hy | hy
      · exact hs.running hstop y hy
      · exact h.noStop y hy
    rw [hnone] at hx
    cases hx

private theorem afterStop_requestStop (hs : s.Recorded) {x : SupervisorEffect}
    (hx : x ∈ afterStop s.requestStop.trace) : x ∈ afterStop s.trace ∨ x = .stopRequested := by
  unfold requestStop at hx
  split at hx
  · exact .inl hx
  · rename_i hstop
    have htrace := hs.running hstop
    right
    change x ∈ afterStop (s.trace ++ [.stopRequested]) at hx
    rw [afterStop, List.dropWhile_append_of_pos (by simpa using htrace)] at hx
    simpa [SupervisorEffect.isStop] using hx

theorem Recorded.step (hs : s.Recorded) (h : s.step D l = some s') : s'.Recorded := by
  rcases step_cases h with ⟨_, rfl⟩ | ⟨new, hadds, _⟩
  · unfold requestStop
    split
    · exact hs
    · simp [Recorded, log, SupervisorEffect.isStop]
  · unfold Recorded at hs ⊢
    rw [hadds.stop, hadds.trace, hs]
    constructor
    · rintro ⟨x, hx, hstop⟩
      exact ⟨x, List.mem_append_left _ hx, hstop⟩
    · rintro ⟨x, hx, hstop⟩
      rcases List.mem_append.mp hx with hx | hx
      · exact ⟨x, hx, hstop⟩
      · rw [hadds.noStop x hx] at hstop
        cases hstop

private theorem noSession_step (hs : s.Recorded) (hsession : .sessionStarted ∉ afterStop s.trace)
    (h : s.step D l = some s') : .sessionStarted ∉ afterStop s'.trace := by
  intro hstarted
  rcases step_cases h with ⟨_, rfl⟩ | ⟨new, hadds, _⟩
  · rcases afterStop_requestStop hs hstarted with hold | hnew
    · exact hsession hold
    · cases hnew
  · obtain ⟨hstop, hold | hnew⟩ := afterStop_adds hs hadds hstarted
    · exact hsession hold
    · exact hadds.noSession hstop hnew

/-- When the stop is requested, the session has no message that waits, and it receives none
afterwards. -/
def QuietStop (s : Supervisor) : SupervisorLabel → Prop
  | .signal => s.stop = false → s.phase.inSession = true → s.system.inbox = []
  | .world .send => s.stop = true → s.phase.inSession = false
  | _ => True

instance (s : Supervisor) : (l : SupervisorLabel) → Decidable (s.QuietStop l)
  | .signal => inferInstanceAs (Decidable (_ → _ → s.system.inbox = []))
  | .world .send => inferInstanceAs (Decidable (_ → _))
  | .world (.publish ..) | .world .take | .world (.attempt _) | .world .drop | .world .crash
  | .world .connect | .world .subscribe | .world .outage | .world .recovery | .connected
  | .subscribed | .failed | .take | .attempt _ | .ended | .aborted _ | .timeout | .wake =>
    isTrue trivial

/-- After the stop request nothing has been handled, and nothing waits to be. -/
structure Quiet (s : Supervisor) : Prop where
  handled : ∀ m, .handled m ∉ afterStop s.trace
  inbox : s.stop = true → s.phase.inSession = true → s.system.inbox = []

theorem Quiet.step (hquiet : s.Quiet) (hs : s.Recorded) (hok : s.QuietStop l)
    (h : s.step D l = some s') : s'.Quiet := by
  rcases step_cases h with ⟨rfl, rfl⟩ | ⟨new, hadds, hconfines⟩
  · refine ⟨fun m hm => ?_, fun _ hin => ?_⟩
    · rcases afterStop_requestStop hs hm with hold | hnew
      · exact hquiet.handled m hold
      · cases hnew
    · unfold requestStop at hin ⊢
      cases hstop : s.stop with
      | true =>
        rw [hstop] at hin
        exact hquiet.inbox hstop hin
      | false =>
        rw [hstop] at hin
        exact hok hstop hin
  · refine ⟨fun m hm => ?_, fun hstop hin => ?_⟩
    · obtain ⟨hstop, hold | hnew⟩ := afterStop_adds hs hadds hm
      · exact hquiet.handled m hold
      · obtain ⟨hin, hwaits⟩ := hconfines.handled m hnew
        rw [hquiet.inbox hstop hin] at hwaits
        cases hwaits
    · rw [hadds.stop] at hstop
      have hbefore := hconfines.session hstop hin
      have hsend : l ≠ .world .send := by
        rintro rfl
        simp [hok hstop] at hbefore
      have hsub := hconfines.inbox hsend hstop hin
      rw [hquiet.inbox hstop hbefore] at hsub
      exact List.eq_nil_iff_forall_not_mem.mpr fun m hm => by cases hsub m hm

private theorem start_spec (D : Deployment) (stop : Bool) :
    (start D stop).Recorded ∧ (start D stop).Quiet ∧
      .sessionStarted ∉ afterStop (start D stop).trace := by
  cases stop
  · refine ⟨?_, ⟨?_, ?_⟩, ?_⟩ <;>
      simp [start, enter, Recorded, log, SupervisorEffect.isStop, afterStop]
  · refine ⟨?_, ⟨?_, ?_⟩, ?_⟩ <;>
      simp [start, enter, Recorded, SupervisorEffect.isStop, afterStop, Phase.inSession]

end Supervisor

/-- After a stop request no session starts. And no message is handled, if none waits in the session
when the stop is requested and none is received there afterwards. -/
theorem stop_honoured {D : Deployment} {stop : Bool} {labels : List SupervisorLabel}
    {s : Supervisor} (hrun : run (Supervisor.step D) (.start D stop) labels = some s) :
    .sessionStarted ∉ afterStop s.trace ∧
      (Along (Supervisor.step D) Supervisor.QuietStop (.start D stop) labels →
        ∀ m, .handled m ∉ afterStop s.trace) := by
  obtain ⟨hrecorded, hquiet, hsession⟩ := Supervisor.start_spec D stop
  constructor
  · refine (run_preserves (I := fun t : Supervisor => t.Recorded ∧
      .sessionStarted ∉ afterStop t.trace) ?_ ⟨hrecorded, hsession⟩ hrun).2
    exact fun _ _ _ ht h => ⟨ht.1.step h, Supervisor.noSession_step ht.1 ht.2 h⟩
  · intro hok
    refine (run_invariant (I := fun t : Supervisor => t.Recorded ∧ t.Quiet) ?_
      ⟨hrecorded, hquiet⟩ hok hrun).2.handled
    exact fun _ _ _ ht hl h => ⟨ht.1.step h, ht.2.step ht.1 hl h⟩

/-- A message that waits in the session is handled, whether or not the stop is requested. -/
theorem handled_after_stop {D : Deployment} {s : Supervisor} (hs : s.Recorded)
    (hstop : s.stop = true) (hphase : s.phase = .receiving) (hidle : s.system.handling = none)
    {m : Message} {rest : List Message} (hinbox : s.system.inbox = m :: rest) :
    ∃ s', s.step D .take = some s' ∧ .handled m ∈ afterStop s'.trace := by
  obtain ⟨system, hsystem⟩ : ∃ system, step D s.system .take = some system := by
    simp only [step, stepTake, hidle, hinbox]
    cases accepted D.py m <;> exact ⟨_, rfl⟩
  refine ⟨{ s with system := system }.log (.handled m), ?_, ?_⟩
  · simp only [Supervisor.step, hphase, hinbox, Supervisor.onSystem, hsystem, Option.map_some]
  · change _ ∈ afterStop (s.trace ++ [.handled m])
    rw [afterStop_append (hs.mp hstop)]
    exact List.mem_append_right _ List.mem_cons_self

/-- The stop is requested while the session waits for a message. The next one is handled, and its
event is stored. -/
theorem stop_ignored_in_session : ∃ s m, run (Supervisor.step (localDeployment 20 (by decide)))
    (.start (localDeployment 20 (by decide)) false) [.connected, .subscribed, .signal,
      .world publishPh, .world .send, .take, .attempt .none] = some s ∧
    .handled m ∈ afterStop s.trace ∧ s.system.committed.length = 1 :=
  ⟨_, _, rfl, List.mem_cons_of_mem _ (List.mem_singleton.mpr rfl), rfl⟩

/-- The stop is requested while an event is written; the connection drops before another message
comes, and the service ends after the write. -/
theorem stop_honoured_handling : ∃ s, run (Supervisor.step (localDeployment 20 (by decide)))
    (.start (localDeployment 20 (by decide)) false) [.connected, .subscribed, .world publishPh,
      .world .send, .take, .signal, .world .drop, .attempt .none, .ended] = some s ∧
    s.phase = .returned ∧ ∀ m, .handled m ∉ afterStop s.trace := by
  obtain ⟨s, hrun, hphase⟩ : ∃ s, run (Supervisor.step (localDeployment 20 (by decide)))
    (.start (localDeployment 20 (by decide)) false) [.connected, .subscribed, .world publishPh,
      .world .send, .take, .signal, .world .drop, .attempt .none, .ended] = some s ∧
    s.phase = .returned := ⟨_, rfl, rfl⟩
  exact ⟨s, hrun, hphase, (stop_honoured hrun).2 (by decide +kernel)⟩

end OpenWater.Ingestion
