import OpenWater.Framework.Backoff
import OpenWater.Ingestion.Supervisor

/-!
# Waits

The waits of `write_event` between its attempts and of `_supervise` between its sessions. Both
start at their initial delay and double it up to their maximum; neither compares the two settings,
and `_supervise` goes on doubling after a session that worked.
-/

namespace OpenWater.Ingestion

open Framework

/-! ## Between attempts -/

def WriteEffect.wait : WriteEffect → Option ℚ
  | .slept delay => some delay
  | .committed _ | .logged _ => none

def sleeps (effects : List WriteEffect) : List ℚ := effects.filterMap WriteEffect.wait

private theorem sleeps_append (effects more : List WriteEffect) :
    sleeps (effects ++ more) = sleeps effects ++ sleeps more :=
  List.filterMap_append

section writeEvent

variable {self : Database} {event : ReadingEvent} {env : Nat → Fault PyException}

private theorem sleeps_committed (committed : Bool) :
    sleeps (if committed then [.committed event] else []) = [] := by
  cases committed <;> rfl

private theorem sleeps_logged (records : List WriteLog) : sleeps (records.map .logged) = [] := by
  induction records with
  | nil => rfl
  | cons record records ih => exact ih

structure SleepInv (database : Database) (loop : WriteLoop) : Prop where
  made : sleeps loop.effects =
    backoffs database.settings.dbWriteInitialDelay database.settings.dbWriteMaxDelay loop.attempt
  next : loop.delay =
    backoff database.settings.dbWriteInitialDelay database.settings.dbWriteMaxDelay loop.attempt

theorem SleepInv.round {loop loop' : WriteLoop} (h : SleepInv self loop)
    (hround : self.writeEventBody event env loop = .inl loop') : SleepInv self loop' := by
  obtain ⟨hattempt, _, hdelay, _, ⟨record, heffects⟩, _⟩ := writeEventBody_round hround
  constructor
  · have hnew : sleeps [.logged record, .slept loop.delay] = [loop.delay] := rfl
    rw [heffects, hattempt, backoffs_succ, ← h.made, ← h.next, sleeps_append, sleeps_append,
      sleeps_committed, hnew, List.append_nil]
  · rw [hdelay, hattempt, backoff, h.next]

theorem SleepInv.leave {loop : WriteLoop} {r : WriteResult} (h : SleepInv self loop)
    (hleave : self.writeEventBody event env loop = .inr r) :
    sleeps r.effects = backoffs self.settings.dbWriteInitialDelay self.settings.dbWriteMaxDelay
      (r.attempts - 1) := by
  obtain ⟨hattempts, _, ⟨records, heffects⟩, _⟩ := writeEventBody_leave hleave
  rw [hattempts, Nat.add_sub_cancel, ← h.made, heffects, sleeps_append, sleeps_append,
    sleeps_committed, sleeps_logged, List.append_nil, List.append_nil]

private theorem writeEvent_sleeps (self : Database) (event : ReadingEvent)
    (env : Nat → Fault PyException) (db : PgState) :
    let r := self.writeEvent event env db
    sleeps r.effects = backoffs self.settings.dbWriteInitialDelay self.settings.dbWriteMaxDelay
      (r.attempts - 1) := by
  apply iterate_invariant (I := SleepInv self) (fun _ _ => SleepInv.round)
    (fun _ _ => SleepInv.leave) ?_ (writeEvent_iterate self event env db)
  exact ⟨rfl, rfl⟩

private theorem writeEvent_waits_iff (self : Database) (event : ReadingEvent)
    (env : Nat → Fault PyException) (db : PgState) :
    (self.writeEvent event env db).attempts - 1 ≠ 0 ↔
      1 < self.settings.dbWriteMaxAttempts ∧ self.Retryable event (env 0) := by
  have h := (writeEvent_spec self event env db).stops
  constructor
  · intro hne
    have hpos := Nat.pos_of_ne_zero hne
    exact ⟨lt_of_le_of_lt hpos h.lt, h.before 0 hpos⟩
  · rintro ⟨hbudget, hretry⟩ hzero
    rw [hzero] at h
    have hlast := h.last hretry
    omega

end writeEvent

/-! ## Between sessions -/

def SupervisorEffect.wait : SupervisorEffect → Option ℚ
  | .waited delay => some delay
  | .sessionStarted | .subscribed | .handled _ | .stopRequested => none

def waits (trace : List SupervisorEffect) : List ℚ := trace.filterMap SupervisorEffect.wait

/-- The number of waits since the last session that had subscribed, or since startup. -/
def waitsSinceSession (trace : List SupervisorEffect) : Nat :=
  trace.foldl (fun n x => match x with
    | .subscribed => 0
    | .waited _ => n + 1
    | .sessionStarted | .handled _ | .stopRequested => n) 0

def SupervisorEffect.isOther : SupervisorEffect → Bool
  | .subscribed | .waited _ => false
  | .sessionStarted | .handled _ | .stopRequested => true

@[simp] theorem waits_concat_waited (trace : List SupervisorEffect) (d : ℚ) :
    waits (trace ++ [.waited d]) = waits trace ++ [d] := by
  simp [waits, SupervisorEffect.wait]

@[simp] theorem waits_concat_subscribed (trace : List SupervisorEffect) :
    waits (trace ++ [.subscribed]) = waits trace := by
  simp [waits, SupervisorEffect.wait]

@[simp] theorem waitsSinceSession_concat_waited (trace : List SupervisorEffect) (d : ℚ) :
    waitsSinceSession (trace ++ [.waited d]) = waitsSinceSession trace + 1 := by
  simp [waitsSinceSession]

@[simp] theorem waitsSinceSession_concat_subscribed (trace : List SupervisorEffect) :
    waitsSinceSession (trace ++ [.subscribed]) = 0 := by
  simp [waitsSinceSession]

/-- Every wait lasts the initial delay, doubled for each wait since the last session that had
subscribed, or the maximum. -/
def Restarts (settings : Settings) (trace : List SupervisorEffect) : Prop :=
  ∀ before d, before ++ [.waited d] <+: trace →
    d = min (settings.reconnectInitialDelay * 2 ^ waitsSinceSession before)
      settings.reconnectMaxDelay

private theorem restarts_concat {settings : Settings} {trace : List SupervisorEffect}
    {x : SupervisorEffect} : Restarts settings (trace ++ [x]) ↔ Restarts settings trace ∧
      ∀ d, x = .waited d → d = min (settings.reconnectInitialDelay * 2 ^ waitsSinceSession trace)
        settings.reconnectMaxDelay := by
  unfold Restarts
  constructor
  · intro h
    constructor
    · intro before d hbefore
      exact h before d (List.prefix_concat_iff.mpr (.inr hbefore))
    · rintro d rfl
      exact h trace d List.prefix_rfl
  · rintro ⟨hold, hnew⟩ before d hbefore
    rcases List.prefix_concat_iff.mp hbefore with heq | hbefore
    · obtain ⟨rfl, hx⟩ := List.append_inj' heq rfl
      exact hnew d (List.singleton_inj.mp hx).symm
    · exact hold before d hbefore

structure SameWaits (trace trace' : List SupervisorEffect) : Prop where
  waits : waits trace' = waits trace
  since : waitsSinceSession trace' = waitsSinceSession trace
  subscribed : .subscribed ∈ trace' ↔ .subscribed ∈ trace
  restarts : ∀ settings, Restarts settings trace' ↔ Restarts settings trace

theorem SameWaits.refl (trace : List SupervisorEffect) : SameWaits trace trace :=
  ⟨rfl, rfl, Iff.rfl, fun _ => Iff.rfl⟩

theorem SameWaits.concat (trace : List SupervisorEffect) {x : SupervisorEffect}
    (hx : x.isOther = true) : SameWaits trace (trace ++ [x]) := by
  cases x with
  | subscribed => cases hx
  | waited d => cases hx
  | sessionStarted | handled m | stopRequested =>
    constructor
    · simp [Ingestion.waits, SupervisorEffect.wait]
    · simp [waitsSinceSession]
    · simp
    · simp [restarts_concat]

namespace Supervisor

variable {D : Deployment} {s s' : Supervisor} {l : SupervisorLabel}

structure Waits (s s' : Supervisor) : Prop where
  phase : s'.phase = .waiting
  delay : s'.delay = s.delay
  trace : s'.trace = s.trace ++ [.waited s.delay]

inductive Pace (D : Deployment) (s s' : Supervisor) : SupervisorLabel → Prop
  | failed (hphase : s.phase = .connecting ∨ s.phase = .subscribing) (hstop : s.stop = false)
      (hwaits : s.Waits s') : Pace D s s' .failed
  | ended (hphase : s.phase = .receiving) (hstop : s.stop = false) (hwaits : s.Waits s') :
      Pace D s s' .ended
  | timeout (hphase : s.phase = .waiting) (hphase' : s'.phase = .connecting)
      (hdelay : s'.delay = min (s.delay * 2) D.database.settings.reconnectMaxDelay)
      (htrace : SameWaits s.trace s'.trace) : Pace D s s' .timeout
  | subscribed (hphase : s.phase = .subscribing) (hphase' : s'.phase = .receiving)
      (hdelay : s'.delay = s.delay) (htrace : s'.trace = s.trace ++ [.subscribed]) :
      Pace D s s' .subscribed
  | stays {l : SupervisorLabel}
      (hphase : s'.phase = s.phase ∨ s.phase = .connecting ∧ s'.phase = .subscribing)
      (hdelay : s'.delay = s.delay) (htrace : SameWaits s.trace s'.trace)
      (hl : l ≠ .failed ∧ l ≠ .ended) : Pace D s s' l
  | halted {l : SupervisorLabel} (hphase' : s'.phase = .returned ∨ ∃ exc, s'.phase = .raised exc)
      (htrace : SameWaits s.trace s'.trace) (hl : l = .failed ∨ l = .ended → s.stop = true) :
      Pace D s s' l

private theorem sessionEnded_pace (s : Supervisor) :
    (s.stop = true ∧ s.sessionEnded.phase = .returned ∧ s.sessionEnded.trace = s.trace) ∨
      (s.stop = false ∧ s.Waits s.sessionEnded) := by
  unfold sessionEnded
  cases hstop : s.stop with
  | true => exact .inl ⟨rfl, rfl, rfl⟩
  | false => exact .inr ⟨rfl, rfl, rfl, rfl⟩

private theorem step_pace (h : s.step D l = some s') : Pace D s s' l := by
  cases step_moves h with
  | signal =>
    unfold requestStop
    split
    · exact .stays (.inl rfl) rfl (.refl _) (by simp)
    · exact .stays (.inl rfl) rfl (.concat _ rfl) (by simp)
  | world _ _ => exact .stays (.inl rfl) rfl (.refl _) (by simp)
  | connected hphase _ => exact .stays (.inr ⟨hphase, rfl⟩) rfl (.refl _) (by simp)
  | subscribed hphase _ => exact .subscribed hphase rfl rfl rfl
  | failed hphase =>
    rcases sessionEnded_pace { s with system := s.system.disconnect D } with
      ⟨hstop, hover, htrace⟩ | ⟨hstop, hwaits⟩
    · have hsame := SameWaits.refl s.trace
      exact .halted (.inl hover) (by rwa [htrace]) fun _ => hstop
    · exact .failed hphase hstop ⟨hwaits.phase, hwaits.delay, hwaits.trace⟩
  | take _ _ _ => exact .stays (.inl rfl) rfl (.concat _ rfl) (by simp)
  | attempt _ _ => exact .stays (.inl rfl) rfl (.refl _) (by simp)
  | ended hphase =>
    rcases sessionEnded_pace s with ⟨hstop, hover, htrace⟩ | ⟨hstop, hwaits⟩
    · have hsame := SameWaits.refl s.trace
      exact .halted (.inl hover) (by rwa [htrace]) fun _ => hstop
    · exact .ended hphase hstop hwaits
  | aborted _ => exact .halted (.inr ⟨_, rfl⟩) (.refl _) (by simp)
  | timeout hphase =>
    unfold enter
    split
    · exact .halted (.inl rfl) (.refl _) (by simp)
    · exact .timeout hphase rfl rfl (.concat _ rfl)
  | wake _ => exact .halted (.inl rfl) (.refl _) (by simp)

/-- The waits made so far, and the next one. While a session receives, it has seen no wait. -/
structure Schedule (D : Deployment) (s : Supervisor) : Prop where
  made : waits s.trace = backoffs D.database.settings.reconnectInitialDelay
    D.database.settings.reconnectMaxDelay (waits s.trace).length
  next : s.phase.inSession = true → s.delay = backoff D.database.settings.reconnectInitialDelay
    D.database.settings.reconnectMaxDelay (waits s.trace).length
  waiting : s.phase = .waiting → ∃ k, (waits s.trace).length = k + 1 ∧
    s.delay = backoff D.database.settings.reconnectInitialDelay
      D.database.settings.reconnectMaxDelay k
  receiving : s.phase = .receiving →
    .subscribed ∈ s.trace ∧ waitsSinceSession s.trace = 0

private theorem start_schedule (D : Deployment) (stop : Bool) : Schedule D (start D stop) := by
  cases stop with
  | true =>
    exact ⟨rfl, by simp [start, enter, Phase.inSession], by simp [start, enter],
      by simp [start, enter]⟩
  | false =>
    exact ⟨rfl, fun _ => rfl, by simp [start, enter, log], by simp [start, enter, log]⟩

private theorem Schedule.waits (h : Schedule D s) (hin : s.phase.inSession = true)
    (hwaits : s.Waits s') : Schedule D s' := by
  have htrace := hwaits.trace
  constructor
  · rw [htrace, waits_concat_waited, List.length_append, List.length_singleton, backoffs_succ,
      ← h.made, ← h.next hin]
  · rw [hwaits.phase]
    simp [Phase.inSession]
  · intro _
    refine ⟨(Ingestion.waits s.trace).length, ?_, hwaits.delay.trans (h.next hin)⟩
    rw [htrace, waits_concat_waited, List.length_append, List.length_singleton]
  · rw [hwaits.phase]
    simp

theorem Schedule.step (h : Schedule D s) (hstep : s.step D l = some s') : Schedule D s' := by
  cases step_pace hstep with
  | failed hphase _ hwaits =>
    apply h.waits ?_ hwaits
    rcases hphase with hphase | hphase <;> rw [hphase] <;> rfl
  | ended hphase _ hwaits => exact h.waits (by rw [hphase]; rfl) hwaits
  | timeout hphase hphase' hdelay htrace =>
    obtain ⟨k, hk, hnext⟩ := h.waiting hphase
    refine ⟨by rw [htrace.waits]; exact h.made, fun _ => ?_, by simp [hphase'], by simp [hphase']⟩
    rw [htrace.waits, hk, hdelay, hnext, backoff]
  | subscribed hphase hphase' hdelay htrace =>
    have hin : s.phase.inSession = true := by
      rw [hphase]
      rfl
    constructor
    · rw [htrace, waits_concat_subscribed]
      exact h.made
    · rw [htrace, waits_concat_subscribed, hdelay]
      exact fun _ => h.next hin
    · simp [hphase']
    · simp [htrace]
  | stays hphase hdelay htrace _ =>
    constructor
    · rw [htrace.waits]
      exact h.made
    · rw [htrace.waits, hdelay]
      rcases hphase with hphase | ⟨hphase, _⟩
      · rw [hphase]
        exact h.next
      · exact fun _ => h.next (by rw [hphase]; rfl)
    · rw [htrace.waits, hdelay]
      rcases hphase with hphase | ⟨_, hphase⟩
      · rw [hphase]
        exact h.waiting
      · simp [hphase]
    · rw [htrace.since, htrace.subscribed]
      rcases hphase with hphase | ⟨_, hphase⟩
      · rw [hphase]
        exact h.receiving
      · simp [hphase]
  | halted hphase' htrace _ =>
    refine ⟨by rw [htrace.waits]; exact h.made, ?_, ?_, ?_⟩
    all_goals
      rcases hphase' with hphase' | ⟨exc, hphase'⟩ <;> simp [hphase', Phase.inSession]

/-- While no session has subscribed, the waits are as they are to be. -/
def FailuresPaced (D : Deployment) (s : Supervisor) : Prop :=
  .subscribed ∉ s.trace → Paced D.database.settings.reconnectInitialDelay
    D.database.settings.reconnectMaxDelay (waits s.trace)

theorem Schedule.paced_iff (h : Schedule D s) :
    Paced D.database.settings.reconnectInitialDelay D.database.settings.reconnectMaxDelay
      (Ingestion.waits s.trace) ↔ Ingestion.waits s.trace = [] ∨
        D.database.settings.reconnectInitialDelay ≤ D.database.settings.reconnectMaxDelay := by
  rw [h.made, paced_backoffs_iff D.database.settings.reconnectInitialDelay_pos.le, ← h.made,
    List.length_eq_zero_iff]

private theorem failuresPaced_step (hs : Schedule D s) (hp : FailuresPaced D s)
    (h : s.step D l = some s') :
    FailuresPaced D s' ↔ (l = .failed → s.stop = false → .subscribed ∉ s.trace →
      D.database.settings.reconnectInitialDelay ≤ D.database.settings.reconnectMaxDelay) := by
  have hs' := hs.step h
  unfold FailuresPaced at hp ⊢
  cases step_pace h with
  | failed _ hstop hwaits =>
    rw [hs'.paced_iff, hwaits.trace]
    simp [hstop]
  | ended hphase _ hwaits =>
    have hsubscribed := (hs.receiving hphase).1
    simp [hwaits.trace, hsubscribed]
  | timeout _ _ _ htrace =>
    rw [htrace.waits, htrace.subscribed]
    simpa using hp
  | subscribed _ _ _ htrace => simp [htrace]
  | stays _ _ htrace hl =>
    rw [htrace.waits, htrace.subscribed]
    simpa [hl.1] using hp
  | halted _ htrace hl =>
    rw [htrace.waits, htrace.subscribed]
    refine iff_of_true hp ?_
    rintro rfl hstop
    simp [hl (.inl rfl)] at hstop

end Supervisor

/-- The waits of a call of `write_event`, and those of `_supervise` while every connection attempt
has failed, are the doubled initial delay up to the maximum, exactly when the initial delay is not
above the maximum or there is no wait to make. -/
theorem backoff_within_maximum (D : Deployment) :
    (∀ event env db, Paced D.database.settings.dbWriteInitialDelay
      D.database.settings.dbWriteMaxDelay (sleeps (D.database.writeEvent event env db).effects) ↔
        D.database.settings.dbWriteInitialDelay ≤ D.database.settings.dbWriteMaxDelay ∨
          ¬ (1 < D.database.settings.dbWriteMaxAttempts ∧ D.database.Retryable event (env 0))) ∧
    ∀ stop labels s, run (Supervisor.step D) (.start D stop) labels = some s →
      ((∀ before u, before <+: labels → run (Supervisor.step D) (.start D stop) before = some u →
          u.FailuresPaced D) ↔
        Along (Supervisor.step D) (fun s l => l = .failed → s.stop = false →
          .subscribed ∉ s.trace → D.database.settings.reconnectInitialDelay ≤
            D.database.settings.reconnectMaxDelay) (.start D stop) labels) := by
  constructor
  · intro event env db
    rw [writeEvent_sleeps, paced_backoffs_iff D.database.settings.dbWriteInitialDelay_pos.le,
      ← writeEvent_waits_iff D.database event env db, not_not, or_comm]
  · intro stop labels s hrun
    have hnone : (Supervisor.start D stop).FailuresPaced D := by
      intro _
      rw [(Supervisor.start_schedule D stop).paced_iff]
      cases stop <;> exact .inl rfl
    exact along_iff (I := Supervisor.Schedule D) (P := Supervisor.FailuresPaced D)
      (fun _ _ _ hs h => hs.step h) (fun _ _ _ hs hp h => Supervisor.failuresPaced_step hs hp h)
      (Supervisor.start_schedule D stop) hnone hrun

theorem backoff_within_maximum_local : ∃ s,
    run (Supervisor.step (localDeployment 20 (by decide)))
      (.start (localDeployment 20 (by decide)) false) [.failed, .timeout, .failed] = some s ∧
    ((∀ before u, before <+: [.failed, .timeout, .failed] →
        run (Supervisor.step (localDeployment 20 (by decide)))
          (.start (localDeployment 20 (by decide)) false) before = some u →
            u.FailuresPaced (localDeployment 20 (by decide))) ↔
      Along (Supervisor.step (localDeployment 20 (by decide))) (fun s l => l = .failed →
        s.stop = false → .subscribed ∉ s.trace → (1 : ℚ) ≤ 30)
          (.start (localDeployment 20 (by decide)) false) [.failed, .timeout, .failed]) :=
  ⟨_, rfl, (backoff_within_maximum (localDeployment 20 (by decide))).2 false _ _ rfl⟩

def longInitialDelays : Deployment where
  py := .ofDocument phPayload (phDocument "a" ["7"])
  database :=
    { settings :=
        { Settings.default "127.0.0.1" with
          reconnectInitialDelay := 60
          dbWriteInitialDelay := 60
          reconnectInitialDelay_pos := by decide
          dbWriteInitialDelay_pos := by decide }
      pool := some .utc }
  window := 20
  window_pos := Nat.le_add_left 1 19

/-- The first wait is a minute, the next one half of that. -/
theorem waits_above_maximum :
    sleeps (longInitialDelays.database.writeEvent (temperatureAt 0 20)
      (fun k => if k < 2 then .before 0 .connectionError else .none) PgState.empty).effects =
        [60, 30] ∧
    ¬ Paced (60 : ℚ) 30 (sleeps (longInitialDelays.database.writeEvent (temperatureAt 0 20)
      (fun k => if k < 2 then .before 0 .connectionError else .none) PgState.empty).effects) ∧
    ∃ s, run (Supervisor.step longInitialDelays) (.start longInitialDelays false) [.failed] =
      some s ∧ ¬ s.FailuresPaced longInitialDelays := by
  have hsleeps : sleeps (longInitialDelays.database.writeEvent (temperatureAt 0 20)
      (fun k => if k < 2 then .before 0 .connectionError else .none) PgState.empty).effects =
        [60, 30] := by decide +kernel
  refine ⟨hsleeps, ?_, _, rfl, ?_⟩
  · rw [hsleeps]
    intro h
    have hfirst := h.le_cap 60 (by simp)
    revert hfirst
    decide
  · intro h
    have hfailed : .subscribed ∉ [SupervisorEffect.sessionStarted, .waited 60] := by simp
    have hfirst := (h hfailed).le_cap 60 (List.mem_singleton.mpr rfl)
    revert hfirst
    decide

/-! ## After a session that worked -/

namespace Supervisor

variable {D : Deployment} {s s' : Supervisor} {l : SupervisorLabel}

/-- Between sessions that receive, all waits of a run that has kept to its schedule fall after the
last of them, unless there is nothing to double. -/
def Aligned (D : Deployment) (s : Supervisor) : Prop :=
  Restarts D.database.settings s.trace →
    s.phase = .connecting ∨ s.phase = .subscribing ∨ s.phase = .waiting →
      D.database.settings.reconnectInitialDelay = D.database.settings.reconnectMaxDelay ∨
        waitsSinceSession s.trace = (waits s.trace).length

private theorem restarts_ended (hle : D.database.settings.reconnectInitialDelay ≤
    D.database.settings.reconnectMaxDelay) (hs : Schedule D s) (hphase : s.phase = .receiving)
    (hwaits : s.Waits s') : Restarts D.database.settings s'.trace ↔
      Restarts D.database.settings s.trace ∧
        (D.database.settings.reconnectInitialDelay = D.database.settings.reconnectMaxDelay ∨
          waits s.trace = []) := by
  have hpos := D.database.settings.reconnectInitialDelay_pos
  have hdelay := hs.next (by rw [hphase]; rfl)
  rw [backoff_eq hpos.le hle] at hdelay
  rw [hwaits.trace, restarts_concat, (hs.receiving hphase).2, pow_zero, mul_one, min_eq_left hle]
  simp only [SupervisorEffect.waited.injEq, forall_eq']
  rw [hdelay, min_mul_two_pow_eq_iff hpos hle, List.length_eq_zero_iff]

private theorem restarts_failed (hle : D.database.settings.reconnectInitialDelay ≤
    D.database.settings.reconnectMaxDelay) (hs : Schedule D s) (haligned : Aligned D s)
    (hphase : s.phase = .connecting ∨ s.phase = .subscribing) (hwaits : s.Waits s') :
    Restarts D.database.settings s'.trace ↔ Restarts D.database.settings s.trace := by
  have hpos := D.database.settings.reconnectInitialDelay_pos
  rw [hwaits.trace, restarts_concat, and_iff_left_iff_imp]
  intro hrestarts d hd
  obtain rfl := SupervisorEffect.waited.inj hd
  have hin : s.phase.inSession = true := by
    rcases hphase with hphase | hphase <;> rw [hphase] <;> rfl
  rw [hs.next hin, backoff_eq hpos.le hle]
  rcases haligned hrestarts (hphase.imp id .inl) with hcap | hsince
  · have hgrows : ∀ k, D.database.settings.reconnectInitialDelay ≤
        D.database.settings.reconnectInitialDelay * 2 ^ k := fun k =>
      le_mul_of_one_le_right hpos.le (one_le_pow₀ one_le_two)
    rw [← hcap, min_eq_right (hgrows _), min_eq_right (hgrows _)]
  · rw [hsince]

private theorem restarts_step (hle : D.database.settings.reconnectInitialDelay ≤
    D.database.settings.reconnectMaxDelay) (hs : Schedule D s) (haligned : Aligned D s)
    (hp : Restarts D.database.settings s.trace) (h : s.step D l = some s') :
    Restarts D.database.settings s'.trace ↔ (l = .ended → s.stop = false →
      D.database.settings.reconnectInitialDelay = D.database.settings.reconnectMaxDelay ∨
        waits s.trace = []) := by
  cases step_pace h with
  | failed hphase _ hwaits =>
    rw [restarts_failed hle hs haligned hphase hwaits]
    simp [hp]
  | ended hphase hstop hwaits =>
    rw [restarts_ended hle hs hphase hwaits]
    simp [hp, hstop]
  | timeout _ _ _ htrace =>
    rw [htrace.restarts]
    simp [hp]
  | subscribed _ _ _ htrace =>
    rw [htrace, restarts_concat]
    simp [hp]
  | stays _ _ htrace hl =>
    rw [htrace.restarts]
    simp [hp, hl.2]
  | halted _ htrace hl =>
    rw [htrace.restarts]
    refine iff_of_true hp ?_
    rintro rfl hstop
    simp [hl (.inr rfl)] at hstop

theorem Aligned.step (hle : D.database.settings.reconnectInitialDelay ≤
    D.database.settings.reconnectMaxDelay) (hs : Schedule D s) (haligned : Aligned D s)
    (h : s.step D l = some s') : Aligned D s' := by
  intro hp hphase'
  cases step_pace h with
  | failed hphase _ hwaits =>
    rw [restarts_failed hle hs haligned hphase hwaits] at hp
    have hbefore := haligned hp (hphase.imp id .inl)
    simpa [hwaits.trace] using hbefore
  | ended hphase _ hwaits =>
    rw [restarts_ended hle hs hphase hwaits] at hp
    refine hp.2.imp id fun hnone => ?_
    simp [hwaits.trace, hnone, (hs.receiving hphase).2]
  | timeout hphase _ _ htrace =>
    rw [htrace.restarts] at hp
    rw [htrace.since, htrace.waits]
    exact haligned hp (.inr (.inr hphase))
  | subscribed _ hphase _ _ => simp [hphase] at hphase'
  | stays hphase _ htrace _ =>
    rw [htrace.restarts] at hp
    rw [htrace.since, htrace.waits]
    rcases hphase with hphase | ⟨hphase, _⟩
    · exact haligned hp (hphase ▸ hphase')
    · exact haligned hp (.inl hphase)
  | halted hphase _ _ =>
    rcases hphase with hphase | ⟨exc, hphase⟩ <;> simp [hphase] at hphase'

end Supervisor

/-- A run has every wait start again from the initial delay after a session that had subscribed
exactly when each such session that ends with the service still running ends before the first
wait, or the initial delay is the maximum. -/
theorem reconnect_backoff_restarts {D : Deployment} {stop : Bool} {labels : List SupervisorLabel}
    {s : Supervisor} (hle : D.database.settings.reconnectInitialDelay ≤
      D.database.settings.reconnectMaxDelay)
    (hrun : run (Supervisor.step D) (.start D stop) labels = some s) :
    (∀ before u, before <+: labels → run (Supervisor.step D) (.start D stop) before = some u →
        Restarts D.database.settings u.trace) ↔
      Along (Supervisor.step D) (fun s l => l = .ended → s.stop = false →
        D.database.settings.reconnectInitialDelay = D.database.settings.reconnectMaxDelay ∨
          waits s.trace = []) (.start D stop) labels := by
  have hnone : ∀ x ∈ (Supervisor.start D stop).trace, x.isOther = true := by
    cases stop <;> simp [Supervisor.start, Supervisor.enter, Supervisor.log,
      SupervisorEffect.isOther]
  have hrestarts : Restarts D.database.settings (Supervisor.start D stop).trace := by
    intro before d hbefore
    have hwaited := hnone _ (hbefore.subset (List.mem_append_right _ (List.mem_singleton_self _)))
    cases hwaited
  have haligned : (Supervisor.start D stop).Aligned D := by
    intro _ _
    cases stop <;> exact .inr rfl
  exact along_iff (I := fun s => s.Schedule D ∧ s.Aligned D)
    (P := fun s => Restarts D.database.settings s.trace)
    (fun _ _ _ hs h => ⟨hs.1.step h, hs.2.step hle hs.1 h⟩)
    (fun _ _ _ hs hp h => Supervisor.restarts_step hle hs.1 hs.2 hp h)
    ⟨Supervisor.start_schedule D stop, haligned⟩ hrestarts hrun

/-- The first session that works drops before any wait; then the broker is away for two attempts. -/
theorem reconnect_backoff_restarts_first : ∃ s,
    run (Supervisor.step (localDeployment 20 (by decide)))
      (.start (localDeployment 20 (by decide)) false)
      [.connected, .subscribed, .world .drop, .ended, .timeout, .failed] = some s ∧
    ((∀ before u, before <+: [.connected, .subscribed, .world .drop, .ended, .timeout, .failed] →
        run (Supervisor.step (localDeployment 20 (by decide)))
          (.start (localDeployment 20 (by decide)) false) before = some u →
            Restarts (localDeployment 20 (by decide)).database.settings u.trace) ↔
      Along (Supervisor.step (localDeployment 20 (by decide))) (fun s l => l = .ended →
        s.stop = false → (1 : ℚ) = 30 ∨ waits s.trace = [])
          (.start (localDeployment 20 (by decide)) false)
          [.connected, .subscribed, .world .drop, .ended, .timeout, .failed]) :=
  ⟨_, rfl, reconnect_backoff_restarts (by decide) rfl⟩

/-- One attempt fails, the next session works; the wait after it is the second one of the run. -/
theorem reconnect_backoff_goes_on : ∃ s,
    run (Supervisor.step (localDeployment 20 (by decide)))
      (.start (localDeployment 20 (by decide)) false)
      [.failed, .timeout, .connected, .subscribed, .world .drop, .ended] = some s ∧
    s.trace = [.sessionStarted, .waited 1, .sessionStarted, .subscribed,
      .waited (min (1 * 2) 30)] ∧
    ¬ Restarts (localDeployment 20 (by decide)).database.settings s.trace := by
  refine ⟨_, rfl, rfl, ?_⟩
  intro h
  have hlast : min (1 * 2) 30 = min ((1 : ℚ) * 2 ^ 0) 30 :=
    h [.sessionStarted, .waited 1, .sessionStarted, .subscribed] (min (1 * 2) 30) List.prefix_rfl
  have hdoubled : min (1 * 2) 30 ≠ min ((1 : ℚ) * 2 ^ 0) 30 := by decide +kernel
  exact hdoubled hlast

end OpenWater.Ingestion
