import OpenWater.Framework.Loop
import OpenWater.Ingestion.Config
import OpenWater.Ingestion.Write

/-!
# Writing an event

`Database._write_once` and the retry loop of `Database.write_event` in
`ingestion/owp_ingestion/db.py`. The environment decides what happens to each attempt; the loop
leaves a trace of its commits, waits and log lines.
-/

namespace OpenWater.Ingestion

open Framework

/-- Members of `_RETRYABLE_EXCEPTIONS`. -/
def PyException.isRetryable : PyException → Bool
  | .postgresConnectionError | .interfaceError | .connectionError | .osError | .timeoutError => true
  | .sql _ | .runtimeError _ | .other _ | .cancelledError => false

/-- Subclasses of `Exception`; `asyncio.CancelledError` is not one. -/
def PyException.isException : PyException → Bool
  | .cancelledError => false
  | _ => true

inductive WriteLog where
  | givingUp (attempts : Nat) (deviceId : String) (timestamp : Datetime) (error : PyException)
  | attemptFailed (attempt maxAttempts : Nat) (deviceId : String) (error : PyException)
      (retryIn : ℚ)
  | succeeded (attempt : Nat) (deviceId : String)

/-- What a call of `write_event` does that can be seen from outside, in order. -/
inductive WriteEffect where
  | committed (event : ReadingEvent)
  | slept (delay : ℚ)
  | logged (record : WriteLog)

/-- `Database`: its settings, and the driver once `connect` has opened the pool. -/
structure Database where
  settings : Settings
  pool : Option Asyncpg

def Database.localStack : Database := ⟨Settings.default "127.0.0.1", some .utc⟩

def Database.writeOnce (self : Database) (event : ReadingEvent) (fault : Fault PyException)
    (db : PgState) : Attempt PyException PgState :=
  match self.pool with
  | none =>
    ⟨.error (.runtimeError "Database.connect() must be called before write_event"), db, false⟩
  | some pg => transact (writeOnceScript pg event) fault db

structure WriteLoop where
  attempt : Nat
  delay : ℚ
  state : PgState
  effects : List WriteEffect

inductive WriteOutcome where
  | returned
  | writeFailed (attempts : Nat) (cause : PyException)
  | raised (exc : PyException)
  deriving DecidableEq

structure WriteResult where
  outcome : WriteOutcome
  attempts : Nat
  state : PgState
  effects : List WriteEffect

/-- One round of `write_event`'s loop; `env k` is what happens to attempt `k`, from 0. -/
def Database.writeEventBody (self : Database) (event : ReadingEvent)
    (env : Nat → Fault PyException) (loop : WriteLoop) : WriteLoop ⊕ WriteResult :=
  let attempt := loop.attempt + 1
  let once := self.writeOnce event (env loop.attempt) loop.state
  let effects := loop.effects ++ if once.committed then [.committed event] else []
  match once.report with
  | .error exc =>
    if exc.isRetryable then
      if attempt ≥ self.settings.dbWriteMaxAttempts then
        .inr ⟨.writeFailed attempt exc, attempt, once.state, effects ++
          [.logged (.givingUp attempt event.deviceId.val event.timestamp exc)]⟩
      else
        .inl ⟨attempt, min (loop.delay * 2) self.settings.dbWriteMaxDelay, once.state, effects ++
          [.logged (.attemptFailed attempt self.settings.dbWriteMaxAttempts
            event.deviceId.val exc loop.delay), .slept loop.delay]⟩
    else .inr ⟨.raised exc, attempt, once.state, effects⟩
  | .ok () =>
    .inr ⟨.returned, attempt, once.state, effects ++
      if attempt > 1 then [.logged (.succeeded attempt event.deviceId.val)] else []⟩

def Database.writeEventStart (self : Database) (db : PgState) : WriteLoop :=
  ⟨0, self.settings.dbWriteInitialDelay, db, []⟩

theorem writeEventBody_congr {self : Database} {event : ReadingEvent}
    {env env' : Nat → Fault PyException} {loop : WriteLoop}
    (h : env loop.attempt = env' loop.attempt) :
    self.writeEventBody event env loop = self.writeEventBody event env' loop := by
  rw [Database.writeEventBody, Database.writeEventBody, h]

theorem writeEventBody_round {self : Database} {event : ReadingEvent}
    {env : Nat → Fault PyException} {loop loop' : WriteLoop}
    (h : self.writeEventBody event env loop = .inl loop') :
    let once := self.writeOnce event (env loop.attempt) loop.state
    loop'.attempt = loop.attempt + 1 ∧ loop'.attempt < self.settings.dbWriteMaxAttempts ∧
      loop'.delay = min (loop.delay * 2) self.settings.dbWriteMaxDelay ∧
      loop'.state = once.state ∧
      (∃ record, loop'.effects = loop.effects ++
        (if once.committed then [.committed event] else []) ++
          [.logged record, .slept loop.delay]) ∧
      ∃ exc, once.report = .error exc ∧ exc.isRetryable = true := by
  intro once
  change (match once.report with | .error exc => _ | .ok () => _) = _ at h
  cases hr : once.report with
  | ok u => simp [hr] at h
  | error exc =>
    simp only [hr] at h
    by_cases hretry : exc.isRetryable = true
    · by_cases hmax : loop.attempt + 1 ≥ self.settings.dbWriteMaxAttempts
      · simp [hretry, hmax] at h
      · simp only [hretry, if_true, hmax, if_false, Sum.inl.injEq] at h
        subst h
        exact ⟨rfl, by simpa using hmax, rfl, rfl, ⟨_, rfl⟩, exc, rfl, hretry⟩
    · simp [hretry] at h

theorem writeEventBody_leave {self : Database} {event : ReadingEvent}
    {env : Nat → Fault PyException} {loop : WriteLoop} {r : WriteResult}
    (h : self.writeEventBody event env loop = .inr r) :
    let once := self.writeOnce event (env loop.attempt) loop.state
    r.attempts = loop.attempt + 1 ∧ r.state = once.state ∧
      (∃ records : List WriteLog, r.effects = loop.effects ++
        (if once.committed then [.committed event] else []) ++ records.map .logged) ∧
      ((once.report = .ok () ∧ r.outcome = .returned) ∨
        (∃ exc, once.report = .error exc ∧ exc.isRetryable = true ∧
          self.settings.dbWriteMaxAttempts ≤ loop.attempt + 1 ∧
          r.outcome = .writeFailed (loop.attempt + 1) exc) ∨
        (∃ exc, once.report = .error exc ∧ exc.isRetryable = false ∧
          r.outcome = .raised exc)) := by
  intro once
  change (match once.report with | .error exc => _ | .ok () => _) = _ at h
  cases hr : once.report with
  | ok u =>
    simp only [hr, Sum.inr.injEq] at h
    subst h
    refine ⟨rfl, rfl, ?_, .inl ⟨rfl, rfl⟩⟩
    by_cases hlate : loop.attempt + 1 > 1
    · exact ⟨[.succeeded (loop.attempt + 1) event.deviceId.val], by simp [hlate, once]⟩
    · exact ⟨[], by simp [hlate, once]⟩
  | error exc =>
    simp only [hr] at h
    cases hretry : exc.isRetryable with
    | false =>
      simp only [hretry, Bool.false_eq_true, if_false, Sum.inr.injEq] at h
      subst h
      exact ⟨rfl, rfl, ⟨[], by simp [once]⟩, .inr (.inr ⟨exc, rfl, hretry, rfl⟩)⟩
    | true =>
      simp only [hretry, if_true] at h
      split at h
      · rename_i hmax
        rw [Sum.inr.injEq] at h
        subst h
        exact ⟨rfl, rfl, ⟨[_], rfl⟩, .inr (.inl ⟨exc, rfl, hretry, hmax, rfl⟩)⟩
      · cases h

theorem writeEvent_terminates (self : Database) (event : ReadingEvent)
    (env : Nat → Fault PyException) (db : PgState) :
    ∃ r, iterate (self.writeEventBody event env) self.settings.dbWriteMaxAttempts
      (self.writeEventStart db) = some r := by
  have hpos := self.settings.dbWriteMaxAttempts_ge
  apply iterate_terminates (I := fun loop => loop.attempt < self.settings.dbWriteMaxAttempts)
    (fun loop => self.settings.dbWriteMaxAttempts - 1 - loop.attempt)
  · intro loop loop' hlt hround
    obtain ⟨hattempt, hlt', _⟩ := writeEventBody_round hround
    constructor
    · exact hlt'
    · omega
  · exact hpos
  · simp only [Database.writeEventStart]
    omega

/-- `write_event`. No run of its loop takes more than `db_write_max_attempts` rounds. -/
def Database.writeEvent (self : Database) (event : ReadingEvent) (env : Nat → Fault PyException)
    (db : PgState) : WriteResult :=
  (iterate (self.writeEventBody event env) self.settings.dbWriteMaxAttempts
    (self.writeEventStart db)).get
      (Option.isSome_iff_exists.mpr (writeEvent_terminates self event env db))

theorem writeEvent_iterate (self : Database) (event : ReadingEvent)
    (env : Nat → Fault PyException) (db : PgState) :
    iterate (self.writeEventBody event env) self.settings.dbWriteMaxAttempts
      (self.writeEventStart db) = some (self.writeEvent event env db) :=
  (Option.some_get _).symm

def Database.report (self : Database) (event : ReadingEvent) (fault : Fault PyException) :
    Except PyException Unit :=
  (self.writeOnce event fault PgState.empty).report

theorem writeOnce_report (self : Database) (event : ReadingEvent) (fault : Fault PyException)
    (db : PgState) : (self.writeOnce event fault db).report = self.report event fault := by
  unfold Database.report Database.writeOnce
  cases self.pool with
  | none => rfl
  | some pg => exact transact_report (writeOnceScript_report pg event db PgState.empty) fault

def Database.Retryable (self : Database) (event : ReadingEvent) (fault : Fault PyException) :
    Prop :=
  ∃ exc, self.report event fault = .error exc ∧ exc.isRetryable = true

instance (self : Database) (event : ReadingEvent) (fault : Fault PyException) :
    Decidable (self.Retryable event fault) :=
  match h : self.report event fault with
  | .ok _ => isFalse fun ⟨_, hexc, _⟩ => by simp [h] at hexc
  | .error exc => decidable_of_iff (exc.isRetryable = true)
    ⟨fun hretry => ⟨exc, h, hretry⟩, fun ⟨_, hexc, hretry⟩ => by simp_all⟩

def Database.AppliedOnce (self : Database) (event : ReadingEvent) (db db' : PgState) : Prop :=
  ∃ pg w, self.pool = some pg ∧ Binds pg event w ∧ db' = w.apply db

/-- An attempt leaves the tables alone or applies the event; a reported success applied it. -/
theorem writeOnce_cases (self : Database) (event : ReadingEvent) (fault : Fault PyException)
    (db : PgState) :
    ((self.writeOnce event fault db).committed = true ∧
        self.AppliedOnce event db (self.writeOnce event fault db).state) ∨
      ((self.writeOnce event fault db).committed = false ∧
        (self.writeOnce event fault db).state = db ∧ self.report event fault ≠ .ok ()) := by
  rw [← writeOnce_report self event fault db]
  cases hp : self.pool with
  | none =>
    right
    simp [Database.writeOnce, hp]
  | some pg =>
    simp only [Database.writeOnce, hp]
    rcases transact_cases (writeOnceScript pg event) fault db with ⟨hc, hrun⟩ | ⟨hc, hs, e, he⟩
    · obtain ⟨w, hw, hstate⟩ := writeOnceScript_ok.mp hrun
      exact .inl ⟨hc, pg, w, hp, hw, hstate⟩
    · exact .inr ⟨hc, hs, by simp [he]⟩

theorem writeOnce_afterCommit {self : Database} {event : ReadingEvent} (exc : PyException)
    (db : PgState) (h : self.report event .none = .ok ()) :
    (self.writeOnce event (.afterCommit exc) db).committed = true := by
  rw [← writeOnce_report self event .none db] at h
  unfold Database.writeOnce at h ⊢
  cases hp : self.pool with
  | none => simp [hp] at h
  | some pg =>
    simp only [hp, transact] at h ⊢
    cases hr : runScript (writeOnceScript pg event) db with
    | ok db' => rfl
    | error e => simp [hr] at h

/-- Attempts of one call keep the tables at `start` or at `start` with the event applied once:
applying it again changes nothing. -/
theorem AppliedOnce.again {self : Database} {event : ReadingEvent} {start db db' : PgState}
    (h : db = start ∨ self.AppliedOnce event start db) (h' : self.AppliedOnce event db db') :
    self.AppliedOnce event start db' := by
  rcases h with rfl | ⟨pg, w, hp, hw, rfl⟩
  · exact h'
  · obtain ⟨pg', w', hp', hw', rfl⟩ := h'
    rw [hp, Option.some.injEq] at hp'
    subst pg'
    rw [hw'.unique hw, w.apply_apply]
    exact ⟨pg, w, hp, hw, rfl⟩

/-- The trace and the tables agree on whether the event is in. -/
structure Written (database : Database) (event : ReadingEvent) (start state : PgState)
    (effects : List WriteEffect) : Prop where
  own : ∀ e, .committed e ∈ effects → e = event
  state : (.committed event ∉ effects ∧ state = start) ∨
    (.committed event ∈ effects ∧ database.AppliedOnce event start state)

/-- What holds each time round `write_event`'s loop. -/
structure WriteInv (database : Database) (event : ReadingEvent) (env : Nat → Fault PyException)
    (start : PgState) (loop : WriteLoop) : Prop where
  attempt_lt : loop.attempt < database.settings.dbWriteMaxAttempts
  retried : ∀ j < loop.attempt, database.Retryable event (env j)
  written : Written database event start loop.state loop.effects

/-- What holds when `write_event` ends, whichever way it ends. -/
structure WriteSpec (database : Database) (event : ReadingEvent) (env : Nat → Fault PyException)
    (start : PgState) (r : WriteResult) : Prop where
  attempts_pos : 0 < r.attempts
  stops : StopsAt (fun k => database.Retryable event (env k)) database.settings.dbWriteMaxAttempts
    (r.attempts - 1)
  outcome : match r.outcome with
    | .returned => database.report event (env (r.attempts - 1)) = .ok ()
    | .writeFailed n cause => n = r.attempts ∧
      database.report event (env (r.attempts - 1)) = .error cause ∧ cause.isRetryable = true
    | .raised exc =>
      database.report event (env (r.attempts - 1)) = .error exc ∧ exc.isRetryable = false
  written : Written database event start r.state r.effects
  committed : r.outcome = .returned → .committed event ∈ r.effects

theorem Written.append {self : Database} {event : ReadingEvent} {start state : PgState}
    {effects more : List WriteEffect} (h : Written self event start state effects)
    (hmore : ∀ e, .committed e ∉ more) : Written self event start state (effects ++ more) := by
  have hmem : ∀ e, .committed e ∈ effects ++ more ↔ .committed e ∈ effects := by
    intro e
    rw [List.mem_append]
    exact or_iff_left (hmore e)
  refine ⟨?_, ?_⟩
  · intro e he
    exact h.own e ((hmem e).mp he)
  · rw [hmem]
    exact h.state

private theorem written_attempt {self : Database} {event : ReadingEvent}
    {start state : PgState} {effects : List WriteEffect}
    (h : Written self event start state effects) (fault : Fault PyException) :
    let once := self.writeOnce event fault state
    let effects' := effects ++ if once.committed then [.committed event] else []
    Written self event start once.state effects' ∧
      (self.report event fault = .ok () → .committed event ∈ effects') := by
  intro once effects'
  rcases writeOnce_cases self event fault state with ⟨hc, happ⟩ | ⟨hc, hs, hne⟩
  · have heffects : effects' = effects ++ [.committed event] := by simp [effects', once, hc]
    have hmem : .committed event ∈ effects' := by simp [heffects]
    refine ⟨⟨?_, .inr ⟨hmem, AppliedOnce.again ?_ happ⟩⟩, fun _ => hmem⟩
    · intro e he
      rw [heffects, List.mem_append, List.mem_singleton, WriteEffect.committed.injEq] at he
      exact he.elim (h.own e) id
    · exact h.state.imp And.right And.right
  · have heffects : effects' = effects := by simp [effects', once, hc]
    rw [heffects, hs]
    exact ⟨h, fun hok => absurd hok hne⟩

private theorem writeEventBody_keeps {self : Database} {event : ReadingEvent}
    {env : Nat → Fault PyException} {start : PgState} {loop loop' : WriteLoop}
    (h : WriteInv self event env start loop)
    (hround : self.writeEventBody event env loop = .inl loop') :
    WriteInv self event env start loop' := by
  obtain ⟨hattempt, hlt, _, hstate, ⟨record, heffects⟩, exc, hexc, hretry⟩ :=
    writeEventBody_round hround
  rw [writeOnce_report] at hexc
  refine ⟨hlt, ?_, ?_⟩
  · intro j hj
    rcases Nat.lt_or_ge j loop.attempt with hlt' | hge
    · exact h.retried j hlt'
    · have hj' : j = loop.attempt := by omega
      exact hj' ▸ ⟨exc, hexc, hretry⟩
  · rw [hstate, heffects]
    exact (written_attempt h.written (env loop.attempt)).1.append (by simp)

private theorem writeEventBody_leaves {self : Database} {event : ReadingEvent}
    {env : Nat → Fault PyException} {start : PgState} {loop : WriteLoop} {r : WriteResult}
    (h : WriteInv self event env start loop)
    (hleave : self.writeEventBody event env loop = .inr r) :
    WriteSpec self event env start r := by
  obtain ⟨hattempts, hrstate, ⟨records, heffects⟩, hends⟩ := writeEventBody_leave hleave
  rw [writeOnce_report] at hends
  obtain ⟨hwritten, hcommitted⟩ := written_attempt h.written (env loop.attempt)
  have hlast : r.attempts - 1 = loop.attempt := by omega
  refine ⟨by omega, ⟨hlast ▸ h.attempt_lt, hlast ▸ h.retried, ?_⟩, ?_, ?_, ?_⟩
  · rintro ⟨exc, hexc, hretry⟩
    rw [hlast] at hexc ⊢
    have hlt := h.attempt_lt
    rcases hends with ⟨hok, _⟩ | ⟨_, _, _, hmax, _⟩ | ⟨exc', hexc', hfatal, _⟩
    · simp [hok] at hexc
    · omega
    · rw [hexc', Except.error.injEq] at hexc
      simp [hexc, hretry] at hfatal
  · rw [hlast, hattempts]
    rcases hends with ⟨hok, ho⟩ | ⟨exc, hexc, hretry, _, ho⟩ | ⟨exc, hexc, hfatal, ho⟩
    · simpa only [ho] using hok
    · simpa only [ho, true_and] using ⟨hexc, hretry⟩
    · simpa only [ho] using ⟨hexc, hfatal⟩
  · rw [hrstate, heffects]
    exact hwritten.append (by simp)
  · intro hreturned
    rw [heffects]
    rcases hends with ⟨hok, _⟩ | ⟨_, _, _, _, ho⟩ | ⟨_, _, _, ho⟩
    · exact List.mem_append_left _ (hcommitted hok)
    · simp [ho] at hreturned
    · simp [ho] at hreturned

theorem writeEvent_spec (self : Database) (event : ReadingEvent) (env : Nat → Fault PyException)
    (db : PgState) : WriteSpec self event env db (self.writeEvent event env db) := by
  apply iterate_invariant (I := WriteInv self event env db)
    (fun _ _ => writeEventBody_keeps) (fun _ _ => writeEventBody_leaves) ?_
    (writeEvent_iterate self event env db)
  refine ⟨self.settings.dbWriteMaxAttempts_ge, by simp [Database.writeEventStart], ?_⟩
  exact ⟨by simp [Database.writeEventStart], .inl ⟨by simp [Database.writeEventStart], rfl⟩⟩

/-! ## How a call ends -/

section outcome

variable {self : Database} {event : ReadingEvent} {env : Nat → Fault PyException}
  {start : PgState} {r : WriteResult}

theorem WriteSpec.returned_iff (h : WriteSpec self event env start r) :
    r.outcome = .returned ↔ ∃ k < self.settings.dbWriteMaxAttempts,
      self.report event (env k) = .ok () ∧ ∀ j < k, self.Retryable event (env j) := by
  have hlast : r.outcome = .returned ↔ self.report event (env (r.attempts - 1)) = .ok () := by
    have hout := h.outcome
    cases ho : r.outcome <;> simp_all
  rw [hlast]
  apply h.stops.verdict_iff (V := fun k => self.report event (env k) = .ok ())
  rintro k hok ⟨exc, hexc, _⟩
  simp [hok] at hexc

theorem WriteSpec.writeFailed_iff (h : WriteSpec self event env start r) :
    (∃ n cause, r.outcome = .writeFailed n cause) ↔
      ∀ k < self.settings.dbWriteMaxAttempts, self.Retryable event (env k) := by
  have hlast : (∃ n cause, r.outcome = .writeFailed n cause) ↔
      self.Retryable event (env (r.attempts - 1)) := by
    have hout := h.outcome
    cases ho : r.outcome <;> simp_all [Database.Retryable]
  rw [hlast]
  exact h.stops.exhausted_iff

theorem WriteSpec.raised_iff (h : WriteSpec self event env start r) (exc : PyException) :
    r.outcome = .raised exc ↔ ∃ k < self.settings.dbWriteMaxAttempts,
      self.report event (env k) = .error exc ∧ exc.isRetryable = false ∧
        (∀ j < k, self.Retryable event (env j)) ∧ r.attempts = k + 1 := by
  have hpos := h.attempts_pos
  have hlast : r.outcome = .raised exc ↔
      self.report event (env (r.attempts - 1)) = .error exc ∧ exc.isRetryable = false := by
    have hout := h.outcome
    cases ho : r.outcome with
    | returned => simp_all
    | writeFailed n cause =>
      simp only [ho] at hout
      simp only [reduceCtorEq, false_iff, hout.2.1, Except.error.injEq, not_and]
      rintro rfl
      simp [hout.2.2]
    | raised exc' =>
      simp only [ho] at hout
      simp only [WriteOutcome.raised.injEq, hout.1, Except.error.injEq]
      constructor
      · rintro rfl
        exact ⟨rfl, hout.2⟩
      · exact fun hexc => hexc.1
  rw [hlast]
  constructor
  · rintro ⟨hexc, hfatal⟩
    exact ⟨r.attempts - 1, h.stops.lt, hexc, hfatal, h.stops.before, by omega⟩
  · rintro ⟨k, _, hexc, hfatal, _, hk⟩
    have hk' : r.attempts - 1 = k := by omega
    exact hk' ▸ ⟨hexc, hfatal⟩

theorem WriteSpec.applied (h : WriteSpec self event env start r) (hr : r.outcome = .returned) :
    self.AppliedOnce event start r.state := by
  rcases h.written.state with ⟨hnot, _⟩ | ⟨_, happ⟩
  · exact absurd (h.committed hr) hnot
  · exact happ

end outcome

/-- Exactly-once effect of a call under retries. The call ends within its budget; it returns when
an attempt succeeds before any error that is not retryable, gives up when every attempt of the
budget reports a retryable one, and else raises the first error that is not retryable, at once. The
tables are as before or with the event applied once, and the latter after a normal return. -/
theorem writeEvent_exactly_once (self : Database) (event : ReadingEvent)
    (env : Nat → Fault PyException) (db : PgState) :
    let r := self.writeEvent event env db
    let budget := self.settings.dbWriteMaxAttempts
    r.attempts ≤ budget ∧
      (r.outcome = .returned ↔ ∃ k < budget, self.report event (env k) = .ok () ∧
        ∀ j < k, self.Retryable event (env j)) ∧
      ((∃ n cause, r.outcome = .writeFailed n cause) ↔
        ∀ k < budget, self.Retryable event (env k)) ∧
      (∀ exc, r.outcome = .raised exc ↔ ∃ k < budget, self.report event (env k) = .error exc ∧
        exc.isRetryable = false ∧ (∀ j < k, self.Retryable event (env j)) ∧ r.attempts = k + 1) ∧
      (r.state = db ∨ self.AppliedOnce event db r.state) ∧
      (r.outcome = .returned → self.AppliedOnce event db r.state) := by
  intro r budget
  have h := writeEvent_spec self event env db
  change WriteSpec self event env db r at h
  have hpos := h.attempts_pos
  have hlt := h.stops.lt
  refine ⟨by omega, h.returned_iff, h.writeFailed_iff, h.raised_iff, ?_, h.applied⟩
  exact h.written.state.imp And.right And.right

end OpenWater.Ingestion
