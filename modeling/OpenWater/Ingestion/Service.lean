import OpenWater.Ingestion.Broker
import OpenWater.Ingestion.History

/-!
# The system against the code it runs

The system takes `write_event` one attempt at a time, with steps of the other parties in between.
When a message is done with, what happened to it is a call of `_handle_message`; the tables are at
all times what the committed events make of empty ones.
-/

namespace OpenWater.Ingestion

open Framework

/-! ## The tables -/

theorem step_frame {D : Deployment} {s s' : System} {a : Label} (h : step D s a = some s')
    (htake : a ≠ .take) (hattempt : ∀ fault, a ≠ .attempt fault) :
    s'.db = s.db ∧ s'.committed = s.committed ∧
      (s'.handling = s.handling ∨ s'.handling = none) := by
  cases a with
  | publish topic payload =>
    obtain rfl := (Option.some.inj h).symm
    exact ⟨rfl, rfl, .inl rfl⟩
  | send =>
    obtain ⟨_, b, message, rest, _, _, ⟨_, rfl⟩ | ⟨_, _, rfl⟩⟩ := stepSend_cases h
    · exact ⟨rfl, rfl, .inl rfl⟩
    · exact ⟨rfl, rfl, .inl rfl⟩
  | take => exact absurd rfl htake
  | attempt fault => exact absurd rfl (hattempt fault)
  | drop =>
    obtain ⟨_, rfl⟩ := stepDrop_cases h
    exact ⟨rfl, rfl, .inl rfl⟩
  | crash =>
    obtain rfl := (Option.some.inj h).symm
    exact ⟨rfl, rfl, .inr rfl⟩
  | connect =>
    obtain ⟨_, _, rfl⟩ := stepConnect_cases h
    exact ⟨rfl, rfl, .inl rfl⟩
  | subscribe =>
    obtain ⟨_, rfl⟩ := stepSubscribe_cases h
    exact ⟨rfl, rfl, .inl rfl⟩
  | outage =>
    obtain rfl := (Option.some.inj h).symm
    exact ⟨rfl, rfl, .inl rfl⟩
  | recovery =>
    obtain rfl := (Option.some.inj h).symm
    exact ⟨rfl, rfl, .inl rfl⟩

private theorem step_tables {D : Deployment} {s s' : System} {a : Label}
    (h : step D s a = some s') :
    (s'.db = s.db ∧ s'.committed = s.committed) ∨
      ∃ fault p, s'.db = (s.attempted D fault p).db ∧
        s'.committed = (s.attempted D fault p).committed := by
  cases a with
  | take =>
    obtain ⟨_, message, rest, _, ⟨event, _, rfl⟩ | ⟨_, rfl⟩⟩ := stepTake_cases h
    · exact .inl ⟨rfl, rfl⟩
    · exact .inl ⟨rfl, rfl⟩
  | attempt fault =>
    obtain ⟨p, _, ⟨loop, _, rfl⟩ | ⟨r, _, _, rfl⟩⟩ := stepAttempt_rounds h
    · exact .inr ⟨fault, p, rfl, rfl⟩
    · exact .inr ⟨fault, p, rfl, rfl⟩
  | _ =>
    obtain ⟨hdb, hcommitted, _⟩ := step_frame h (by simp) (by simp)
    exact .inl ⟨hdb, hcommitted⟩

def Deployment.Bound (D : Deployment) (event : ReadingEvent) (w : Write) : Prop :=
  ∃ pg, D.database.pool = some pg ∧ Binds pg event w

/-- The tables are what the committed events, in order, make of empty ones. -/
def System.Recorded (D : Deployment) (s : System) : Prop :=
  ∃ ws, List.Forall₂ D.Bound s.committed ws ∧ s.db = replay PgState.empty ws

private theorem recorded_step {D : Deployment} {s s' : System} {a : Label} (h : s.Recorded D)
    (hstep : step D s a = some s') : s'.Recorded D := by
  obtain ⟨ws, hbound, hdb⟩ := h
  rcases step_tables hstep with ⟨hdb', hcommitted⟩ | ⟨fault, p, hdb', hcommitted⟩
  · refine ⟨ws, ?_, hdb'.trans hdb⟩
    rw [hcommitted]
    exact hbound
  · rcases writeOnce_cases D.database p.event (s.faultOf fault) s.db with
      ⟨hc, pg, w, hpool, hw, happ⟩ | ⟨hc, hs, _⟩
    · refine ⟨ws ++ [w], ?_, ?_⟩
      · rw [hcommitted, System.attempted, hc, if_pos rfl]
        exact List.rel_append hbound (.cons ⟨pg, hpool, hw⟩ .nil)
      · rw [hdb', replay_append, ← hdb]
        exact happ
    · refine ⟨ws, ?_, ?_⟩
      · rw [hcommitted]
        simpa [System.attempted, hc] using hbound
      · rw [hdb', ← hdb]
        exact hs

/-- In every run the tables record the committed events, whatever failed in between. -/
theorem run_recorded {D : Deployment} {labels : List Label} {s : System}
    (hrun : run (step D) System.start labels = some s) : s.Recorded D :=
  run_preserves (I := System.Recorded D) (fun _ _ _ h hstep => recorded_step h hstep)
    ⟨[], .nil, rfl⟩ hrun

theorem committed_stored {D : Deployment} {labels : List Label} {s : System}
    (hrun : run (step D) System.start labels = some s) {event : ReadingEvent}
    (he : event ∈ s.committed) : ∃ w, D.Bound event w ∧
      ∀ row ∈ w.rows, ∃ stored ∈ s.db.readings.rows, stored.key = row.key := by
  obtain ⟨ws, hbound, hdb⟩ := run_recorded hrun
  obtain ⟨w, hmem, hw⟩ := exists_of_forall₂ hbound he
  refine ⟨w, hw, ?_⟩
  intro row hrow
  rw [hdb]
  exact stored_of_mem (List.mem_flatMap.mpr ⟨w, hmem, hrow⟩)

/-! ## One message -/

/-- The rounds taken so far are the first ones of a call of `write_event`. -/
def InProgress.Underway (D : Deployment) (db : PgState) (p : InProgress) : Prop :=
  p.loop.state = db ∧ p.loop.attempt < D.database.settings.dbWriteMaxAttempts ∧
    ∃ (env : Nat → Fault PyException) (start : PgState),
      ∀ env', (∀ k < p.loop.attempt, env' k = env k) →
      iterate (D.database.writeEventBody p.event env')
        (D.database.settings.dbWriteMaxAttempts - p.loop.attempt) p.loop =
          some (D.database.writeEvent p.event env' start)

private theorem underway_start (D : Deployment) (message : Message) (event : ReadingEvent)
    (db : PgState) :
    InProgress.Underway D db ⟨message, event, D.database.writeEventStart db⟩ := by
  refine ⟨rfl, D.database.settings.dbWriteMaxAttempts_ge, fun _ => .none, db, ?_⟩
  intro env' _
  exact writeEvent_iterate D.database event env' db

private theorem underway_next {D : Deployment} {db : PgState} {p : InProgress} (h : p.Underway D db)
    (fault : Fault PyException) : ∃ (env : Nat → Fault PyException) (start : PgState),
      ∀ env', (∀ k < p.loop.attempt + 1, env' k = env k) →
        D.database.writeEventBody p.event env' p.loop =
            D.database.writeEventBody p.event (fun _ => fault) { p.loop with state := db } ∧
          iterate (D.database.writeEventBody p.event env')
            (D.database.settings.dbWriteMaxAttempts - (p.loop.attempt + 1) + 1) p.loop =
              some (D.database.writeEvent p.event env' start) := by
  obtain ⟨hstate, hlt, env, start, hiterate⟩ := h
  refine ⟨fun k => if k < p.loop.attempt then env k else fault, start, ?_⟩
  intro env' hsame
  have hnow : env' p.loop.attempt = fault := by
    exact (hsame p.loop.attempt (Nat.lt_succ_self _)).trans (if_neg (Nat.lt_irrefl _))
  have hfuel : D.database.settings.dbWriteMaxAttempts - (p.loop.attempt + 1) + 1 =
      D.database.settings.dbWriteMaxAttempts - p.loop.attempt := by omega
  constructor
  · rw [← hstate]
    exact writeEventBody_congr hnow
  · rw [hfuel]
    apply hiterate
    intro k hk
    exact (hsame k (Nat.lt_succ_of_lt hk)).trans (if_pos hk)

private theorem underway_step {D : Deployment} {s s' : System} {a : Label}
    (h : ∀ p ∈ s.handling, p.Underway D s.db) (hstep : step D s a = some s') :
    ∀ p ∈ s'.handling, p.Underway D s'.db := by
  cases a with
  | take =>
    obtain ⟨_, message, rest, _, ⟨event, _, rfl⟩ | ⟨_, rfl⟩⟩ := stepTake_cases hstep
    · intro p hp
      obtain rfl := Option.mem_some.mp hp
      exact underway_start D message event s.db
    · exact h
  | attempt fault =>
    obtain ⟨p, hp, ⟨loop, hbody, rfl⟩ | ⟨r, _, _, rfl⟩⟩ := stepAttempt_rounds hstep
    · intro p' hp'
      obtain rfl := Option.mem_some.mp hp'
      obtain ⟨env, start, hnext⟩ := underway_next (h p hp) (s.faultOf fault)
      obtain ⟨hattempt, hlt, _, hstate, _⟩ := writeEventBody_round hbody
      refine ⟨hstate, hlt, env, start, ?_⟩
      intro env' hsame
      change iterate _ (_ - loop.attempt) loop = _
      change ∀ k < loop.attempt, _ at hsame
      rw [hattempt] at hsame ⊢
      obtain ⟨hround, hiterate⟩ := hnext env' hsame
      rw [← hiterate, iterate_inl (hround.trans hbody)]
    · intro p' hp'
      cases hp'
  | _ =>
    obtain ⟨hdb, _, hhandling⟩ := step_frame hstep (by simp) (by simp)
    intro p hp
    rw [hdb]
    rcases hhandling with hsame | hnone
    · exact h p (hsame ▸ hp)
    · rw [hnone] at hp
      cases hp

/-- When an attempt ends the handling of a message, tables and acks are those of a call of
`_handle_message` on it. -/
theorem attempt_handleMessage {D : Deployment} {labels : List Label} {s s' : System}
    {fault : Fault PyException} {p : InProgress}
    (hrun : run (step D) System.start labels = some s) (hp : s.handling = some p)
    (hstep : step D s (.attempt fault) = some s') (hdone : s'.handling = none) :
    ∃ env start, let h := handleMessage D.py p.message D.database.handler env start
      h.raised = none ∧ s'.db = h.state ∧
        s'.session = (s.acknowledge (h.effects.filterMap Effect.acked?)).session := by
  have hinv : Inv D s := run_preserves (fun _ _ _ h hstep => inv_step h hstep) (inv_start D) hrun
  have hunderway : ∀ q ∈ s.handling, q.Underway D s.db :=
    run_preserves (I := fun s : System => ∀ q ∈ s.handling, q.Underway D s.db)
      (fun _ _ _ h hstep => underway_step h hstep) (fun _ hq => by cases hq) hrun
  obtain ⟨p', hp', ⟨loop, _, rfl⟩ | ⟨r, hbody, hraised, rfl⟩⟩ := stepAttempt_rounds hstep
  · cases hdone
  obtain rfl : p = p' := Option.some.inj (hp.symm.trans hp')
  obtain ⟨env, start, hnext⟩ := underway_next (hunderway p hp) (s.faultOf fault)
  obtain ⟨hround, hiterate⟩ := hnext env fun _ _ => rfl
  rw [iterate_inr (hround.trans hbody), Option.some.injEq] at hiterate
  have hhandled : handleMessage D.py p.message D.database.handler env start =
      dispatch p.message p.event ⟨r.outcome, r.state, r.effects.map .write⟩ := by
    rw [handleMessage_accepted (hinv.handled p hp), Database.handler, ← hiterate]
  refine ⟨env, start, ?_⟩
  rw [hhandled]
  refine ⟨hraised, ?_, rfl⟩
  obtain ⟨_, hstate, _⟩ := writeEventBody_leave hbody
  rw [dispatch_state]
  exact hstate.symm

end OpenWater.Ingestion
