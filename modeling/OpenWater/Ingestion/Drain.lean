import OpenWater.Ingestion.Ledger

/-!
# Draining

What the service does by itself: receive messages, hand them over and attempt their writes. In
whatever order these steps come and whatever the environment does to the attempts, there are only
so many of them, and when none is left the events on their way have been dealt with.
-/

namespace OpenWater.Ingestion

open Framework

def Label.isService : Label → Bool
  | .send | .take | .attempt _ => true
  | .publish _ _ | .drop | .crash | .connect | .subscribe | .outage | .recovery => false

namespace System

def writeWork (D : Deployment) (p : InProgress) : Nat :=
  D.database.settings.dbWriteMaxAttempts - p.loop.attempt + 1

/-- A bound on the steps that are left: a message is sent, taken and written. -/
def work (D : Deployment) (s : System) : Nat :=
  s.queued.length * (D.database.settings.dbWriteMaxAttempts + 3) +
    s.inbox.length * (D.database.settings.dbWriteMaxAttempts + 2) +
      s.handling.elim 0 (writeWork D)

private theorem work_of_idle {D : Deployment} {s : System} (h : s.handling = none) :
    s.work D = s.queued.length * (D.database.settings.dbWriteMaxAttempts + 3) +
      s.inbox.length * (D.database.settings.dbWriteMaxAttempts + 2) := by
  rw [work, h]
  rfl

end System

variable {D : Deployment} {s s' : System}

private theorem work_send (h : stepSend D s = some s') : s'.work D < s.work D := by
  obtain ⟨_, b, message, rest, hb, hq, hsent⟩ := stepSend_cases h
  have hqueued : s.queued.length = rest.length + 1 := by
    rw [System.queued, hb]
    exact congrArg List.length hq
  have hinbox : s'.inbox.length = s.inbox.length + 1 ∧ s'.queued.length = rest.length ∧
      s'.handling = s.handling := by
    rcases hsent with ⟨_, rfl⟩ | ⟨_, _, rfl⟩
    · exact ⟨List.length_append, rfl, rfl⟩
    · exact ⟨List.length_append, rfl, rfl⟩
  rw [System.work, System.work, hinbox.1, hinbox.2.1, hinbox.2.2, hqueued, Nat.succ_mul,
    Nat.succ_mul]
  omega

private theorem work_take (h : stepTake D s = some s') : s'.work D < s.work D := by
  obtain ⟨hidle, message, rest, hinbox, htaken⟩ := stepTake_cases h
  rw [System.work_of_idle hidle, hinbox, List.length_cons, Nat.succ_mul]
  rcases htaken with ⟨event, _, rfl⟩ | ⟨_, rfl⟩
  · change s.queued.length * _ + rest.length * _ +
      (D.database.settings.dbWriteMaxAttempts - 0 + 1) < _
    omega
  · have hidle' : ({ s with inbox := rest }.acknowledge
        [(message.mid, message.qos)]).handling = none := hidle
    rw [System.work_of_idle hidle', queued_acknowledge]
    change s.queued.length * _ + rest.length * _ < _
    omega

private theorem work_attempt {fault : Fault PyException} (h : stepAttempt D s fault = some s') :
    s'.work D < s.work D := by
  obtain ⟨p, hp, ⟨loop, hbody, rfl⟩ | ⟨r, _, _, rfl⟩⟩ := stepAttempt_rounds h
  · obtain ⟨hattempt, hless, _⟩ := writeEventBody_round hbody
    have hround : loop.attempt = p.loop.attempt + 1 := hattempt
    rw [System.work, System.work, hp]
    change s.queued.length * _ + s.inbox.length * _ +
      (D.database.settings.dbWriteMaxAttempts - loop.attempt + 1) <
        s.queued.length * _ + s.inbox.length * _ +
          (D.database.settings.dbWriteMaxAttempts - p.loop.attempt + 1)
    omega
  · rw [System.work_of_idle rfl, System.work, hp]
    have hqueued : ((s.attempted D fault p).finish p.message
        ((dispatch p.message p.event ⟨r.outcome, r.state, r.effects.map .write⟩).effects.filterMap
          Effect.acked?)).queued = s.queued := queued_acknowledge (s.attempted D fault p) _
    rw [hqueued]
    change s.queued.length * _ + s.inbox.length * _ < _ + _ + (_ + 1)
    exact Nat.lt_succ_of_le (Nat.le_add_right _ _)

theorem work_step {a : Label} (ha : a.isService = true) (h : step D s a = some s') :
    s'.work D < s.work D := by
  cases a with
  | send => exact work_send h
  | take => exact work_take h
  | attempt fault => exact work_attempt h
  | _ => cases ha

private theorem connected_step {a : Label} (ha : a.isService = true) (h : step D s a = some s') :
    s'.connected = s.connected := by
  cases a with
  | send =>
    obtain ⟨_, b, message, rest, _, _, ⟨_, rfl⟩ | ⟨_, _, rfl⟩⟩ := stepSend_cases h
    · rfl
    · rfl
  | take =>
    obtain ⟨_, message, rest, _, ⟨event, _, rfl⟩ | ⟨_, rfl⟩⟩ := stepTake_cases h
    · rfl
    · rfl
  | attempt fault =>
    obtain ⟨p, _, ⟨loop, _, rfl⟩ | ⟨r, _, _, rfl⟩⟩ := stepAttempt_rounds h
    · rfl
    · rfl
  | _ => cases ha

/-! ## Nothing left to do -/

private theorem stepAttempt_enabled {p : InProgress} (hp : s.handling = some p) :
    ∃ fault s', stepAttempt D s fault = some s' := by
  have hfault : s.faultOf (.before 0 .connectionError) = .before 0 .connectionError := by
    unfold System.faultOf
    split <;> rfl
  obtain ⟨exc, hreport, hexc⟩ : ∃ exc, D.database.report p.event
      (s.faultOf (.before 0 .connectionError)) = .error exc ∧ exc.isException = true := by
    rw [hfault]
    unfold Database.report Database.writeOnce
    cases D.database.pool with
    | none => exact ⟨_, rfl, rfl⟩
    | some pg => exact ⟨_, rfl, rfl⟩
  refine ⟨.before 0 .connectionError, ?_⟩
  unfold stepAttempt
  simp only [hp]
  cases hbody : D.database.writeEventBody p.event
      (fun _ => s.faultOf (.before 0 .connectionError)) { p.loop with state := s.db } with
  | inl loop => exact ⟨_, rfl⟩
  | inr r =>
    obtain ⟨_, _, _, hends⟩ := writeEventBody_leave hbody
    rw [writeOnce_report, hreport] at hends
    have hraised : (dispatch p.message p.event
        ⟨r.outcome, r.state, r.effects.map .write⟩).raised = none := by
      rcases hends with ⟨hok, _⟩ | ⟨_, _, _, _, hfailed⟩ | ⟨exc', hexc', _, hraised⟩
      · cases hok
      · rw [dispatch, hfailed]
      · obtain rfl := Except.error.inj hexc'
        rw [dispatch, hraised]
        simp only [hexc, if_true]
    simp only [hraised]
    exact ⟨_, rfl⟩

/-- A service that has nothing to do holds no message; what the broker still has is kept back by a
window full of messages that were given up. -/
theorem idle_of_stuck (hinv : Inv D s) (hconnected : s.connected = true)
    (hstuck : ∀ a : Label, a.isService = true → step D s a = none) :
    s.handling = none ∧ s.inbox = [] ∧
      (s.queued ≠ [] → D.qos ≠ 0 ∧ D.window ≤ s.givenUp.length) := by
  have hidle : s.handling = none := by
    by_contra hbusy
    obtain ⟨p, hp⟩ := Option.ne_none_iff_exists'.mp hbusy
    obtain ⟨fault, s', hs'⟩ := stepAttempt_enabled (D := D) hp
    cases (hstuck (.attempt fault) rfl).symm.trans hs'
  have hempty : s.inbox = [] := by
    by_contra hinbox
    obtain ⟨s', hs'⟩ := stepTake_enabled (D := D) hidle hinbox
    cases (hstuck .take rfl).symm.trans hs'
  refine ⟨hidle, hempty, fun hqueued => ?_⟩
  obtain ⟨b, hb⟩ : ∃ b, s.session = some b := by
    cases hsession : s.session with
    | none => simp [System.queued, hsession] at hqueued
    | some b => exact ⟨b, rfl⟩
  have hqueue : b.queue ≠ [] := by
    rwa [System.queued, hb] at hqueued
  have hpending : s.pending = s.givenUp := by simp [System.pending, hidle, hempty]
  have hinflight := hinv.inflight b hb
  have hfull : D.window ≤ b.inflight.length := by
    by_contra hroom
    obtain ⟨s', hs'⟩ := stepSend_enabled hconnected hb hqueue (Nat.lt_of_not_le hroom)
    cases (hstuck .send rfl).symm.trans hs'
  have hpos := D.window_pos
  rw [hinflight, hpending] at hfull
  by_cases hqos : D.qos = 0
  · rw [if_pos hqos, List.length_nil] at hfull
    omega
  · rw [if_neg hqos] at hfull
    exact ⟨hqos, hfull⟩

private theorem givenUp_step {a : Label} (hkeeps : ¬ Loses D s a) (hnone : s.givenUp = [])
    (h : step D s a = some s') : s'.givenUp = [] := by
  cases a with
  | send =>
    obtain ⟨_, b, message, rest, _, _, ⟨_, rfl⟩ | ⟨_, _, rfl⟩⟩ := stepSend_cases h
    · exact hnone
    · exact hnone
  | take =>
    obtain ⟨_, message, rest, _, ⟨event, _, rfl⟩ | ⟨_, rfl⟩⟩ := stepTake_cases h
    · exact hnone
    · exact hnone
  | attempt fault =>
    obtain ⟨p, hp, ⟨loop, rfl⟩ | ⟨_, rfl⟩ | ⟨hgives, _⟩⟩ := stepAttempt_cases h
    · exact hnone
    · exact hnone
    · exact absurd ⟨p, hp, hgives⟩ hkeeps
  | drop =>
    obtain ⟨_, rfl⟩ := stepDrop_cases h
    exact hnone
  | connect =>
    obtain ⟨_, _, rfl⟩ := stepConnect_cases h
    rfl
  | subscribe =>
    obtain ⟨_, rfl⟩ := stepSubscribe_cases h
    exact hnone
  | crash =>
    obtain rfl := Option.some.inj h
    rfl
  | publish topic payload =>
    obtain rfl := Option.some.inj h
    exact hnone
  | outage =>
    obtain rfl := Option.some.inj h
    exact hnone
  | recovery =>
    obtain rfl := Option.some.inj h
    exact hnone

private theorem tables_of_stuck {labels : List Label}
    (hkeeps : Along (step D) (fun s a => ¬ Loses D s a) System.start labels)
    (hrun : run (step D) System.start labels = some s) (hconnected : s.connected = true)
    (hstuck : ∀ a : Label, a.isService = true → step D s a = none) :
    D.Tables (labels.flatMap (Label.sends D)) s.db := by
  have hinv := run_preserves (fun _ _ _ h hstep => inv_step h hstep) (inv_start D) hrun
  obtain ⟨hidle, hempty, hqueued⟩ := idle_of_stuck hinv hconnected hstuck
  have hgivenUp : s.givenUp = [] :=
    run_invariant (I := fun t : System => t.givenUp = [])
      (fun _ _ _ hnone hok hstep => givenUp_step hok hnone hstep) rfl hkeeps hrun
  have hsent : s.queued = [] := by
    by_contra hne
    have hfull := (hqueued hne).2
    have hpos := D.window_pos
    rw [hgivenUp, List.length_nil] at hfull
    omega
  apply tables_of_arrived hkeeps hrun
  rw [System.inHand, System.behind, hidle, hempty, hsent]
  rfl

/-- On a connection, the service's own steps come to an end, in whatever order they are taken and
whatever happens to the attempts. At that end it holds no message, and the broker holds none either
unless the window is full of messages that were given up. If nothing was lost, the tables are then
those of all published events. -/
theorem service_drains {D : Deployment} {labels as : List Label} {s t : System}
    (hrun : run (step D) System.start labels = some s) (hconnected : s.connected = true)
    (has : ∀ a ∈ as, a.isService = true) (hgo : run (step D) s as = some t) :
    as.length ≤ s.work D ∧ ((∀ a : Label, a.isService = true → step D t a = none) →
      t.handling = none ∧ t.inbox = [] ∧
        (t.queued ≠ [] → D.qos ≠ 0 ∧ D.window ≤ t.givenUp.length) ∧
        (Along (step D) (fun s a => ¬ Loses D s a) System.start (labels ++ as) →
          D.Tables ((labels ++ as).flatMap (Label.sends D)) t.db)) := by
  have hlength := length_le_work (fun _ _ _ ha h => work_step ha h) has hgo
  have hall := run_append.mpr ⟨s, hrun, hgo⟩
  have honline : t.connected = true :=
    run_invariant (I := fun u : System => u.connected = true)
      (fun _ _ _ hon ha hstep => (connected_step ha hstep).trans hon) hconnected
      (along_of_mem has s) hgo
  refine ⟨by omega, fun hstuck => ?_⟩
  have hinv := run_preserves (fun _ _ _ h hstep => inv_step h hstep) (inv_start D) hall
  obtain ⟨hidle, hempty, hqueued⟩ := idle_of_stuck hinv honline hstuck
  exact ⟨hidle, hempty, hqueued, fun hkeeps => tables_of_stuck hkeeps hall honline hstuck⟩

/-- A published event is sent, taken and written, and nothing is left to do. -/
theorem service_drains_written :
    let before : List Label := [.connect, .subscribe, publishPh]
    let as : List Label := [.send, .take, .attempt .none]
    ∃ s t, run (step (localDeployment 20 (by decide))) System.start before = some s ∧
      run (step (localDeployment 20 (by decide))) s as = some t ∧
      3 ≤ s.work (localDeployment 20 (by decide)) ∧ t.inbox = [] ∧
      (localDeployment 20 (by decide)).Tables
        ((before ++ as).flatMap (Label.sends (localDeployment 20 (by decide)))) t.db := by
  intro before as
  obtain ⟨s, t, hrun, hconnected, hgo, hsend, htake, hidle⟩ : ∃ s t,
      run (step (localDeployment 20 (by decide))) System.start before = some s ∧
      s.connected = true ∧ run (step (localDeployment 20 (by decide))) s as = some t ∧
      stepSend (localDeployment 20 (by decide)) t = none ∧
      stepTake (localDeployment 20 (by decide)) t = none ∧ t.handling = none :=
    ⟨_, _, rfl, rfl, rfl, rfl, rfl, rfl⟩
  have hservice : ∀ a ∈ as, a.isService = true := by simp [as, Label.isService]
  have hstuck : ∀ a : Label, a.isService = true →
      step (localDeployment 20 (by decide)) t a = none := by
    intro a ha
    cases a with
    | send => exact hsend
    | take => exact htake
    | attempt fault => simp [step, stepAttempt, hidle]
    | _ => cases ha
  obtain ⟨hlength, hdone⟩ := service_drains hrun hconnected hservice hgo
  obtain ⟨_, hempty, _, htables⟩ := hdone hstuck
  exact ⟨s, t, hrun, hgo, hlength, hempty, htables (by decide +kernel)⟩

end OpenWater.Ingestion
