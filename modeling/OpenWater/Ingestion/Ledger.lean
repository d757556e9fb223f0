import OpenWater.Framework.Channel
import OpenWater.Ingestion.Delivery
import OpenWater.Ingestion.Service

/-!
# The system as a ledger

What devices, broker, subscriber and database amount to together: a channel from the devices to the
tables, which may lose events, and a ledger that enters each event that arrives once. Retries,
lost reports, reconnections and restarts do not show in the tables.
-/

namespace OpenWater.Ingestion

open Framework

def Label.sends (D : Deployment) : Label → List ReadingEvent
  | .publish topic payload => (accepted D.py (D.publication topic payload)).toList
  | _ => []

/-- The tables that the events make, entered once each and in this order. -/
def Deployment.Tables (D : Deployment) (events : List ReadingEvent) (db : PgState) : Prop :=
  ∃ ws, List.Forall₂ D.Bound events ws ∧ db = replay PgState.empty ws

namespace System

def queued (s : System) : List Message :=
  match s.session with
  | none => []
  | some b => b.queue

def inHand (s : System) : List ReadingEvent := (s.handling.map InProgress.event).toList

def behind (D : Deployment) (s : System) : List ReadingEvent :=
  (s.inbox ++ s.queued).filterMap (accepted D.py)

end System

/-- A step in which an event can get lost: nobody has subscribed, a write is given up, or a
connection or the process ends while events are on their way. -/
def Loses (D : Deployment) (s : System) : Label → Prop
  | .publish topic payload =>
    accepted D.py (D.publication topic payload) ≠ none ∧ ¬ s.Subscribed
  | .attempt fault => ∃ p ∈ s.handling, GivesUp D s fault p
  | .drop => s.queued.filterMap (accepted D.py) ≠ []
  | .crash | .connect => s.inHand ++ s.behind D ≠ []
  | .send | .take | .subscribe | .outage | .recovery => False

instance (s : System) : Decidable s.Subscribed :=
  inferInstanceAs (Decidable (∃ b ∈ s.session, b.subscribed = true))

instance (D : Deployment) (s : System) (a : Label) : Decidable (Loses D s a) :=
  match a with
  | .publish _ _ => inferInstanceAs (Decidable (_ ≠ none ∧ ¬ _))
  | .attempt fault => inferInstanceAs (Decidable (∃ p ∈ s.handling, GivesUp D s fault p))
  | .drop => inferInstanceAs (Decidable (_ ≠ []))
  | .crash | .connect => inferInstanceAs (Decidable (_ ++ _ ≠ []))
  | .send | .take | .subscribe | .outage | .recovery => isFalse id

def Deployment.Entered (D : Deployment) (db : PgState) (event : ReadingEvent) : Prop :=
  ∃ w, D.Bound event w ∧ w.apply db = db

/-- The system as a channel. What it carries are the events on their way; one in hand that has been
committed, by an attempt whose report got lost, has arrived already. -/
structure Represents (D : Deployment) (s : System) (ch : Channel ReadingEvent) : Prop where
  inv : Inv D s
  tables : D.Tables ch.arrived s.db
  committed : ∀ event, event ∈ s.committed ↔ event ∈ ch.arrived
  carried : ch.carried = s.inHand ++ s.behind D ∨
    ∃ p ∈ s.handling, ch.carried = s.behind D ∧ p.event ∈ ch.arrived ∧ D.Entered s.db p.event

private theorem represents_start (D : Deployment) : Represents D System.start Channel.idle where
  inv := inv_start D
  tables := ⟨[], .nil, rfl⟩
  committed _ := Iff.rfl
  carried := .inl rfl

namespace Represents

variable {D : Deployment} {s s' : System} {ch : Channel ReadingEvent}

private theorem of_same (h : Represents D s ch) (hinv : Inv D s') (hdb : s'.db = s.db)
    (hcommitted : s'.committed = s.committed) (hhandling : s'.handling = s.handling)
    (hbehind : s'.behind D = s.behind D) : Represents D s' ch where
  inv := hinv
  tables := hdb ▸ h.tables
  committed := hcommitted ▸ h.committed
  carried := by
    unfold System.inHand
    rw [hhandling, hbehind, hdb]
    exact h.carried

private theorem carried_of_idle (h : Represents D s ch) (hidle : s.handling = none) :
    ch.carried = s.behind D := by
  rcases h.carried with hcarried | ⟨p, hp, _⟩
  · rw [hcarried, System.inHand, hidle]
    rfl
  · rw [hidle] at hp
    cases hp

private theorem carried_sublist (h : Represents D s ch) :
    (s.behind D).Sublist ch.carried ∧ ch.carried.Sublist (s.inHand ++ s.behind D) := by
  rcases h.carried with hcarried | ⟨p, _, hcarried, _⟩
  · rw [hcarried]
    exact ⟨List.sublist_append_right _ _, List.Sublist.refl _⟩
  · rw [hcarried]
    exact ⟨List.Sublist.refl _, List.sublist_append_right _ _⟩

private theorem of_more (h : Represents D s ch) (hinv : Inv D s') (hdb : s'.db = s.db)
    (hcommitted : s'.committed = s.committed) (hhandling : s'.handling = s.handling)
    {more : List ReadingEvent} (hbehind : s'.behind D = s.behind D ++ more) :
    Represents D s' ⟨ch.carried ++ more, ch.arrived⟩ where
  inv := hinv
  tables := hdb ▸ h.tables
  committed := hcommitted ▸ h.committed
  carried := by
    unfold System.inHand
    rw [hhandling, hbehind, hdb]
    rcases h.carried with hcarried | ⟨p, hp, hcarried, hentered⟩
    · left
      rw [hcarried, List.append_assoc]
      rfl
    · exact .inr ⟨p, hp, congrArg (· ++ more) hcarried, hentered⟩

private theorem of_dropped (h : Represents D s ch) (hinv : Inv D s') (hdb : s'.db = s.db)
    (hcommitted : s'.committed = s.committed) (hidle : s'.handling = none)
    (hbehind : s'.behind D = []) : Represents D s' ⟨[], ch.arrived⟩ where
  inv := hinv
  tables := hdb ▸ h.tables
  committed := hcommitted ▸ h.committed
  carried := by
    left
    rw [System.inHand, hidle, hbehind]
    rfl

private theorem behind_publish {topic : String} {payload : List UInt8} (hinv : Inv D s)
    (hstep : step D s (.publish topic payload) = some s') :
    s'.behind D = s.behind D ++ Label.sends D (.publish topic payload) ∨
      (¬ s.Subscribed ∧ s'.behind D = s.behind D) := by
  obtain rfl := Option.some.inj hstep
  cases hb : s.session with
  | none =>
    right
    constructor
    · rintro ⟨b, hmem, _⟩
      rw [hb] at hmem
      cases hmem
    · simp [System.behind, System.queued, hb]
  | some b =>
    have hconnected : s.connected = true := by
      by_contra hoff
      rw [hinv.offline (Bool.not_eq_true _ ▸ hoff)] at hb
      cases hb
    by_cases hsubscribed : b.subscribed = true
    · left
      have hqueue : b.enqueue s.connected (D.publication topic payload) =
          { b with queue := b.queue ++ [D.publication topic payload] } := by
        simp [BrokerSession.enqueue, hsubscribed, hconnected]
      simp only [System.behind, System.queued, hb, Option.map_some, hqueue]
      rw [← List.append_assoc, List.filterMap_append, List.filterMap_cons, List.filterMap_nil,
        Label.sends]
      cases accepted D.py (D.publication topic payload) <;> rfl
    · right
      constructor
      · rintro ⟨b', hmem, hsub⟩
        rw [hb, Option.mem_some] at hmem
        exact hsubscribed (hmem ▸ hsub)
      · simp [System.behind, System.queued, hb, BrokerSession.enqueue, hsubscribed]

theorem publish (h : Represents D s ch) {topic : String} {payload : List UInt8}
    (hstep : step D s (.publish topic payload) = some s') :
    ∃ ch', Channel.Steps (Loses D s (.publish topic payload)) ch
      (Label.sends D (.publish topic payload)) ch' ∧ Represents D s' ch' := by
  have hinv := inv_step h.inv hstep
  obtain ⟨hdb, hcommitted, hhandling⟩ : s'.db = s.db ∧ s'.committed = s.committed ∧
      s'.handling = s.handling := by
    obtain rfl := Option.some.inj hstep
    exact ⟨rfl, rfl, rfl⟩
  have hput : Channel.Steps (Loses D s (.publish topic payload)) ch
      (Label.sends D (.publish topic payload))
      ⟨ch.carried ++ Label.sends D (.publish topic payload), ch.arrived⟩ :=
    Channel.putAll ch.carried ch.arrived _
  rcases behind_publish h.inv hstep with hbehind | ⟨hnone, hbehind⟩
  · exact ⟨_, hput, h.of_more hinv hdb hcommitted hhandling hbehind⟩
  · refine ⟨ch, ?_, h.of_same hinv hdb hcommitted hhandling hbehind⟩
    have hloses : ch.carried ≠ ch.carried ++ Label.sends D (.publish topic payload) →
        Loses D s (.publish topic payload) := by
      intro hne
      refine ⟨fun hrejected => hne ?_, hnone⟩
      rw [Label.sends, hrejected]
      exact (List.append_nil _).symm
    have hlost := (Channel.lose_or_keep ch.arrived
      (List.sublist_append_left ch.carried (Label.sends D (.publish topic payload)))).mono hloses
    rw [← List.append_nil (Label.sends D _)]
    exact hput.trans hlost

/-! ## The write in hand -/

private theorem entered_again {event : ReadingEvent} {fault : Fault PyException} {db : PgState}
    (h : D.Entered db event) : (D.database.writeOnce event fault db).state = db := by
  rcases writeOnce_cases D.database event fault db with ⟨_, pg, w, hpool, hw, happ⟩ | ⟨_, hs, _⟩
  · obtain ⟨v, ⟨pg', hpool', hv⟩, hsame⟩ := h
    obtain rfl := Option.some.inj (hpool.symm.trans hpool')
    rw [happ, hw.unique hv, hsame]
  · exact hs

theorem attempted (h : Represents D s ch) (fault : Fault PyException) {p : InProgress}
    (hp : s.handling = some p) :
    ∃ ch', Channel.Steps False ch [] ch' ∧ D.Tables ch'.arrived (s.attempted D fault p).db ∧
      (∀ event, event ∈ (s.attempted D fault p).committed ↔ event ∈ ch'.arrived) ∧
      ((ch'.carried = p.event :: s.behind D ∧
          D.database.report p.event (s.faultOf fault) ≠ .ok ()) ∨
        (ch'.carried = s.behind D ∧ p.event ∈ ch'.arrived ∧
          D.Entered (s.attempted D fault p).db p.event)) := by
  obtain ⟨carried, arrived⟩ := ch
  obtain ⟨ws, hws, hdb⟩ := h.tables
  have hcommitted : ∀ committed, (D.database.writeOnce p.event (s.faultOf fault) s.db).committed =
      committed → (s.attempted D fault p).committed =
        s.committed ++ if committed then [p.event] else [] := by
    rintro _ rfl
    rfl
  rcases h.carried with hcarried | ⟨p', hp', hcarried, harrived, hentered⟩
  · rw [System.inHand, hp] at hcarried
    obtain rfl : carried = p.event :: s.behind D := hcarried
    rcases writeOnce_cases D.database p.event (s.faultOf fault) s.db with
      ⟨hc, pg, w, hpool, hw, happ⟩ | ⟨hc, hs, hfailed⟩
    · refine ⟨⟨s.behind D, arrived ++ [p.event]⟩, (Channel.Moves.arrive _ _ _).steps,
        ⟨ws ++ [w], List.rel_append hws (.cons ⟨pg, hpool, hw⟩ .nil), ?_⟩, ?_,
        .inr ⟨rfl, by simp, w, ⟨pg, hpool, hw⟩, ?_⟩⟩
      · rw [replay_append, ← hdb]
        exact happ
      · intro event
        rw [hcommitted true hc, if_pos rfl, List.mem_append, List.mem_append, h.committed]
      · change w.apply (D.database.writeOnce p.event (s.faultOf fault) s.db).state = _
        rw [happ, w.apply_apply]
        exact happ.symm
    · refine ⟨_, .refl _, ⟨ws, hws, hs.trans hdb⟩, ?_, .inl ⟨rfl, hfailed⟩⟩
      intro event
      rw [hcommitted false hc, if_neg Bool.false_ne_true, List.append_nil, h.committed]
  · obtain rfl : p = p' := Option.some.inj (hp.symm.trans hp')
    have hsame : (s.attempted D fault p).db = s.db := entered_again hentered
    refine ⟨_, .refl _, ⟨ws, hws, hsame.trans hdb⟩, ?_,
      .inr ⟨hcarried, harrived, hsame.symm ▸ hentered⟩⟩
    intro event
    cases hc : (D.database.writeOnce p.event (s.faultOf fault) s.db).committed with
    | true =>
      rw [hcommitted true hc, if_pos rfl, List.mem_append, List.mem_singleton, h.committed]
      exact ⟨fun hor => hor.elim id fun heq => heq ▸ harrived, .inl⟩
    | false => rw [hcommitted false hc, if_neg Bool.false_ne_true, List.append_nil, h.committed]

end Represents

private theorem reports_or_givesUp {D : Deployment} {s s' : System} {fault : Fault PyException}
    (h : stepAttempt D s fault = some s') {p : InProgress} (hp : s.handling = some p)
    (hdone : s'.handling = none) :
    D.database.report p.event (s.faultOf fault) = .ok () ∨ GivesUp D s fault p := by
  obtain ⟨p', hp', ⟨loop, _, rfl⟩ | ⟨r, hbody, _, rfl⟩⟩ := stepAttempt_rounds h
  · cases hdone
  obtain rfl : p = p' := Option.some.inj (hp.symm.trans hp')
  obtain ⟨_, _, _, hends⟩ := writeEventBody_leave hbody
  rw [writeOnce_report] at hends
  rcases hends with ⟨hok, _⟩ | ⟨exc, hexc, _, hmax, _⟩ | ⟨exc, hexc, hfatal, _⟩
  · exact .inl hok
  · exact .inr ⟨by simp [hexc], fun _ => hmax⟩
  · refine .inr ⟨by simp [hexc], ?_⟩
    rintro ⟨exc', hexc', hretry⟩
    rw [hexc, Except.error.injEq] at hexc'
    rw [hexc', hretry] at hfatal
    cases hfatal

theorem queued_acknowledge (s : System) (acks : List (Nat × Nat)) :
    (s.acknowledge acks).queued = s.queued := by
  unfold System.acknowledge System.queued
  cases s.session <;> cases s.connected <;> rfl

private theorem behind_finish {D : Deployment} (s : System) (message : Message)
    (acks : List (Nat × Nat)) : (s.finish message acks).behind D = s.behind D := by
  unfold System.behind
  exact congrArg (fun queue => (s.inbox ++ queue).filterMap _) (queued_acknowledge s acks)

namespace Represents

variable {D : Deployment} {s s' : System} {ch : Channel ReadingEvent}

theorem attempt (h : Represents D s ch) {fault : Fault PyException}
    (hstep : step D s (.attempt fault) = some s') :
    ∃ ch', Channel.Steps (Loses D s (.attempt fault)) ch [] ch' ∧ Represents D s' ch' := by
  have hinv := inv_step h.inv hstep
  obtain ⟨p, hp, hcases⟩ := stepAttempt_cases hstep
  obtain ⟨ch', hsteps, htables, hcommitted, hcarried⟩ := h.attempted fault hp
  have hmoves : Channel.Steps (Loses D s (.attempt fault)) ch [] ch' := hsteps.mono False.elim
  by_cases hdone : s'.handling = none
  · have hfinished : ∃ acks, s' = (s.attempted D fault p).finish p.message acks := by
      rcases hcases with ⟨loop, rfl⟩ | ⟨_, hs'⟩ | ⟨_, hs'⟩
      · cases hdone
      · exact ⟨_, hs'⟩
      · exact ⟨_, hs'⟩
    have hends := reports_or_givesUp hstep hp hdone
    obtain ⟨acks, rfl⟩ := hfinished
    have hbehind : ((s.attempted D fault p).finish p.message acks).behind D = s.behind D :=
      behind_finish _ _ _
    rcases hcarried with ⟨hcarried, hfailed⟩ | ⟨hcarried, _⟩
    · -- The event is given up: it leaves the channel without having arrived.
      have hgivesUp : GivesUp D s fault p := hends.resolve_left hfailed
      obtain ⟨carried, arrived⟩ := ch'
      obtain rfl : carried = p.event :: s.behind D := hcarried
      refine ⟨⟨s.behind D, arrived⟩, ?_, hinv, htables, hcommitted, .inl hbehind.symm⟩
      have hlose : Channel.Moves (Loses D s (.attempt fault)) _ [] ⟨s.behind D, arrived⟩ :=
        .lose arrived ⟨p, hp, hgivesUp⟩ (List.sublist_cons_self p.event (s.behind D))
      exact hmoves.tail hlose
    · exact ⟨ch', hmoves, hinv, htables, hcommitted, .inl (hcarried.trans hbehind.symm)⟩
  · have hstays : ∃ loop, s' = { s.attempted D fault p with
        handling := some { p with loop := loop } } := by
      rcases hcases with hloop | ⟨_, rfl⟩ | ⟨_, rfl⟩
      · exact hloop
      · exact absurd rfl hdone
      · exact absurd rfl hdone
    obtain ⟨loop, rfl⟩ := hstays
    refine ⟨ch', hmoves, hinv, htables, hcommitted, ?_⟩
    rcases hcarried with ⟨hcarried, _⟩ | ⟨hcarried, hentered⟩
    · exact .inl hcarried
    · exact .inr ⟨_, rfl, hcarried, hentered⟩

/-! ## The other steps -/

theorem send (h : Represents D s ch) (hstep : step D s .send = some s') : Represents D s' ch := by
  have hinv := inv_step h.inv hstep
  obtain ⟨_, b, message, rest, hb, hq, hsent⟩ := stepSend_cases hstep
  -- A message id is no part of what validates.
  have hmoved : ∀ sent : Message, accepted D.py sent = accepted D.py message →
      (s.inbox ++ [sent] ++ rest).filterMap (accepted D.py) = s.behind D := by
    intro sent hsame
    simp only [System.behind, System.queued, hb, hq, List.filterMap_append, List.filterMap_cons,
      List.filterMap_nil, hsame]
    cases accepted D.py message <;> simp
  rcases hsent with ⟨_, rfl⟩ | ⟨_, _, rfl⟩
  · exact h.of_same hinv rfl rfl rfl (hmoved message rfl)
  · exact h.of_same hinv rfl rfl rfl (hmoved _ rfl)

theorem take (h : Represents D s ch) (hstep : step D s .take = some s') : Represents D s' ch := by
  have hinv := inv_step h.inv hstep
  obtain ⟨hidle, message, rest, hinbox, htaken⟩ := stepTake_cases hstep
  have hcarried := h.carried_of_idle hidle
  rw [System.behind, hinbox, List.cons_append] at hcarried
  rcases htaken with ⟨event, ha, rfl⟩ | ⟨ha, rfl⟩
  · rw [List.filterMap_cons_some ha] at hcarried
    exact ⟨hinv, h.tables, h.committed, .inl hcarried⟩
  · rw [List.filterMap_cons_none ha] at hcarried
    have hhand :
        ({ s with inbox := rest }.acknowledge [(message.mid, message.qos)]).inHand = [] := by
      change (s.handling.map InProgress.event).toList = []
      rw [hidle]
      rfl
    refine ⟨hinv, h.tables, h.committed, .inl ?_⟩
    rw [hcarried, hhand, System.behind, queued_acknowledge]
    rfl

theorem drop (h : Represents D s ch) (hstep : step D s .drop = some s') :
    ∃ ch', Channel.Steps (Loses D s .drop) ch [] ch' ∧ Represents D s' ch' := by
  have hinv := inv_step h.inv hstep
  obtain ⟨_, rfl⟩ := stepDrop_cases hstep
  have hbehind : (s.disconnect D).behind D = s.inbox.filterMap (accepted D.py) := by
    simp [System.behind, System.queued, System.disconnect]
  have hall : s.behind D =
      (s.disconnect D).behind D ++ s.queued.filterMap (accepted D.py) := by
    rw [hbehind, System.behind, List.filterMap_append]
  obtain ⟨carried, arrived⟩ := ch
  have hloses : ∀ kept : List ReadingEvent, carried = kept ++ s.queued.filterMap (accepted D.py) →
      Channel.Steps (Loses D s .drop) ⟨carried, arrived⟩ [] ⟨kept, arrived⟩ := by
    rintro kept rfl
    refine (Channel.lose_or_keep arrived (List.sublist_append_left kept _)).mono fun hne hnil => ?_
    exact hne (by rw [hnil, List.append_nil])
  rcases h.carried with hcarried | ⟨p, hp, hcarried, hentered⟩
  · rw [hall, ← List.append_assoc] at hcarried
    exact ⟨⟨_, arrived⟩, hloses _ hcarried, hinv, h.tables, h.committed, .inl rfl⟩
  · rw [hall] at hcarried
    exact ⟨⟨_, arrived⟩, hloses _ hcarried, hinv, h.tables, h.committed,
      .inr ⟨p, hp, rfl, hentered⟩⟩

private theorem dropped (h : Represents D s ch) (hinv : Inv D s') (hdb : s'.db = s.db)
    (hcommitted : s'.committed = s.committed) (hidle : s'.handling = none)
    (hbehind : s'.behind D = []) :
    ∃ ch', Channel.Steps (s.inHand ++ s.behind D ≠ []) ch [] ch' ∧ Represents D s' ch' := by
  refine ⟨⟨[], ch.arrived⟩, ?_, h.of_dropped hinv hdb hcommitted hidle hbehind⟩
  refine (Channel.lose_or_keep ch.arrived (List.nil_sublist ch.carried)).mono fun hne hnil => ?_
  have hsub := h.carried_sublist.2
  rw [hnil] at hsub
  exact hne (List.sublist_nil.mp hsub).symm

/-- Each step of the system is a number of moves of the channel. -/
theorem step (h : Represents D s ch) {a : Label} (hstep : Ingestion.step D s a = some s') :
    ∃ ch', Channel.Steps (Loses D s a) ch (a.sends D) ch' ∧ Represents D s' ch' := by
  have hinv := inv_step h.inv hstep
  cases a with
  | publish topic payload => exact h.publish hstep
  | send => exact ⟨ch, .refl ch, h.send hstep⟩
  | take => exact ⟨ch, .refl ch, h.take hstep⟩
  | attempt fault => exact h.attempt hstep
  | drop => exact h.drop hstep
  | crash =>
    obtain rfl := (Option.some.inj hstep).symm
    exact h.dropped hinv rfl rfl rfl (by simp [System.behind, System.queued, System.disconnect])
  | connect =>
    obtain ⟨_, hidle, rfl⟩ := stepConnect_cases hstep
    exact h.dropped hinv rfl rfl hidle (by simp [System.behind, System.queued, BrokerSession.fresh])
  | subscribe =>
    obtain ⟨_, rfl⟩ := stepSubscribe_cases hstep
    refine ⟨ch, .refl ch, h.of_same hinv rfl rfl rfl ?_⟩
    unfold System.behind System.queued
    cases s.session <;> rfl
  | outage =>
    obtain rfl := (Option.some.inj hstep).symm
    exact ⟨ch, .refl ch, h.of_same hinv rfl rfl rfl rfl⟩
  | recovery =>
    obtain rfl := (Option.some.inj hstep).symm
    exact ⟨ch, .refl ch, h.of_same hinv rfl rfl rfl rfl⟩

end Represents

/-- Each run of the system is a run of the channel. -/
theorem run_represents {D : Deployment} {labels : List Label} {s : System} (lossy : Prop)
    (hlossy : Along (step D) (fun s a => Loses D s a → lossy) System.start labels)
    (hrun : run (step D) System.start labels = some s) :
    ∃ ch, Channel.Steps lossy Channel.idle (labels.flatMap (Label.sends D)) ch ∧
      Represents D s ch :=
  Channel.run_steps (fun _ _ _ _ h hstep => h.step hstep) (represents_start D) hlossy hrun

/-- The tables are always what a subsequence of the published events makes of empty ones, each of
them entered once and in the order of publication; and these are the committed events. -/
theorem tables_follow_published {D : Deployment} {labels : List Label} {s : System}
    (hrun : run (step D) System.start labels = some s) :
    ∃ events, events.Sublist (labels.flatMap (Label.sends D)) ∧ D.Tables events s.db ∧
      ∀ event, event ∈ s.committed ↔ event ∈ events := by
  obtain ⟨ch, hsteps, hrep⟩ := run_represents True
    (along_of_forall (fun _ _ _ => trivial) _ _) hrun
  refine ⟨ch.arrived, ?_, hrep.tables, hrep.committed⟩
  exact (List.sublist_append_left _ _).trans hsteps.content_sublist

/-- The report of the first commit is lost, the second attempt commits the event once more, and the
connection drops with a second message in the queue. -/
theorem tables_follow_published_retried : ∃ s,
    run (step (localDeployment 20 (by decide))) System.start
      [.connect, .subscribe, publishPh, .send, .take, .attempt (.afterCommit .connectionError),
        .attempt .none, publishPh, .drop] = some s ∧
    s.committed.length = 2 ∧
      ∃ events, events.length ≤ 2 ∧ (localDeployment 20 (by decide)).Tables events s.db ∧
        ∀ event, event ∈ s.committed ↔ event ∈ events := by
  obtain ⟨s, hrun, hlength⟩ : ∃ s, run (step (localDeployment 20 (by decide))) System.start
      [.connect, .subscribe, publishPh, .send, .take, .attempt (.afterCommit .connectionError),
        .attempt .none, publishPh, .drop] = some s ∧ s.committed.length = 2 := ⟨_, rfl, rfl⟩
  obtain ⟨events, hsub, htables, hcommitted⟩ := tables_follow_published hrun
  exact ⟨s, hrun, hlength, events, hsub.length_le, htables, hcommitted⟩

/-- In a run that loses nothing the tables are what a prefix of the published events makes of empty
ones, and what the prefix leaves out is on its way. -/
theorem tables_prefix_of_published {D : Deployment} {labels : List Label} {s : System}
    (hkeeps : Along (step D) (fun s a => ¬ Loses D s a) System.start labels)
    (hrun : run (step D) System.start labels = some s) :
    ∃ events rest, labels.flatMap (Label.sends D) = events ++ rest ∧ D.Tables events s.db ∧
      (s.behind D).Sublist rest ∧ rest.Sublist (s.inHand ++ s.behind D) := by
  obtain ⟨ch, hsteps, hrep⟩ := run_represents False hkeeps hrun
  exact ⟨ch.arrived, ch.carried, hsteps.content_eq.symm, hrep.tables, hrep.carried_sublist⟩

/-- One of two published events has been entered, the other one waits to be sent. -/
theorem tables_prefix_of_published_partly : ∃ s,
    run (step (localDeployment 20 (by decide))) System.start
      [.connect, .subscribe, publishPh, publishPh, .send, .take, .attempt .none] = some s ∧
    ∃ events rest : List ReadingEvent, events.length + rest.length = 2 ∧
      (localDeployment 20 (by decide)).Tables events s.db ∧
      rest.Sublist (s.inHand ++ s.behind (localDeployment 20 (by decide))) := by
  let labels : List Label :=
    [.connect, .subscribe, publishPh, publishPh, .send, .take, .attempt .none]
  obtain ⟨s, hrun⟩ : ∃ s, run (step (localDeployment 20 (by decide))) System.start labels =
      some s := ⟨_, rfl⟩
  have hkeeps : Along (step (localDeployment 20 (by decide)))
      (fun s a => ¬ Loses (localDeployment 20 (by decide)) s a) System.start labels := by
    decide +kernel
  obtain ⟨events, rest, hsent, htables, _, hrest⟩ := tables_prefix_of_published hkeeps hrun
  have hlength := congrArg List.length hsent
  rw [List.length_append] at hlength
  exact ⟨s, hrun, events, rest, hlength.symm, htables, hrest⟩

/-- With nothing lost and nothing on its way, the tables are those of all published events. -/
theorem tables_of_arrived {D : Deployment} {labels : List Label} {s : System}
    (hkeeps : Along (step D) (fun s a => ¬ Loses D s a) System.start labels)
    (hrun : run (step D) System.start labels = some s) (hdone : s.inHand ++ s.behind D = []) :
    D.Tables (labels.flatMap (Label.sends D)) s.db := by
  obtain ⟨ch, hsteps, hrep⟩ := run_represents False hkeeps hrun
  have hcarried : ch.carried = [] := by
    have hsub := hrep.carried_sublist.2
    rw [hdone] at hsub
    exact List.sublist_nil.mp hsub
  have hall : ch.arrived = labels.flatMap (Label.sends D) := by
    have hcontent := hsteps.content_eq
    rw [Channel.content, hcarried, List.append_nil] at hcontent
    exact hcontent
  rw [← hall]
  exact hrep.tables

/-! ## Where the tables come from -/

def Published (D : Deployment) (labels : List Label) (event : ReadingEvent) : Prop :=
  ∃ topic payload, .publish topic payload ∈ labels ∧
    ReadingEvent.modelValidateJson D.py payload = .ok event

private theorem published_of_sent {D : Deployment} {labels : List Label} {event : ReadingEvent}
    (h : event ∈ labels.flatMap (Label.sends D)) : Published D labels event := by
  obtain ⟨a, ha, hsent⟩ := List.mem_flatMap.mp h
  cases a with
  | publish topic payload =>
    refine ⟨topic, payload, ha, ?_⟩
    rw [Label.sends, Option.mem_toList] at hsent
    change (ReadingEvent.modelValidateJson D.py payload).toOption = some event at hsent
    cases hvalid : ReadingEvent.modelValidateJson D.py payload with
    | ok accepted =>
      rw [hvalid] at hsent
      exact congrArg Except.ok (Option.some.inj hsent)
    | error err =>
      rw [hvalid] at hsent
      cases hsent
  | _ => cases hsent

theorem Deployment.Tables.commitEvents {D : Deployment} {events : List ReadingEvent}
    {db : PgState} (h : D.Tables events db) {pg : Asyncpg} (hpool : D.database.pool = some pg) :
    Ingestion.commitEvents pg events PgState.empty = .ok db := by
  obtain ⟨ws, hws, hdb⟩ := h
  refine commitEvents_ok.mpr ⟨ws, hws.imp ?_, hdb⟩
  rintro event w ⟨pg', hpool', hbinds⟩
  obtain rfl := Option.some.inj (hpool.symm.trans hpool')
  exact hbinds

theorem Deployment.Tables.of_unconnected {D : Deployment} {events : List ReadingEvent}
    {db : PgState} (h : D.Tables events db) (hpool : D.database.pool = none) :
    events = [] ∧ db = PgState.empty := by
  obtain ⟨ws, hws, rfl⟩ := h
  cases hws with
  | nil => exact ⟨rfl, rfl⟩
  | cons hbound _ =>
    obtain ⟨pg, hpool', _⟩ := hbound
    rw [hpool] at hpool'
    cases hpool'

theorem tables_of_published {D : Deployment} {labels : List Label} {s : System}
    (hrun : run (step D) System.start labels = some s) :
    s.db = PgState.empty ∨ ∃ pg events, D.database.pool = some pg ∧
      Ingestion.commitEvents pg events PgState.empty = .ok s.db ∧
      ∀ event ∈ events, Published D labels event := by
  obtain ⟨ch, hsteps, hrep⟩ := run_represents True
    (along_of_forall (fun _ _ _ => trivial) _ _) hrun
  cases hpool : D.database.pool with
  | none => exact .inl (hrep.tables.of_unconnected hpool).2
  | some pg =>
    refine .inr ⟨pg, ch.arrived, rfl, hrep.tables.commitEvents hpool, ?_⟩
    intro event hevent
    have hsub := (List.sublist_append_left _ _).trans hsteps.content_sublist
    exact published_of_sent (hsub.subset hevent)

end OpenWater.Ingestion
