import OpenWater.Framework.Run
import OpenWater.Ingestion.Mqtt

/-!
# The service and its broker

Devices, the MQTT broker's session for the subscriber, the subscriber and the database as one
transition system. The broker follows MQTT 3.1.1: it keeps what a subscribed session has not
acknowledged, has at most `window` such messages outstanding on a connection, sends one again on a
new connection only, and discards a clean session with its connection. The subscriber handles one
message at a time, attempt by attempt.
-/

namespace OpenWater.Ingestion

open Framework

/-- `aiomqtt.Client` opens a clean session unless it is told otherwise. -/
def ClientOptions.isClean (options : ClientOptions) : Bool := options.cleanSession.getD true

structure Deployment where
  py : Pydantic
  database : Database
  window : Nat
  window_pos : 1 ≤ window

namespace Deployment

def clean (D : Deployment) : Bool := (clientOptions D.database.settings).isClean

/-- The QoS at which a message published at QoS 1 reaches the subscriber. -/
def qos (D : Deployment) : Nat := min 1 D.database.settings.mqttQos

def publication (D : Deployment) (topic : String) (payload : List UInt8) : Message :=
  ⟨topic, .bytes payload, 0, D.qos⟩

@[simp] theorem clean_eq (D : Deployment) : D.clean = true := rfl

end Deployment

/-- What the broker keeps for the subscriber: messages to be sent, and messages sent and not
acknowledged. -/
structure BrokerSession where
  subscribed : Bool
  queue : List Message
  inflight : List Message

namespace BrokerSession

def fresh : BrokerSession := ⟨false, [], []⟩

def enqueue (connected : Bool) (message : Message) (b : BrokerSession) : BrokerSession :=
  if b.subscribed && (decide (1 ≤ message.qos) || connected) then
    { b with queue := b.queue ++ [message] }
  else b

def acknowledge (acks : List (Nat × Nat)) (b : BrokerSession) : BrokerSession :=
  { b with inflight := b.inflight.filter fun m => !acks.contains (m.mid, m.qos) }

/-- A session that survives its connection has its unacknowledged messages to send again. -/
def requeue (b : BrokerSession) : BrokerSession :=
  { b with queue := b.inflight ++ b.queue, inflight := [] }

end BrokerSession

/-- The message in `_handle_message`, and where its `write_event` stands. -/
structure InProgress where
  message : Message
  event : ReadingEvent
  loop : WriteLoop

structure System where
  db : PgState
  dbUp : Bool
  connected : Bool
  session : Option BrokerSession
  everSubscribed : Bool
  nextMid : Nat
  /-- Messages aiomqtt has received and not handed over. -/
  inbox : List Message
  handling : Option InProgress
  /-- Messages `_handle_message` returned from without an ack, on this connection. -/
  givenUp : List Message
  published : List ReadingEvent
  committed : List ReadingEvent

inductive Label where
  | publish (topic : String) (payload : List UInt8)
  | send
  | take
  | attempt (fault : Fault PyException)
  | drop
  | crash
  | connect
  | subscribe
  | outage
  | recovery

namespace System

def start : System where
  db := PgState.empty
  dbUp := true
  connected := false
  session := none
  everSubscribed := false
  nextMid := 1
  inbox := []
  handling := none
  givenUp := []
  published := []
  committed := []

def held (D : Deployment) (s : System) : List ReadingEvent :=
  match s.session with
  | none => []
  | some b => (b.queue ++ b.inflight).filterMap (accepted D.py)

def acknowledge (acks : List (Nat × Nat)) (s : System) : System :=
  { s with
    session := if s.connected then s.session.map (BrokerSession.acknowledge acks) else s.session }

def disconnect (D : Deployment) (s : System) : System :=
  { s with
    connected := false
    session := if D.clean then none else s.session.map BrokerSession.requeue }

/-- What happens to an attempt: during an outage the connection is refused. -/
def faultOf (s : System) (fault : Fault PyException) : Fault PyException :=
  if s.dbUp then fault else .before 0 .connectionError

def attempted (D : Deployment) (s : System) (fault : Fault PyException) (p : InProgress) :
    System :=
  let once := D.database.writeOnce p.event (s.faultOf fault) s.db
  { s with
    db := once.state
    committed := s.committed ++ if once.committed then [p.event] else [] }

def finish (s : System) (message : Message) (acks : List (Nat × Nat)) : System :=
  { s.acknowledge acks with
    handling := none
    givenUp := if acks.isEmpty then s.givenUp ++ [message] else s.givenUp }

end System

/-- The next message of the queue goes out, a QoS 1 message only into a free slot of the window. -/
def stepSend (D : Deployment) (s : System) : Option System :=
  match s.connected, s.session with
  | true, some b =>
    match b.queue with
    | [] => none
    | message :: rest =>
      if message.qos = 0 then
        some { s with session := some { b with queue := rest }, inbox := s.inbox ++ [message] }
      else if b.inflight.length < D.window then
        let sent := { message with mid := s.nextMid }
        some { s with
          session := some { b with queue := rest, inflight := b.inflight ++ [sent] }
          inbox := s.inbox ++ [sent]
          nextMid := s.nextMid + 1 }
      else none
  | _, _ => none

/-- `async for` hands over the next message; one whose payload does not validate is done with at
once. -/
def stepTake (D : Deployment) (s : System) : Option System :=
  match s.handling, s.inbox with
  | none, message :: rest =>
    match accepted D.py message with
    | some event =>
      some { s with
        inbox := rest
        handling := some ⟨message, event, D.database.writeEventStart s.db⟩ }
    | none =>
      let h := handleMessage D.py message D.database.handler (fun _ => .none) s.db
      some ({ s with inbox := rest, db := h.state }.acknowledge
        (h.effects.filterMap Effect.acked?))
  | _, _ => none

/-- One round of `write_event`'s loop, and the end of `_handle_message` after the last one. A
cancelled attempt is part of `crash`. -/
def stepAttempt (D : Deployment) (s : System) (fault : Fault PyException) : Option System :=
  match s.handling with
  | none => none
  | some p =>
    match D.database.writeEventBody p.event (fun _ => s.faultOf fault)
        { p.loop with state := s.db } with
    | .inl loop => some { s.attempted D fault p with handling := some { p with loop := loop } }
    | .inr r =>
      let h := dispatch p.message p.event ⟨r.outcome, r.state, r.effects.map .write⟩
      match h.raised with
      | some _ => none
      | none => some ((s.attempted D fault p).finish p.message (h.effects.filterMap Effect.acked?))

def step (D : Deployment) (s : System) : Label → Option System
  | .publish topic payload =>
    let message := D.publication topic payload
    some { s with
      session := s.session.map (BrokerSession.enqueue s.connected message)
      published := s.published ++
        if s.everSubscribed then (accepted D.py message).toList else [] }
  | .send => stepSend D s
  | .take => stepTake D s
  | .attempt fault => stepAttempt D s fault
  | .drop => if s.connected then some (s.disconnect D) else none
  | .crash => some { s.disconnect D with inbox := [], handling := none, givenUp := [] }
  | .connect =>
    if s.connected || s.handling.isSome then none
    else some { s with
      connected := true
      session := some (if D.clean then .fresh else s.session.getD .fresh)
      inbox := []
      givenUp := [] }
  | .subscribe =>
    if s.connected then some { s with
      session := s.session.map fun b => { b with subscribed := true }
      everSubscribed := true }
    else none
  | .outage => some { s with dbUp := false }
  | .recovery => some { s with dbUp := true }

/-! ## What a step can do -/

/-- The attempt fails, and there is none after it: its error is not worth another one, or the
budget is used up. -/
def GivesUp (D : Deployment) (s : System) (fault : Fault PyException) (p : InProgress) : Prop :=
  D.database.report p.event (s.faultOf fault) ≠ .ok () ∧
    (D.database.Retryable p.event (s.faultOf fault) →
      D.database.settings.dbWriteMaxAttempts ≤ p.loop.attempt + 1)

instance (D : Deployment) (s : System) (fault : Fault PyException) (p : InProgress) :
    Decidable (GivesUp D s fault p) :=
  inferInstanceAs (Decidable (_ ∧ _))

theorem stepAttempt_rounds {D : Deployment} {s s' : System} {fault : Fault PyException}
    (h : stepAttempt D s fault = some s') :
    ∃ p, s.handling = some p ∧
      ((∃ loop, D.database.writeEventBody p.event (fun _ => s.faultOf fault)
            { p.loop with state := s.db } = .inl loop ∧
          s' = { s.attempted D fault p with handling := some { p with loop := loop } }) ∨
        ∃ r, D.database.writeEventBody p.event (fun _ => s.faultOf fault)
            { p.loop with state := s.db } = .inr r ∧
          let h := dispatch p.message p.event ⟨r.outcome, r.state, r.effects.map .write⟩
          h.raised = none ∧
            s' = (s.attempted D fault p).finish p.message (h.effects.filterMap Effect.acked?)) := by
  unfold stepAttempt at h
  cases hp : s.handling with
  | none => simp [hp] at h
  | some p =>
    refine ⟨p, rfl, ?_⟩
    simp only [hp] at h
    cases hbody : D.database.writeEventBody p.event (fun _ => s.faultOf fault)
        { p.loop with state := s.db } with
    | inl loop =>
      simp only [hbody, Option.some.injEq] at h
      exact .inl ⟨loop, rfl, h.symm⟩
    | inr r =>
      simp only [hbody] at h
      cases hraised : (dispatch p.message p.event ⟨r.outcome, r.state,
          r.effects.map .write⟩).raised with
      | some exc => simp [hraised] at h
      | none =>
        simp only [hraised, Option.some.injEq] at h
        exact .inr ⟨r, rfl, hraised, h.symm⟩

/-- An attempt leaves the event in progress for another one, or commits it and acks its message, or
gives its message up. -/
theorem stepAttempt_cases {D : Deployment} {s s' : System} {fault : Fault PyException}
    (h : stepAttempt D s fault = some s') :
    ∃ p, s.handling = some p ∧
      ((∃ loop, s' = { s.attempted D fault p with handling := some { p with loop := loop } }) ∨
        (p.event ∈ (s.attempted D fault p).committed ∧
          s' = (s.attempted D fault p).finish p.message [(p.message.mid, p.message.qos)]) ∨
        (GivesUp D s fault p ∧ s' = (s.attempted D fault p).finish p.message [])) := by
  obtain ⟨p, hp, ⟨loop, _, hs'⟩ | ⟨r, hbody, _, hs'⟩⟩ := stepAttempt_rounds h
  · exact ⟨p, hp, .inl ⟨loop, hs'⟩⟩
  refine ⟨p, hp, .inr ?_⟩
  have hacked := dispatch_acked p.message p.event (r := ⟨r.outcome, r.state,
    r.effects.map .write⟩) (by simp [Effect.acked?])
  rw [hacked] at hs'
  obtain ⟨_, _, _, hends⟩ := writeEventBody_leave hbody
  rw [writeOnce_report] at hends
  by_cases ho : r.outcome = .returned
  · left
    rw [if_pos ho] at hs'
    have hreport : D.database.report p.event (s.faultOf fault) = .ok () := by
      rcases hends with ⟨hok, _⟩ | ⟨_, _, _, _, hne⟩ | ⟨_, _, _, hne⟩
      · exact hok
      · simp [ho] at hne
      · simp [ho] at hne
    refine ⟨?_, hs'⟩
    rcases writeOnce_cases D.database p.event (s.faultOf fault) s.db with ⟨hc, _⟩ | ⟨_, _, hne⟩
    · simp [System.attempted, hc]
    · exact absurd hreport hne
  · right
    rw [if_neg ho] at hs'
    refine ⟨⟨?_, ?_⟩, hs'⟩
    · intro hok
      rcases hends with ⟨_, hreturned⟩ | ⟨exc, hexc, _⟩ | ⟨exc, hexc, _⟩
      · exact ho hreturned
      · simp [hok] at hexc
      · simp [hok] at hexc
    · rintro ⟨exc, hexc, hretry⟩
      rcases hends with ⟨hok, _⟩ | ⟨_, _, _, hmax, _⟩ | ⟨exc', hexc', hfatal, _⟩
      · simp [hok] at hexc
      · exact hmax
      · rw [hexc', Except.error.injEq] at hexc
        simp [hexc, hretry] at hfatal

theorem stepSend_cases {D : Deployment} {s s' : System} (h : stepSend D s = some s') :
    s.connected = true ∧ ∃ b message rest, s.session = some b ∧ b.queue = message :: rest ∧
      ((message.qos = 0 ∧ s' = { s with
          session := some { b with queue := rest }, inbox := s.inbox ++ [message] }) ∨
        (message.qos ≠ 0 ∧ b.inflight.length < D.window ∧ s' = { s with
          session := some { b with
            queue := rest, inflight := b.inflight ++ [{ message with mid := s.nextMid }] }
          inbox := s.inbox ++ [{ message with mid := s.nextMid }]
          nextMid := s.nextMid + 1 })) := by
  unfold stepSend at h
  cases hc : s.connected with
  | false => simp [hc] at h
  | true =>
    cases hb : s.session with
    | none => simp [hc, hb] at h
    | some b =>
      cases hq : b.queue with
      | nil => simp [hc, hb, hq] at h
      | cons message rest =>
        refine ⟨rfl, b, message, rest, rfl, hq, ?_⟩
        simp only [hc, hb, hq] at h
        by_cases hqos : message.qos = 0
        · rw [if_pos hqos, Option.some.injEq] at h
          exact .inl ⟨hqos, h.symm⟩
        · rw [if_neg hqos] at h
          by_cases hroom : b.inflight.length < D.window
          · rw [if_pos hroom, Option.some.injEq] at h
            exact .inr ⟨hqos, hroom, h.symm⟩
          · rw [if_neg hroom] at h
            cases h

theorem stepTake_cases {D : Deployment} {s s' : System} (h : stepTake D s = some s') :
    s.handling = none ∧ ∃ message rest, s.inbox = message :: rest ∧
      ((∃ event, accepted D.py message = some event ∧ s' = { s with
            inbox := rest
            handling := some ⟨message, event, D.database.writeEventStart s.db⟩ }) ∨
        (accepted D.py message = none ∧
          s' = { s with inbox := rest }.acknowledge [(message.mid, message.qos)])) := by
  unfold stepTake at h
  cases hp : s.handling with
  | some p => simp [hp] at h
  | none =>
    cases hi : s.inbox with
    | nil => simp [hp, hi] at h
    | cons message rest =>
      refine ⟨rfl, message, rest, rfl, ?_⟩
      simp only [hp, hi] at h
      cases ha : accepted D.py message with
      | some event =>
        simp only [ha, Option.some.injEq] at h
        exact .inl ⟨event, rfl, by rw [← h]⟩
      | none =>
        obtain ⟨record, hrejected⟩ := handleMessage_rejected ha D.database.handler
          (fun _ => .none) s.db
        simp only [ha, hrejected, Option.some.injEq] at h
        exact .inr ⟨rfl, h.symm⟩

theorem stepDrop_cases {D : Deployment} {s s' : System} (h : step D s .drop = some s') :
    s.connected = true ∧ s' = s.disconnect D := by
  simp only [step, Option.ite_none_right_eq_some, Option.some.injEq] at h
  exact ⟨h.1, h.2.symm⟩

theorem stepConnect_cases {D : Deployment} {s s' : System} (h : step D s .connect = some s') :
    s.connected = false ∧ s.handling = none ∧ s' = { s with
      connected := true
      session := some (if D.clean then .fresh else s.session.getD .fresh)
      inbox := []
      givenUp := [] } := by
  simp only [step, Option.ite_none_left_eq_some, Option.some.injEq, Bool.or_eq_true, not_or,
    Bool.not_eq_true, Option.isSome_eq_false_iff, Option.isNone_iff_eq_none] at h
  exact ⟨h.1.1, h.1.2, h.2.symm⟩

theorem stepSubscribe_cases {D : Deployment} {s s' : System} (h : step D s .subscribe = some s') :
    s.connected = true ∧ s' = { s with
      session := s.session.map fun b => { b with subscribed := true }
      everSubscribed := true } := by
  simp only [step, Option.ite_none_right_eq_some, Option.some.injEq] at h
  exact ⟨h.1, h.2.symm⟩

/-! ## What every step keeps -/

/-- The messages aiomqtt has and the broker has seen no ack of, in the order they were sent. -/
def System.pending (s : System) : List Message :=
  s.givenUp ++ (s.handling.map InProgress.message).toList ++ s.inbox

/-- Broker and subscriber agree on what is outstanding. -/
structure Inv (D : Deployment) (s : System) : Prop where
  offline : s.connected = false → s.session = none
  inflight : ∀ b ∈ s.session, b.inflight = if D.qos = 0 then [] else s.pending
  increasing : D.qos ≠ 0 → (s.pending.map Message.mid).Pairwise (· < ·)
  below : D.qos ≠ 0 → ∀ m ∈ s.pending, m.mid < s.nextMid
  queued : ∀ b ∈ s.session, ∀ m ∈ b.queue, m.qos = D.qos
  handled : ∀ p ∈ s.handling, accepted D.py p.message = some p.event
  subscribed : ∀ b ∈ s.session, b.subscribed = true → s.everSubscribed = true
  published : ∀ event ∈ s.held D, event ∈ s.published

theorem inv_start (D : Deployment) : Inv D System.start := by
  constructor <;> simp [System.start, System.pending, System.held]

private theorem published_of_kept {D : Deployment} {s : System} (h : Inv D s) {b : BrokerSession}
    (hb : b ∈ s.session) {m : Message} (hm : m ∈ b.queue ++ b.inflight) {event : ReadingEvent}
    (ha : accepted D.py m = some event) : event ∈ s.published := by
  apply h.published
  rw [System.held, Option.mem_def.mp hb]
  exact List.mem_filterMap.mpr ⟨m, hm, ha⟩

private theorem inv_online {D : Deployment} {t : System} {b : BrokerSession}
    (hconnected : t.connected = true) (hsession : t.session = some b)
    (hinflight : b.inflight = if D.qos = 0 then [] else t.pending)
    (hincreasing : D.qos ≠ 0 → (t.pending.map Message.mid).Pairwise (· < ·))
    (hbelow : D.qos ≠ 0 → ∀ m ∈ t.pending, m.mid < t.nextMid)
    (hqueued : ∀ m ∈ b.queue, m.qos = D.qos)
    (hhandled : ∀ p ∈ t.handling, accepted D.py p.message = some p.event)
    (hsubscribed : b.subscribed = true → t.everSubscribed = true)
    (hpublished : ∀ event ∈ (b.queue ++ b.inflight).filterMap (accepted D.py),
      event ∈ t.published) : Inv D t := by
  have hb : ∀ b' ∈ t.session, b' = b := by
    intro b' hb'
    rw [hsession, Option.mem_some] at hb'
    exact hb'.symm
  refine ⟨?_, ?_, hincreasing, hbelow, ?_, hhandled, ?_, ?_⟩
  · intro hoff
    rw [hconnected] at hoff
    cases hoff
  · intro b' hb'
    rw [hb b' hb', hinflight]
  · intro b' hb'
    rw [hb b' hb']
    exact hqueued
  · intro b' hb'
    rw [hb b' hb']
    exact hsubscribed
  · rw [System.held, hsession]
    exact hpublished

theorem filter_ack {l r : List Message} {m : Message}
    (h : ((l ++ m :: r).map Message.mid).Pairwise (· < ·)) :
    (l ++ m :: r).filter (fun x => !([(m.mid, m.qos)].contains (x.mid, x.qos))) = l ++ r := by
  rw [List.map_append, List.map_cons, List.pairwise_append, List.pairwise_cons] at h
  have hl : ∀ x ∈ l, [(m.mid, m.qos)].contains (x.mid, x.qos) = false := by
    intro x hx
    have hlt := h.2.2 x.mid (List.mem_map_of_mem hx) m.mid List.mem_cons_self
    have hne : x.mid ≠ m.mid := by omega
    simp [hne]
  have hr : ∀ x ∈ r, [(m.mid, m.qos)].contains (x.mid, x.qos) = false := by
    intro x hx
    have hlt := h.2.1.1 x.mid (List.mem_map_of_mem hx)
    have hne : x.mid ≠ m.mid := by omega
    simp [hne]
  rw [List.filter_append, List.filter_cons_of_neg (by simp),
    List.filter_eq_self.mpr fun x hx => by rw [hl x hx, Bool.not_false],
    List.filter_eq_self.mpr fun x hx => by rw [hr x hx, Bool.not_false]]

private theorem inv_unchanged {D : Deployment} {s t : System} (h : Inv D s)
    (hpending : t.pending = s.pending) (hsession : t.session = s.session)
    (hconnected : t.connected = s.connected) (hnext : t.nextMid = s.nextMid)
    (hever : t.everSubscribed = s.everSubscribed) (hpub : t.published = s.published)
    (hhandled : ∀ p ∈ t.handling, accepted D.py p.message = some p.event) : Inv D t := by
  have hheld : t.held D = s.held D := by simp only [System.held, hsession]
  refine ⟨?_, ?_, ?_, ?_, ?_, hhandled, ?_, ?_⟩
  · rw [hconnected, hsession]
    exact h.offline
  · rw [hsession, hpending]
    exact h.inflight
  · rw [hpending]
    exact h.increasing
  · rw [hpending, hnext]
    exact h.below
  · rw [hsession]
    exact h.queued
  · rw [hsession, hever]
    exact h.subscribed
  · rw [hheld, hpub]
    exact h.published

private theorem inv_disconnected {D : Deployment} {s t : System} (h : Inv D s)
    (hpending : t.pending.Sublist s.pending) (hsession : t.session = none)
    (hnext : t.nextMid = s.nextMid)
    (hhandled : ∀ p ∈ t.handling, accepted D.py p.message = some p.event) : Inv D t := by
  refine ⟨fun _ => hsession, by simp [hsession], ?_, ?_, by simp [hsession], hhandled,
    by simp [hsession], by simp [System.held, hsession]⟩
  · exact fun hq => (h.increasing hq).sublist (hpending.map _)
  · exact fun hq x hx => hnext ▸ h.below hq x (hpending.subset hx)

private theorem inv_acked {D : Deployment} {s t : System} {l r : List Message} {m : Message}
    (h : Inv D s) (hpending : s.pending = l ++ m :: r) (hpending' : t.pending = l ++ r)
    (hsession : t.session = (s.acknowledge [(m.mid, m.qos)]).session)
    (hconnected : t.connected = s.connected) (hnext : t.nextMid = s.nextMid)
    (hever : t.everSubscribed = s.everSubscribed) (hpub : t.published = s.published)
    (hhandled : ∀ p ∈ t.handling, accepted D.py p.message = some p.event) : Inv D t := by
  have hsub : t.pending.Sublist s.pending := by
    rw [hpending, hpending']
    exact List.Sublist.append_left (List.sublist_cons_self m r) l
  rw [System.acknowledge] at hsession
  cases hs : s.session with
  | none =>
    refine inv_disconnected h hsub ?_ hnext hhandled
    rw [hsession, hs]
    split <;> rfl
  | some b =>
    have hc : s.connected = true := by
      cases hc : s.connected with
      | true => rfl
      | false => simp [h.offline hc] at hs
    rw [if_pos hc, hs, Option.map_some] at hsession
    refine inv_online (hconnected.trans hc) hsession ?_ ?_ ?_ (h.queued b hs) hhandled ?_ ?_
    · change b.inflight.filter _ = _
      rw [h.inflight b hs]
      by_cases hq : D.qos = 0
      · simp [hq]
      · rw [if_neg hq, if_neg hq, hpending, hpending']
        exact filter_ack (hpending ▸ h.increasing hq)
    · exact fun hq => (h.increasing hq).sublist (hsub.map _)
    · exact fun hq x hx => hnext ▸ h.below hq x (hsub.subset hx)
    · exact fun hsub => hever ▸ h.subscribed b hs hsub
    · intro event he
      rw [hpub]
      obtain ⟨x, hx, ha⟩ := List.mem_filterMap.mp he
      refine published_of_kept h hs ?_ ha
      rcases List.mem_append.mp hx with hx | hx
      · exact List.mem_append_left _ hx
      · exact List.mem_append_right _ (List.mem_filter.mp hx).1

theorem System.acknowledge_nil (s : System) : s.acknowledge [] = s := by
  have hsession : s.session.map (BrokerSession.acknowledge []) = s.session := by
    cases s.session <;> simp [BrokerSession.acknowledge]
  rw [acknowledge, hsession, ite_self]

theorem System.finish_nil (s : System) (message : Message) :
    s.finish message [] = { s with handling := none, givenUp := s.givenUp ++ [message] } := by
  rw [finish, acknowledge_nil]
  rfl

private theorem enqueue_cases (connected : Bool) (message : Message) (b : BrokerSession) :
    (b.enqueue connected message).inflight = b.inflight ∧
      (b.enqueue connected message).subscribed = b.subscribed ∧
      ((b.enqueue connected message).queue = b.queue ∨ (b.subscribed = true ∧
        (b.enqueue connected message).queue = b.queue ++ [message])) := by
  unfold BrokerSession.enqueue
  split
  · rename_i hsub
    rw [Bool.and_eq_true] at hsub
    exact ⟨rfl, rfl, .inr ⟨hsub.1, rfl⟩⟩
  · exact ⟨rfl, rfl, .inl rfl⟩

private theorem inv_publish {D : Deployment} {s s' : System} (h : Inv D s) {topic : String}
    {payload : List UInt8} (hstep : step D s (.publish topic payload) = some s') : Inv D s' := by
  obtain rfl := (Option.some.inj hstep).symm
  refine ⟨?_, ?_, h.increasing, h.below, ?_, h.handled, ?_, ?_⟩
  · intro hoff
    simp [h.offline hoff]
  · intro b hb
    obtain ⟨b₀, hb₀, rfl⟩ := Option.mem_map.mp hb
    rw [(enqueue_cases _ _ b₀).1]
    exact h.inflight b₀ hb₀
  · intro b hb m hm
    obtain ⟨b₀, hb₀, rfl⟩ := Option.mem_map.mp hb
    obtain ⟨_, _, hqueue | ⟨_, hqueue⟩⟩ :=
      enqueue_cases s.connected (D.publication topic payload) b₀
    · exact h.queued b₀ hb₀ m (hqueue ▸ hm)
    · rw [hqueue, List.mem_append, List.mem_singleton] at hm
      rcases hm with hm | rfl
      · exact h.queued b₀ hb₀ m hm
      · rfl
  · intro b hb hsub
    obtain ⟨b₀, hb₀, rfl⟩ := Option.mem_map.mp hb
    rw [(enqueue_cases _ _ b₀).2.1] at hsub
    exact h.subscribed b₀ hb₀ hsub
  · intro event he
    unfold System.held at he
    split at he
    · simp at he
    · rename_i b hb
      obtain ⟨b₀, hb₀, rfl⟩ := Option.mem_map.mp (Option.mem_def.mpr hb)
      obtain ⟨m, hm, ha⟩ := List.mem_filterMap.mp he
      obtain ⟨hinflight, _, hqueue⟩ := enqueue_cases s.connected (D.publication topic payload) b₀
      rw [hinflight] at hm
      rcases hqueue with hqueue | ⟨hsub, hqueue⟩
      · exact List.mem_append_left _ (published_of_kept h hb₀ (hqueue ▸ hm) ha)
      · rw [hqueue, List.append_assoc, List.mem_append, List.mem_append, List.mem_singleton] at hm
        rcases hm with hm | rfl | hm
        · exact List.mem_append_left _ (published_of_kept h hb₀ (List.mem_append_left _ hm) ha)
        · apply List.mem_append_right
          rw [h.subscribed b₀ hb₀ hsub, if_pos rfl, Option.mem_toList]
          exact ha
        · exact List.mem_append_left _ (published_of_kept h hb₀ (List.mem_append_right _ hm) ha)

private theorem inv_send {D : Deployment} {s s' : System} (h : Inv D s)
    (hstep : stepSend D s = some s') : Inv D s' := by
  obtain ⟨hc, b, message, rest, hb, hqueue, hsent⟩ := stepSend_cases hstep
  have hmem : b ∈ s.session := hb
  have hqos := h.queued b hmem message (by simp [hqueue])
  have hrest : ∀ m ∈ rest, m.qos = D.qos := fun m hm => h.queued b hmem m (by simp [hqueue, hm])
  have hheld : ∀ m ∈ b.queue ++ b.inflight, ∀ event, accepted D.py m = some event →
      event ∈ s.published :=
    fun m hm event ha => published_of_kept h hmem hm ha
  rcases hsent with ⟨hzero, rfl⟩ | ⟨hnonzero, _, rfl⟩
  · have hq : D.qos = 0 := hqos ▸ hzero
    refine inv_online hc rfl ?_ (fun hne => absurd hq hne) (fun hne => absurd hq hne) hrest
      h.handled (h.subscribed b hmem) ?_
    · exact (h.inflight b hmem).trans (by simp [hq])
    · intro event he
      obtain ⟨m, hm, ha⟩ := List.mem_filterMap.mp he
      exact hheld m (by rw [hqueue]; exact List.mem_cons_of_mem _ hm) event ha
  · have hq : D.qos ≠ 0 := hqos ▸ hnonzero
    have hpending : System.pending { s with
        session := some { b with
          queue := rest, inflight := b.inflight ++ [{ message with mid := s.nextMid }] }
        inbox := s.inbox ++ [{ message with mid := s.nextMid }]
        nextMid := s.nextMid + 1 } = s.pending ++ [{ message with mid := s.nextMid }] := by
      simp [System.pending]
    refine inv_online hc rfl ?_ ?_ ?_ hrest h.handled (h.subscribed b hmem) ?_
    · rw [hpending, if_neg hq]
      change b.inflight ++ _ = _
      rw [h.inflight b hmem, if_neg hq]
    · intro _
      rw [hpending, List.map_append, List.pairwise_append]
      refine ⟨h.increasing hq, List.pairwise_singleton _ _, ?_⟩
      intro i hi j hj
      obtain ⟨m, hm, rfl⟩ := List.mem_map.mp hi
      obtain rfl : j = s.nextMid := by simpa using hj
      exact h.below hq m hm
    · intro _ m hm
      rw [hpending, List.mem_append, List.mem_singleton] at hm
      rcases hm with hm | rfl
      · exact Nat.lt_succ_of_lt (h.below hq m hm)
      · exact Nat.lt_succ_self _
    · intro event he
      obtain ⟨m, hm, ha⟩ := List.mem_filterMap.mp he
      simp only [List.mem_append, List.mem_singleton] at hm
      rcases hm with hm | hm | rfl
      · exact hheld m (by simp [hqueue, hm]) event ha
      · exact hheld m (by simp [hm]) event ha
      · exact hheld message (by simp [hqueue]) event ha

private theorem inv_take {D : Deployment} {s s' : System} (h : Inv D s)
    (hstep : stepTake D s = some s') : Inv D s' := by
  obtain ⟨hidle, message, rest, hinbox, ⟨event, ha, rfl⟩ | ⟨_, rfl⟩⟩ :=
    stepTake_cases hstep
  · refine inv_unchanged h ?_ rfl rfl rfl rfl rfl ?_
    · simp [System.pending, hidle, hinbox]
    · intro p hp
      obtain rfl : (⟨message, event, D.database.writeEventStart s.db⟩ : InProgress) = p := by
        simpa using hp
      exact ha
  · refine inv_acked (l := s.givenUp) (r := rest) h ?_ ?_ rfl rfl rfl rfl rfl h.handled
    · simp [System.pending, hidle, hinbox]
    · simp [System.pending, System.acknowledge, hidle]

private theorem inv_attempt {D : Deployment} {s s' : System} (h : Inv D s)
    {fault : Fault PyException} (hstep : stepAttempt D s fault = some s') : Inv D s' := by
  obtain ⟨p, hp, ⟨loop, rfl⟩ | ⟨_, rfl⟩ | ⟨_, rfl⟩⟩ := stepAttempt_cases hstep
  · refine inv_unchanged h ?_ rfl rfl rfl rfl rfl ?_
    · simp [System.pending, System.attempted, hp]
    · intro p' hp'
      obtain rfl : { p with loop := loop } = p' := by simpa using hp'
      exact h.handled p hp
  · refine inv_acked (l := s.givenUp) (r := s.inbox) h ?_ ?_ rfl rfl rfl rfl rfl ?_
    · simp [System.pending, hp]
    · simp [System.pending, System.finish, System.attempted, System.acknowledge]
    · simp [System.finish]
  · rw [System.finish_nil]
    refine inv_unchanged h ?_ rfl rfl rfl rfl rfl (by simp)
    simp [System.pending, System.attempted, hp]

theorem inv_step {D : Deployment} {s s' : System} {a : Label} (h : Inv D s)
    (hstep : step D s a = some s') : Inv D s' := by
  cases a with
  | publish topic payload => exact inv_publish h hstep
  | send => exact inv_send h hstep
  | take => exact inv_take h hstep
  | attempt fault => exact inv_attempt h hstep
  | drop =>
    obtain ⟨_, rfl⟩ := stepDrop_cases hstep
    exact inv_disconnected h (List.Sublist.refl _) rfl rfl h.handled
  | crash =>
    obtain rfl := (Option.some.inj hstep).symm
    exact inv_disconnected h (List.nil_sublist _) rfl rfl (by simp)
  | connect =>
    obtain ⟨_, hidle, rfl⟩ := stepConnect_cases hstep
    constructor <;> simp [System.pending, System.held, BrokerSession.fresh, hidle]
  | subscribe =>
    obtain ⟨hc, rfl⟩ := stepSubscribe_cases hstep
    cases hb : s.session with
    | none =>
      exact inv_disconnected h (List.Sublist.refl _) rfl rfl h.handled
    | some b =>
      refine inv_online hc rfl (h.inflight b hb) h.increasing h.below (h.queued b hb) h.handled
        (fun _ => rfl) ?_
      intro event he
      apply h.published
      rw [System.held, hb]
      exact he
  | outage =>
    obtain rfl := (Option.some.inj hstep).symm
    exact inv_unchanged h rfl rfl rfl rfl rfl rfl h.handled
  | recovery =>
    obtain rfl := (Option.some.inj hstep).symm
    exact inv_unchanged h rfl rfl rfl rfl rfl rfl h.handled

end OpenWater.Ingestion
