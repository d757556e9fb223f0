import OpenWater.Ingestion.Acceptance
import OpenWater.Ingestion.Broker

/-!
# Delivery guarantees

Two promises about whole runs of devices, broker, subscriber and database: no published event is
lost, and an outage of the database does not wedge ingestion. Neither holds of every run. For each,
the condition on steps under which it does.
-/

namespace OpenWater.Ingestion

open Framework

/-! ## No loss -/

/-- Each valid event published since the first subscription is committed or still held for the
subscriber. -/
def NoLoss (D : Deployment) (s : System) : Prop :=
  ∀ event ∈ s.published, event ∈ s.committed ∨ event ∈ s.held D

def System.Subscribed (s : System) : Prop := ∃ b ∈ s.session, b.subscribed = true

/-- Nothing new is published while there is no subscribed session, and no session ends while it
holds an event that is not committed. -/
def Keeps (D : Deployment) (s : System) : Label → Prop
  | .publish topic payload => s.everSubscribed = true →
      ∀ event ∈ accepted D.py (D.publication topic payload),
        event ∈ s.committed ∨ event ∈ s.held D ∨ s.Subscribed
  | .drop | .crash => ∀ event ∈ s.held D, event ∈ s.committed
  | _ => True

private theorem mem_held {D : Deployment} {s : System} {event : ReadingEvent} :
    event ∈ s.held D ↔ ∃ b ∈ s.session, ∃ m, (m ∈ b.queue ∨ m ∈ b.inflight) ∧
      accepted D.py m = some event := by
  unfold System.held
  cases s.session with
  | none => simp
  | some b =>
    simp only [List.mem_filterMap, List.mem_append, Option.mem_some, exists_eq_left']

private theorem mem_held_acknowledge {D : Deployment} {s : System} (h : Inv D s)
    {l r : List Message}
    {m : Message} (hpending : s.pending = l ++ m :: r) {event : ReadingEvent}
    (he : event ∈ s.held D) :
    event ∈ (s.acknowledge [(m.mid, m.qos)]).held D ∨ accepted D.py m = some event := by
  obtain ⟨b, hb, x, hx, ha⟩ := mem_held.mp he
  by_cases hxm : x = m
  · exact .inr (hxm ▸ ha)
  left
  refine mem_held.mpr ?_
  rw [System.acknowledge, hb]
  split
  · refine ⟨_, rfl, x, ?_, ha⟩
    rcases hx with hx | hx
    · exact .inl hx
    · right
      change x ∈ b.inflight.filter _
      rw [h.inflight b hb] at hx ⊢
      by_cases hq : D.qos = 0
      · simp [hq] at hx
      · rw [if_neg hq, hpending] at hx ⊢
        rw [filter_ack (hpending ▸ h.increasing hq)]
        simp only [List.mem_append, List.mem_cons, hxm, false_or] at hx ⊢
        exact hx
  · exact ⟨b, rfl, x, hx, ha⟩

private theorem mem_held_publish {D : Deployment} {s s' : System} {topic : String}
    {payload : List UInt8}
    (hqos : D.qos ≠ 0) (h : step D s (.publish topic payload) = some s') (event : ReadingEvent) :
    event ∈ s'.held D ↔ event ∈ s.held D ∨
      (s.Subscribed ∧ event ∈ accepted D.py (D.publication topic payload)) := by
  obtain rfl := (Option.some.inj h).symm
  cases hb : s.session with
  | none => simp [System.held, System.Subscribed, hb]
  | some b =>
    have hone : 1 ≤ (D.publication topic payload).qos := Nat.one_le_iff_ne_zero.mpr hqos
    cases hsub : b.subscribed with
    | false => simp [System.held, System.Subscribed, BrokerSession.enqueue, hb, hsub]
    | true =>
      have henqueue : b.enqueue s.connected (D.publication topic payload) =
          { b with queue := b.queue ++ [D.publication topic payload] } := by
        simp [BrokerSession.enqueue, hsub, hone]
      have hsubscribed : s.Subscribed := ⟨b, hb, hsub⟩
      simp only [mem_held, hb, Option.map_some, henqueue, Option.mem_some, exists_eq_left',
        hsubscribed, true_and, List.mem_append, List.mem_singleton]
      constructor
      · rintro ⟨m, (hm | rfl) | hm, ha⟩
        · exact .inl ⟨m, .inl hm, ha⟩
        · exact .inr ha
        · exact .inl ⟨m, .inr hm, ha⟩
      · rintro (⟨m, hm | hm, ha⟩ | ha)
        · exact ⟨m, .inl (.inl hm), ha⟩
        · exact ⟨m, .inr hm, ha⟩
        · exact ⟨_, .inl (.inr rfl), ha⟩

private theorem held_of_offline {D : Deployment} {s : System} (h : s.session = none) : s.held D =
    [] := by
  rw [System.held, h]

private theorem mem_held_send {D : Deployment} {s s' : System} (hqos : D.qos ≠ 0) (h : Inv D s)
    (hstep : stepSend D s = some s') {event : ReadingEvent} (he : event ∈ s.held D) :
    event ∈ s'.held D := by
  obtain ⟨_, b, message, rest, hb, hqueue, hsent⟩ := stepSend_cases hstep
  have hmessage := h.queued b hb message (by simp [hqueue])
  rcases hsent with ⟨hzero, _⟩ | ⟨_, _, rfl⟩
  · exact absurd (hmessage.symm.trans hzero) hqos
  · obtain ⟨b', hb', m, hm, ha⟩ := mem_held.mp he
    rw [hb, Option.mem_some] at hb'
    subst hb'
    refine mem_held.mpr ⟨_, rfl, ?_⟩
    rw [hqueue, List.mem_cons] at hm
    rcases hm with (rfl | hm) | hm
    · exact ⟨{ m with mid := s.nextMid }, .inr (by simp), ha⟩
    · exact ⟨m, .inl hm, ha⟩
    · exact ⟨m, .inr (by simp [hm]), ha⟩

private theorem noLoss_disconnected_iff {D : Deployment} {s t : System} (h : Inv D s)
    (hn : NoLoss D s) (hsession : t.session = none) (hpublished : t.published = s.published)
    (hcommitted : t.committed = s.committed) :
    NoLoss D t ↔ ∀ event ∈ s.held D, event ∈ s.committed := by
  have hheld : t.held D = [] := held_of_offline hsession
  unfold NoLoss
  rw [hpublished, hcommitted, hheld]
  constructor
  · intro hn' event he
    exact (hn' event (h.published event he)).resolve_right List.not_mem_nil
  · intro hall event hpub
    left
    rcases hn event hpub with hc | hk
    · exact hc
    · exact hall event hk

private theorem noLoss_of_kept {D : Deployment} {s t : System} (hn : NoLoss D s)
    (hpublished : t.published = s.published)
    (hcommitted : ∀ event ∈ s.committed, event ∈ t.committed)
    (hheld : ∀ event ∈ s.held D, event ∈ t.committed ∨ event ∈ t.held D) : NoLoss D t := by
  intro event hpub
  rw [hpublished] at hpub
  rcases hn event hpub with hc | hk
  · exact .inl (hcommitted event hc)
  · exact hheld event hk

private theorem noLoss_publish_iff {D : Deployment} (hqos : D.qos ≠ 0) {s s' : System}
    {topic : String} {payload : List UInt8} (hn : NoLoss D s)
    (hstep : step D s (.publish topic payload) = some s') :
    NoLoss D s' ↔ Keeps D s (.publish topic payload) := by
  have hheld := mem_held_publish hqos hstep
  obtain rfl := (Option.some.inj hstep).symm
  constructor
  · intro hn' hever event he
    have hpub : event ∈ s.published ++ if s.everSubscribed then
        (accepted D.py (D.publication topic payload)).toList else [] := by
      rw [if_pos hever]
      exact List.mem_append_right _ (Option.mem_toList.mpr he)
    rcases hn' event hpub with hc | hk
    · exact .inl hc
    · rcases (hheld event).mp hk with hk | ⟨hsub, _⟩
      · exact .inr (.inl hk)
      · exact .inr (.inr hsub)
  · intro hkeeps event hpub
    rcases List.mem_append.mp hpub with hpub | hpub
    · rcases hn event hpub with hc | hk
      · exact .inl hc
      · exact .inr ((hheld event).mpr (.inl hk))
    · split at hpub
      · rename_i hever
        have he := Option.mem_toList.mp hpub
        rcases hkeeps hever event he with hc | hk | hsub
        · exact .inl hc
        · exact .inr ((hheld event).mpr (.inl hk))
        · exact .inr ((hheld event).mpr (.inr ⟨hsub, he⟩))
      · cases hpub

private theorem noLoss_attempt {D : Deployment} {s s' : System} {fault : Fault PyException}
    (h : Inv D s) (hn : NoLoss D s) (hstep : stepAttempt D s fault = some s') : NoLoss D s' := by
  obtain ⟨p, hp, ⟨loop, rfl⟩ | ⟨hcommitted, rfl⟩ | ⟨_, rfl⟩⟩ := stepAttempt_cases hstep
  · exact noLoss_of_kept hn rfl (fun _ => List.mem_append_left _) fun _ => .inr
  · refine noLoss_of_kept hn rfl (fun _ => List.mem_append_left _) fun event hk => ?_
    have hpending : s.pending = s.givenUp ++ p.message :: s.inbox := by
      simp [System.pending, hp]
    rcases mem_held_acknowledge h hpending hk with hk | hm
    · exact .inr hk
    · rw [h.handled p hp, Option.some.injEq] at hm
      exact .inl (hm ▸ hcommitted)
  · rw [System.finish_nil]
    exact noLoss_of_kept hn rfl (fun _ => List.mem_append_left _) fun _ => .inr

/-- Of each step, whether it loses nothing. -/
theorem noLoss_step_iff {D : Deployment} (hqos : D.qos ≠ 0) {s s' : System} {a : Label}
    (h : Inv D s) (hn : NoLoss D s) (hstep : step D s a = some s') : NoLoss D s' ↔ Keeps D s a := by
  cases a with
  | publish topic payload => exact noLoss_publish_iff hqos hn hstep
  | send =>
    refine iff_of_true ?_ trivial
    have hheld : ∀ event ∈ s.held D, event ∈ s'.held D := fun _ => mem_held_send hqos h hstep
    obtain ⟨_, b, message, rest, _, _, ⟨_, rfl⟩ | ⟨_, _, rfl⟩⟩ := stepSend_cases hstep
    · exact noLoss_of_kept hn rfl (fun _ => id) fun event hk => .inr (hheld event hk)
    · exact noLoss_of_kept hn rfl (fun _ => id) fun event hk => .inr (hheld event hk)
  | take =>
    refine iff_of_true ?_ trivial
    obtain ⟨hidle, message, rest, hinbox, ⟨event, ha, rfl⟩ | ⟨ha, rfl⟩⟩ :=
      stepTake_cases hstep
    · exact hn
    · have hpending : s.pending = s.givenUp ++ message :: rest := by
        simp [System.pending, hidle, hinbox]
      refine noLoss_of_kept hn rfl (fun _ => id) fun event hk => ?_
      rcases mem_held_acknowledge h hpending hk with hk | hm
      · exact .inr hk
      · rw [ha] at hm
        cases hm
  | attempt fault => exact iff_of_true (noLoss_attempt h hn hstep) trivial
  | drop =>
    obtain ⟨_, rfl⟩ := stepDrop_cases hstep
    exact noLoss_disconnected_iff h hn rfl rfl rfl
  | crash =>
    obtain rfl := (Option.some.inj hstep).symm
    exact noLoss_disconnected_iff h hn rfl rfl rfl
  | connect =>
    refine iff_of_true ?_ trivial
    obtain ⟨hoff, _, rfl⟩ := stepConnect_cases hstep
    refine noLoss_of_kept hn rfl (fun _ => id) fun event hk => ?_
    rw [held_of_offline (h.offline hoff)] at hk
    cases hk
  | subscribe =>
    refine iff_of_true ?_ trivial
    obtain ⟨_, rfl⟩ := stepSubscribe_cases hstep
    refine noLoss_of_kept hn rfl (fun _ => id) fun event hk => .inr ?_
    obtain ⟨b, hb, hm⟩ := mem_held.mp hk
    exact mem_held.mpr ⟨{ b with subscribed := true }, Option.mem_map.mpr ⟨b, hb, rfl⟩, hm⟩
  | outage =>
    obtain rfl := (Option.some.inj hstep).symm
    exact iff_of_true hn trivial
  | recovery =>
    obtain rfl := (Option.some.inj hstep).symm
    exact iff_of_true hn trivial

/-- A run loses no published event in any of its states exactly when nothing new is published while
no subscribed session is there to hold it, and no connection or process ends while the session
holds an event that is not committed. -/
theorem noLoss_iff_keeps {D : Deployment} (hqos : 1 ≤ D.database.settings.mqttQos)
    {labels : List Label} {s : System} (hrun : run (step D) System.start labels = some s) :
    (∀ before u, before <+: labels → run (step D) System.start before = some u → NoLoss D u) ↔
      Along (step D) (Keeps D) System.start labels := by
  have hqos' : D.qos ≠ 0 := by
    unfold Deployment.qos
    omega
  have hnone : NoLoss D System.start := by
    intro event he
    cases he
  exact along_iff (I := Inv D) (P := NoLoss D) (fun _ _ _ h hstep => inv_step h hstep)
    (fun _ _ _ h hn hstep => noLoss_step_iff hqos' h hn hstep) (inv_start D) hnone hrun

def localDeployment (window : Nat) (h : 1 ≤ window) : Deployment where
  py := .ofDocument phPayload (phDocument "a" ["7"])
  database := .localStack
  window := window
  window_pos := h

def publishPh : Label := .publish "owp/v1/devices/a/readings" phPayload

/-- An event is published and sent, the retries run out in an outage, and the connection drops
after the database is back: the event is nowhere. -/
theorem reconnect_loses_event : ∃ s, run (step (localDeployment 20 (by decide))) System.start
    ([.connect, .subscribe, publishPh, .send, .outage, .take] ++
      List.replicate 10 (.attempt .none) ++ [.recovery, .drop, .connect, .subscribe]) = some s ∧
    ¬ NoLoss (localDeployment 20 (by decide)) s := by
  refine ⟨_, rfl, ?_⟩
  intro h
  have hevent := h (phEvent ⟨"a", by decide, by decide⟩ 7 []) (List.mem_singleton.mpr rfl)
  revert hevent
  decide

theorem noLoss_iff_keeps_delivered : ∃ s, run (step (localDeployment 20 (by decide))) System.start
    [.connect, .subscribe, publishPh, .send, .take, .attempt .none, .drop] = some s ∧
    ((∀ before u,
        before <+: [.connect, .subscribe, publishPh, .send, .take, .attempt .none, .drop] →
        run (step (localDeployment 20 (by decide))) System.start before = some u →
          NoLoss (localDeployment 20 (by decide)) u) ↔
      Along (step (localDeployment 20 (by decide))) (Keeps (localDeployment 20 (by decide)))
        System.start
        [.connect, .subscribe, publishPh, .send, .take, .attempt .none, .drop]) :=
  ⟨_, rfl, noLoss_iff_keeps (by decide) rfl⟩

/-! ## No wedge -/

def Label.Delivers : Label → Prop
  | .send | .take => True
  | _ => False

/-- Connected, with the database up and no message in hand: while the broker holds an event that is
not stored, a message can be delivered without the connection ending first. -/
def Live (D : Deployment) (s : System) : Prop :=
  s.connected = true → s.dbUp = true → s.handling = none →
    (∃ event ∈ s.held D, event ∉ s.committed) → ∃ a s', a.Delivers ∧ step D s a = some s'

/-- The attempt commits the event, and its report is lost. -/
def LosesReport (D : Deployment) (s : System) (fault : Fault PyException) (event : ReadingEvent) :
    Prop :=
  (∃ exc, s.faultOf fault = .afterCommit exc) ∧ D.database.report event .none = .ok ()

/-- A message is given up only if its event has been committed or the last attempt commits it, and
only while that leaves a free slot in the window. -/
def KeepsFlowing (D : Deployment) (s : System) : Label → Prop
  | .attempt fault => ∀ p ∈ s.handling, GivesUp D s fault p → D.qos ≠ 0 →
      (p.event ∈ s.committed ∨ LosesReport D s fault p.event) ∧
        s.givenUp.length + 1 < D.window
  | _ => True

instance (D : Deployment) (s : System) (fault : Fault PyException) (event : ReadingEvent) :
    Decidable (LosesReport D s fault event) :=
  match h : s.faultOf fault with
  | .afterCommit exc => decidable_of_iff (D.database.report event .none = .ok ())
    ⟨fun hok => ⟨⟨exc, h⟩, hok⟩, fun hloses => hloses.2⟩
  | .none => isFalse fun ⟨⟨_, hfault⟩, _⟩ => by simp [h] at hfault
  | .before _ _ => isFalse fun ⟨⟨_, hfault⟩, _⟩ => by simp [h] at hfault

instance (D : Deployment) (s : System) (a : Label) : Decidable (KeepsFlowing D s a) :=
  match a with
  | .attempt fault => inferInstanceAs (Decidable (∀ p ∈ s.handling, GivesUp D s fault p →
      D.qos ≠ 0 → (p.event ∈ s.committed ∨ LosesReport D s fault p.event) ∧
        s.givenUp.length + 1 < D.window))
  | .publish _ _ | .send | .take | .drop | .crash | .connect | .subscribe | .outage | .recovery =>
    isTrue trivial

private theorem mem_committed_attempted {D : Deployment} {s : System} {fault : Fault PyException}
    {p : InProgress} (h : p.event ∈ s.committed ∨ LosesReport D s fault p.event) :
    p.event ∈ (s.attempted D fault p).committed := by
  rcases h with h | ⟨⟨exc, hfault⟩, hok⟩
  · exact List.mem_append_left _ h
  · have hcommitted := writeOnce_afterCommit exc s.db hok
    simp [System.attempted, hfault, hcommitted]

/-- What the messages given up on a connection may amount to. -/
structure Flowing (D : Deployment) (s : System) : Prop where
  inv : Inv D s
  stored : D.qos ≠ 0 → ∀ m ∈ s.givenUp, ∀ event ∈ accepted D.py m, event ∈ s.committed
  room : D.qos ≠ 0 → s.givenUp.length < D.window

private theorem flowing_start (D : Deployment) : Flowing D System.start := by
  refine ⟨inv_start D, fun _ m hm => ?_, fun _ => D.window_pos⟩
  cases hm

private theorem flowing_unchanged {D : Deployment} {s t : System} (h : Flowing D s)
    (hinv : Inv D t) (hgivenUp : t.givenUp = s.givenUp)
    (hcommitted : ∀ event ∈ s.committed, event ∈ t.committed) : Flowing D t := by
  refine ⟨hinv, ?_, ?_⟩
  · rw [hgivenUp]
    exact fun hq m hm event he => hcommitted event (h.stored hq m hm event he)
  · rw [hgivenUp]
    exact h.room

private theorem flowing_cleared {D : Deployment} {t : System} (hinv : Inv D t)
    (hgivenUp : t.givenUp = []) : Flowing D t := by
  refine ⟨hinv, ?_, ?_⟩
  · rw [hgivenUp]
    intro _ m hm
    cases hm
  · rw [hgivenUp]
    exact fun _ => D.window_pos

private theorem flowing_step {D : Deployment} {s s' : System} {a : Label} (h : Flowing D s)
    (hok : KeepsFlowing D s a) (hstep : step D s a = some s') : Flowing D s' := by
  have hinv := inv_step h.inv hstep
  cases a with
  | publish topic payload =>
    obtain rfl := (Option.some.inj hstep).symm
    exact flowing_unchanged h hinv rfl fun _ he => he
  | send =>
    obtain ⟨_, b, message, rest, _, _, ⟨_, rfl⟩ | ⟨_, _, rfl⟩⟩ := stepSend_cases hstep
    · exact flowing_unchanged h hinv rfl fun _ he => he
    · exact flowing_unchanged h hinv rfl fun _ he => he
  | take =>
    obtain ⟨_, message, rest, _, ⟨event, _, rfl⟩ | ⟨_, rfl⟩⟩ := stepTake_cases hstep
    · exact flowing_unchanged h hinv rfl fun _ he => he
    · exact flowing_unchanged h hinv rfl fun _ he => he
  | attempt fault =>
    obtain ⟨p, hp, ⟨loop, rfl⟩ | ⟨_, rfl⟩ | ⟨hgives, rfl⟩⟩ := stepAttempt_cases hstep
    · exact flowing_unchanged h hinv rfl fun _ he => List.mem_append_left _ he
    · exact flowing_unchanged h hinv rfl fun _ he => List.mem_append_left _ he
    · have hok' := hok p hp hgives
      rw [System.finish_nil] at hinv ⊢
      refine ⟨hinv, ?_, ?_⟩
      · intro hq m hm event he
        rcases List.mem_append.mp hm with hm | hm
        · exact List.mem_append_left _ (h.stored hq m hm event he)
        · rw [List.mem_singleton.mp hm, h.inv.handled p hp, Option.mem_some] at he
          exact he ▸ mem_committed_attempted (hok' hq).1
      · intro hq
        have hroom := (hok' hq).2
        change (s.givenUp ++ [p.message]).length < D.window
        rw [List.length_append, List.length_singleton]
        exact hroom
  | drop =>
    obtain ⟨_, rfl⟩ := stepDrop_cases hstep
    exact flowing_unchanged h hinv rfl fun _ he => he
  | crash =>
    obtain rfl := (Option.some.inj hstep).symm
    exact flowing_cleared hinv rfl
  | connect =>
    obtain ⟨_, _, rfl⟩ := stepConnect_cases hstep
    exact flowing_cleared hinv rfl
  | subscribe =>
    obtain ⟨_, rfl⟩ := stepSubscribe_cases hstep
    exact flowing_unchanged h hinv rfl fun _ he => he
  | outage =>
    obtain rfl := (Option.some.inj hstep).symm
    exact flowing_unchanged h hinv rfl fun _ he => he
  | recovery =>
    obtain rfl := (Option.some.inj hstep).symm
    exact flowing_unchanged h hinv rfl fun _ he => he

theorem stepTake_enabled {D : Deployment} {s : System} (hidle : s.handling = none)
    (hinbox : s.inbox ≠ []) : ∃ s', stepTake D s = some s' := by
  unfold stepTake
  cases hi : s.inbox with
  | nil => exact absurd hi hinbox
  | cons message rest =>
    rw [hidle]
    cases ha : accepted D.py message with
    | some event => exact ⟨_, by simp only [ha]; rfl⟩
    | none => exact ⟨_, by simp only [ha]; rfl⟩

theorem stepSend_enabled {D : Deployment} {s : System} {b : BrokerSession}
    (hconnected : s.connected = true) (hsession : s.session = some b) (hqueue : b.queue ≠ [])
    (hroom : b.inflight.length < D.window) : ∃ s', stepSend D s = some s' := by
  unfold stepSend
  cases hq : b.queue with
  | nil => exact absurd hq hqueue
  | cons message rest =>
    simp only [hconnected, hsession, hq, if_pos hroom]
    split
    · exact ⟨_, rfl⟩
    · exact ⟨_, rfl⟩

/-- A flowing system is live: what it holds uncommitted is in the inbox or in the queue. -/
theorem Flowing.live {D : Deployment} {s : System} (h : Flowing D s) : Live D s := by
  rintro hconnected _ hidle ⟨event, hheld, huncommitted⟩
  by_cases hinbox : s.inbox = []
  · have hpending : s.pending = s.givenUp := by simp [System.pending, hidle, hinbox]
    obtain ⟨b, hb, m, hm, ha⟩ := mem_held.mp hheld
    have hinflight := h.inv.inflight b hb
    rw [hpending] at hinflight
    have hqueued : m ∈ b.queue := by
      refine hm.resolve_right fun hm => ?_
      rw [hinflight] at hm
      by_cases hq : D.qos = 0
      · simp [hq] at hm
      · rw [if_neg hq] at hm
        exact huncommitted (h.stored hq m hm event ha)
    have hroom : b.inflight.length < D.window := by
      rw [hinflight]
      by_cases hq : D.qos = 0
      · rw [if_pos hq]
        exact D.window_pos
      · rw [if_neg hq]
        exact h.room hq
    obtain ⟨s', hs'⟩ := stepSend_enabled hconnected hb (List.ne_nil_of_mem hqueued) hroom
    exact ⟨.send, s', trivial, hs'⟩
  · obtain ⟨s', hs'⟩ := stepTake_enabled (D := D) hidle hinbox
    exact ⟨.take, s', trivial, hs'⟩

/-- In a run in which no message is given up with its event uncommitted, and none that fills the
window, every state is live. -/
theorem live_of_keepsFlowing {D : Deployment} {labels : List Label} {s : System}
    (hok : Along (step D) (KeepsFlowing D) System.start labels)
    (hrun : run (step D) System.start labels = some s) : Live D s :=
  (run_invariant (fun _ _ _ h hok hstep => flowing_step h hok hstep) (flowing_start D) hok
    hrun).live

private theorem not_live_of_stuck {D : Deployment} {s : System} (event : ReadingEvent)
    (hconnected : s.connected = true) (hup : s.dbUp = true) (hidle : s.handling = none)
    (hheld : event ∈ s.held D) (huncommitted : event ∉ s.committed)
    (hsend : stepSend D s = none) (htake : stepTake D s = none) : ¬ Live D s := by
  intro h
  obtain ⟨a, s', hdelivers, hs'⟩ := h hconnected hup hidle ⟨event, hheld, huncommitted⟩
  cases a with
  | send => cases hsend.symm.trans hs'
  | take => cases htake.symm.trans hs'
  | _ => exact hdelivers

/-- One of the device's messages is sent, and an outage outlasts its retries. -/
def outageRun (messages : Nat) : List Label :=
  [.connect, .subscribe] ++ List.replicate messages publishPh ++ [.send, .outage, .take] ++
    List.replicate 10 (.attempt .none) ++ [.recovery]

/-- The database is back and nothing can be delivered: with a window of one, the message given up
keeps the next one back; with any window, it is not sent again itself. -/
theorem outage_wedges_window :
    (∃ s, run (step (localDeployment 1 (by decide))) System.start (outageRun 2) = some s ∧
      ¬ Live (localDeployment 1 (by decide)) s) ∧
    ∃ s, run (step (localDeployment 20 (by decide))) System.start (outageRun 1) = some s ∧
      ¬ Live (localDeployment 20 (by decide)) s := by
  constructor
  · refine ⟨_, rfl, not_live_of_stuck (phEvent ⟨"a", by decide, by decide⟩ 7 []) rfl rfl
      rfl ?_ ?_ rfl rfl⟩
    · exact List.mem_cons_self
    · decide
  · refine ⟨_, rfl, not_live_of_stuck (phEvent ⟨"a", by decide, by decide⟩ 7 []) rfl rfl
      rfl ?_ ?_ rfl rfl⟩
    · exact List.mem_cons_self
    · decide

def otherPayload : List UInt8 := ascii
  ("\x7b\"device_id\":\"b\",\"timestamp\":0,\"readings\":[" ++
    "\x7b\"parameter\":\"ph\",\"value\":8,\"unit\":\"pH\"\x7d]\x7d")

def twoDeviceDeployment : Deployment :=
  { localDeployment 20 (by decide) with
    py := { Pydantic.ofDocument phPayload (phDocument "a" ["7"]) with
      fromJson := fun payload =>
        if payload = phPayload then some (phDocument "a" ["7"])
        else if payload = otherPayload then some (phDocument "b" ["8"])
        else none } }

/-- The first device's event is written on the second attempt; the other one's waits meanwhile. -/
def retriedRun : List Label :=
  [.connect, .subscribe, publishPh, .publish "owp/v1/devices/b/readings" otherPayload, .send, .send,
    .outage, .take, .attempt .none, .recovery, .attempt .none]

theorem live_of_keepsFlowing_delivered : ∃ s,
    run (step twoDeviceDeployment) System.start retriedRun = some s ∧
    (s.connected = true ∧ s.dbUp = true ∧ s.handling = none ∧
      phEvent ⟨"a", by decide, by decide⟩ 7 [] ∈ s.committed ∧
      phEvent ⟨"b", by decide, by decide⟩ 8 [] ∈ s.held twoDeviceDeployment ∧
      phEvent ⟨"b", by decide, by decide⟩ 8 [] ∉ s.committed) ∧
    Live twoDeviceDeployment s := by
  have hflows : Along (step twoDeviceDeployment) (KeepsFlowing twoDeviceDeployment) System.start
      retriedRun := by
    decide +kernel
  have hruns : (run (step twoDeviceDeployment) System.start retriedRun).isSome = true := by
    decide +kernel
  have hwaits : ∀ s ∈ run (step twoDeviceDeployment) System.start retriedRun,
      s.connected = true ∧ s.dbUp = true ∧ s.handling.isNone = true ∧
        phEvent ⟨"a", by decide, by decide⟩ 7 [] ∈ s.committed ∧
        phEvent ⟨"b", by decide, by decide⟩ 8 [] ∈ s.held twoDeviceDeployment ∧
        phEvent ⟨"b", by decide, by decide⟩ 8 [] ∉ s.committed := by
    decide +kernel
  obtain ⟨s, hrun⟩ := Option.isSome_iff_exists.mp hruns
  obtain ⟨hconnected, hup, hidle, hevents⟩ := hwaits s hrun
  exact ⟨s, hrun, ⟨hconnected, hup, Option.isNone_iff_eq_none.mp hidle, hevents⟩,
    live_of_keepsFlowing hflows hrun⟩

end OpenWater.Ingestion
