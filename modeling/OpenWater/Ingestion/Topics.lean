import OpenWater.Framework.Text
import OpenWater.Framework.Topic
import OpenWater.Ingestion.Acceptance

/-!
# Topics

Which topics `mqtt_topic` brings to the subscriber, what `_device_id_from_topic` finds in them, and
what the topic of a message decides in a session: a warning, and nothing else.
-/

namespace OpenWater.Ingestion

open Framework

def topicLevels (topic : String) : List (List Char) := topic.toList.splitOn '/'

def Settings.subscription (settings : Settings) : Option (LevelPattern (List Char)) :=
  LevelPattern.read '+' '#' (topicLevels settings.mqttTopic)

def Settings.Receives (settings : Settings) (topic : String) : Prop :=
  ∃ p ∈ settings.subscription, p.accepts (topicLevels topic) = true

/-- The subscription is to one topic for each device, which names the device at its fourth level. -/
structure Settings.DeviceLevel (settings : Settings) (before after : List (List Char)) : Prop where
  subscription : settings.subscription = some (.hole before after)
  fourth : before.length = 3

def deviceTopic (before after : List (List Char)) (deviceId : String) : String :=
  String.ofList (['/'].intercalate (before ++ deviceId.toList :: after))

private theorem deviceLevel_default (mqttHost : String) :
    (Settings.default mqttHost).DeviceLevel ["owp".toList, "v1".toList, "devices".toList]
      ["readings".toList] where
  subscription := by
    show LevelPattern.read '+' '#' (topicLevels "owp/v1/devices/+/readings") = _
    decide
  fourth := rfl

/-- With the topic that `mqtt_topic` has by default. -/
theorem deviceTopic_default (deviceId : String) :
    deviceTopic ["owp".toList, "v1".toList, "devices".toList] ["readings".toList] deviceId =
      "owp/v1/devices/" ++ deviceId ++ "/readings" := by
  rw [← String.toList_inj, deviceTopic, String.toList_ofList]
  simp [List.intercalate]

private theorem deviceTopic_inj {before after : List (List Char)} {d d' : String} :
    deviceTopic before after d = deviceTopic before after d' ↔ d = d' := by
  rw [deviceTopic, deviceTopic, String.ofList_inj, intercalate_middle, String.toList_inj]

variable {settings : Settings} {before after : List (List Char)}

theorem Settings.DeviceLevel.received (h : settings.DeviceLevel before after) {topic : String}
    (hreceived : settings.Receives topic) :
    ∃ d, deviceIdFromTopic topic = some d ∧ topic = deviceTopic before after d ∧
      '/' ∉ d.toList := by
  obtain ⟨p, hp, haccepts⟩ := hreceived
  rw [h.subscription, Option.mem_some] at hp
  subst hp
  obtain ⟨level, hlevels⟩ := LevelPattern.hole_accepts.mp haccepts
  refine ⟨String.ofList level, ?_, ?_, ?_⟩
  · show (List.map String.ofList (topicLevels topic))[3]? = some (String.ofList level)
    rw [hlevels, List.getElem?_map, ← h.fourth, List.getElem?_append_right (Nat.le_refl _),
      Nat.sub_self]
    rfl
  · rw [← String.toList_inj, deviceTopic, String.toList_ofList, String.toList_ofList, ← hlevels]
    exact (List.intercalate_splitOn '/').symm
  · rw [String.toList_ofList]
    intro hslash
    have hmem : level ∈ topicLevels topic := by simp [hlevels]
    exact (mem_splitOn.mp ⟨level, hmem, hslash⟩).2 rfl

/-! ## Warnings -/

structure Warning where
  topic : String
  topicDeviceId : String
  payloadDeviceId : String
  deriving DecidableEq

def Effect.warning? : Effect → Option Warning
  | .logged (.deviceIdMismatch topic topicDeviceId payloadDeviceId) =>
    some ⟨topic, topicDeviceId, payloadDeviceId⟩
  | _ => none

/-- The payload is an event of a device whose topic is another one. -/
def Misplaced (py : Pydantic) (before after : List (List Char)) (d : Delivery) : Prop :=
  ∃ event ∈ accepted py d.message,
    d.message.topic ≠ deviceTopic before after event.deviceId.val

instance (py : Pydantic) (before after : List (List Char)) (d : Delivery) :
    Decidable (Misplaced py before after d) :=
  inferInstanceAs (Decidable (∃ event ∈ accepted py d.message,
    d.message.topic ≠ deviceTopic before after event.deviceId.val))

/-- The warning is about this message. It names the device of the topic and the one of the
payload. -/
structure Warns (py : Pydantic) (before after : List (List Char)) (d : Delivery) (w : Warning) :
    Prop where
  topic : d.message.topic = w.topic
  named : w.topic = deviceTopic before after w.topicDeviceId
  no_slash : '/' ∉ w.topicDeviceId.toList
  payload : ∃ event ∈ accepted py d.message, event.deviceId.val = w.payloadDeviceId

private theorem mismatch_received (h : settings.DeviceLevel before after) {topic : String}
    (hreceived : settings.Receives topic) (event : ReadingEvent) :
    (topic = deviceTopic before after event.deviceId.val ∧ mismatch topic event = []) ∨
      (topic ≠ deviceTopic before after event.deviceId.val ∧
        ∃ d, topic = deviceTopic before after d ∧ '/' ∉ d.toList ∧
          mismatch topic event = [.logged (.deviceIdMismatch topic d event.deviceId.val)]) := by
  obtain ⟨d, hfound, htopic, hslash⟩ := h.received hreceived
  unfold mismatch
  rw [hfound]
  by_cases hd : d = event.deviceId.val
  · left
    refine ⟨hd ▸ htopic, ?_⟩
    simp [hd]
  · right
    refine ⟨?_, d, htopic, hslash, ?_⟩
    · rw [htopic]
      exact fun hsame => hd (deviceTopic_inj.mp hsame)
    · simp [hd]

private theorem dispatch_warnings (message : Message) (event : ReadingEvent) {r : Handled}
    (hquiet : ∀ x ∈ r.effects, x.warning? = none) :
    (dispatch message event r).effects.filterMap Effect.warning? =
      (mismatch message.topic event).filterMap Effect.warning? := by
  have hhandler : r.effects.filterMap Effect.warning? = [] := List.filterMap_eq_nil_iff.mpr hquiet
  have hbefore : (mismatch message.topic event ++ .handled event :: r.effects).filterMap
      Effect.warning? = (mismatch message.topic event).filterMap Effect.warning? := by
    rw [List.filterMap_append, List.filterMap_cons_none rfl, hhandler, List.append_nil]
  have hlast : ∀ x : Effect, x.warning? = none →
      (mismatch message.topic event ++ .handled event :: r.effects ++ [x]).filterMap
        Effect.warning? = (mismatch message.topic event).filterMap Effect.warning? := by
    intro x hx
    rw [List.filterMap_append, hbefore, List.filterMap_cons_none hx]
    exact List.append_nil _
  unfold dispatch
  cases r.outcome with
  | returned => exact hlast _ rfl
  | writeFailed n cause => exact hlast _ rfl
  | raised exc =>
    by_cases hexc : exc.isException = true
    · simp only [if_pos hexc]
      exact hlast _ rfl
    · simp only [if_neg hexc]
      exact hbefore

private theorem handleMessage_rejected_warnings {py : Pydantic} {message : Message}
    (h : accepted py message = none) (onEvent : EventHandler) (env : Nat → Fault PyException)
    (db : PgState) :
    (handleMessage py message onEvent env db).effects.filterMap Effect.warning? = [] := by
  unfold accepted at h
  unfold handleMessage
  cases hp : message.payload with
  | other => rfl
  | bytes payload =>
    simp only [hp] at h ⊢
    cases hv : ReadingEvent.modelValidateJson py payload with
    | ok event => simp [hv, Except.toOption] at h
    | error err => cases err <;> rfl

private theorem handleMessage_warnings (h : settings.DeviceLevel before after) (py : Pydantic)
    (self : Database) {d : Delivery} (hreceived : settings.Receives d.message.topic)
    (db : PgState) :
    let shown := (handleMessage py d.message self.handler d.env db).effects.filterMap
      Effect.warning?
    (Misplaced py before after d ∧ ∃ w, shown = [w] ∧ Warns py before after d w) ∨
      (¬ Misplaced py before after d ∧ shown = []) := by
  intro shown
  cases ha : accepted py d.message with
  | none =>
    right
    refine ⟨?_, handleMessage_rejected_warnings ha _ _ _⟩
    rintro ⟨event, hevent, _⟩
    rw [ha] at hevent
    cases hevent
  | some event =>
    have hquiet : ∀ x ∈ (self.handler event d.env db).effects, x.warning? = none := by
      intro x hx
      obtain ⟨effect, _, rfl⟩ := List.mem_map.mp hx
      rfl
    have hshown : shown = (mismatch d.message.topic event).filterMap Effect.warning? := by
      show (handleMessage py d.message self.handler d.env db).effects.filterMap _ = _
      rw [handleMessage_accepted ha]
      exact dispatch_warnings d.message event hquiet
    have hmem : event ∈ accepted py d.message := Option.mem_def.mpr ha
    rcases mismatch_received h hreceived event with ⟨hsame, hnone⟩ | ⟨hother, id, hid, hslash, hone⟩
    · right
      refine ⟨?_, by rw [hshown, hnone]; rfl⟩
      rintro ⟨event', hevent', hne⟩
      obtain rfl := Option.some.inj (ha.symm.trans hevent')
      exact hne hsame
    · left
      refine ⟨⟨event, hmem, hother⟩, ⟨d.message.topic, id, event.deviceId.val⟩, ?_, ?_⟩
      · rw [hshown, hone]
        rfl
      · exact ⟨rfl, hid, hslash, event, hmem, rfl⟩

/-! ## A session -/

private theorem messageLoop_trace (py : Pydantic) (onEvent : EventHandler) (arrivals : List Arrival)
    (db : PgState) :
    ∃ (served : List Delivery) (rest : List Arrival) (segments : List (List Effect)),
      arrivals = served.map .delivery ++ rest ∧
      (messageLoop py onEvent arrivals db).effects = segments.flatten ∧
      List.Forall₂ (fun (d : Delivery) segment => ∃ db,
        segment = (handleMessage py d.message onEvent d.env db).effects) served segments ∧
      ((messageLoop py onEvent arrivals db).ending = .waiting → rest = []) := by
  induction arrivals generalizing db with
  | nil => exact ⟨[], [], [], rfl, rfl, .nil, fun _ => rfl⟩
  | cons a arrivals ih =>
    cases a with
    | connectionError =>
      refine ⟨[], _, [], rfl, rfl, .nil, ?_⟩
      intro hwaiting
      cases hwaiting
    | cancelled =>
      refine ⟨[], _, [], rfl, rfl, .nil, ?_⟩
      intro hwaiting
      cases hwaiting
    | delivery d =>
      simp only [messageLoop]
      cases hraised : (handleMessage py d.message onEvent d.env db).raised with
      | some exc =>
        refine ⟨[d], arrivals, [_], rfl, (List.append_nil _).symm, .cons ⟨db, rfl⟩ .nil, ?_⟩
        intro hwaiting
        cases hwaiting
      | none =>
        obtain ⟨served, rest, segments, harr, heff, hsegs, hend⟩ :=
          ih (handleMessage py d.message onEvent d.env db).state
        refine ⟨d :: served, rest, _ :: segments, ?_, ?_, .cons ⟨db, rfl⟩ hsegs, hend⟩
        · rw [harr]
          rfl
        · rw [heff]
          rfl

private theorem warnings_segments (h : settings.DeviceLevel before after) {py : Pydantic}
    {self : Database} {served : List Delivery} {segments : List (List Effect)}
    (hsegments : List.Forall₂ (fun (d : Delivery) segment => ∃ db,
      segment = (handleMessage py d.message self.handler d.env db).effects) served segments)
    (hreceived : ∀ d ∈ served, settings.Receives d.message.topic) :
    List.Forall₂ (Warns py before after) (served.filter (Misplaced py before after ·))
      (segments.flatten.filterMap Effect.warning?) := by
  induction hsegments with
  | nil => exact .nil
  | @cons d segment served segments hd _ ih =>
    obtain ⟨db, rfl⟩ := hd
    have htail := ih fun d' hd' => hreceived d' (List.mem_cons_of_mem _ hd')
    rw [List.flatten_cons, List.filterMap_append]
    rcases handleMessage_warnings h py self (hreceived d List.mem_cons_self) db with
      ⟨hmisplaced, w, hshown, hwarns⟩ | ⟨hplaced, hshown⟩
    · rw [hshown, List.filter_cons_of_pos (by simpa using hmisplaced)]
      exact .cons hwarns htail
    · rw [hshown, List.filter_cons_of_neg (by simpa using hplaced)]
      exact htail

/-- In a session all of whose messages come from the subscription, the warnings are about the
messages whose payload is an event of a device with another topic: one for each of them, in their
order, whatever happens to their writes. -/
theorem warnings_are_misplaced (h : settings.DeviceLevel before after) (py : Pydantic)
    (self : Database) {arrivals : List Arrival}
    (hreceived : ∀ d, .delivery d ∈ arrivals → settings.Receives d.message.topic)
    (db : PgState) :
    let s := runSubscriber py settings (some self.handler) .subscribed arrivals db
    ∃ (served : List Delivery) (rest : List Arrival), arrivals = served.map .delivery ++ rest ∧
      (s.ending = .waiting → rest = []) ∧
      List.Forall₂ (Warns py before after) (served.filter (Misplaced py before after ·))
        (s.effects.filterMap Effect.warning?) := by
  intro s
  obtain ⟨served, rest, segments, harr, heff, hsegs, hend⟩ :=
    messageLoop_trace py self.handler arrivals db
  refine ⟨served, rest, harr, hend, ?_⟩
  have hshown : s.effects.filterMap Effect.warning? =
      segments.flatten.filterMap Effect.warning? := by
    rw [← heff]
    rfl
  rw [hshown]
  apply warnings_segments h hsegs
  intro d hd
  apply hreceived d
  rw [harr]
  exact List.mem_append_left _ (List.mem_map_of_mem hd)

/-- An event of device `a` comes on the topic of `b`. -/
theorem warnings_are_misplaced_once :
    let py := Pydantic.ofDocument phPayload (phDocument "a" ["7"])
    let d : Delivery := ⟨⟨"owp/v1/devices/b/readings", .bytes phPayload, 1, 1⟩, fun _ => .none⟩
    let s := runSubscriber py (Settings.default "127.0.0.1") (some Database.localStack.handler)
      .subscribed [.delivery d] PgState.empty
    ∃ w, s.effects.filterMap Effect.warning? = [w] ∧ w.payloadDeviceId = "a" ∧
      Warns py ["owp".toList, "v1".toList, "devices".toList] ["readings".toList] d w := by
  intro py d s
  have hreceived : ∀ d', Arrival.delivery d' ∈ [Arrival.delivery d] →
      (Settings.default "127.0.0.1").Receives d'.message.topic := by
    intro d' hd'
    obtain rfl := Arrival.delivery.inj (List.mem_singleton.mp hd')
    exact ⟨_, (deviceLevel_default _).subscription, by decide⟩
  obtain ⟨served, rest, harr, hend, hwarns⟩ := warnings_are_misplaced
    (deviceLevel_default "127.0.0.1") py Database.localStack hreceived PgState.empty
  have hrest : rest = [] := hend rfl
  rw [hrest, List.append_nil] at harr
  obtain ⟨d', hserved, hsame⟩ := List.map_eq_singleton_iff.mp harr.symm
  obtain rfl := Arrival.delivery.inj hsame
  have hevent : accepted py d.message = some (phEvent ⟨"a", by decide, by decide⟩ 7 []) := rfl
  have hmisplaced : [d].filter (Misplaced py ["owp".toList, "v1".toList, "devices".toList]
      ["readings".toList] ·) = [d] :=
    List.filter_cons_of_pos (decide_eq_true ⟨_, hevent, by decide⟩)
  rw [hserved, hmisplaced] at hwarns
  obtain ⟨w, ws, hw, hnone, hshown⟩ := List.forall₂_cons_left_iff.mp hwarns
  obtain rfl := List.forall₂_nil_left_iff.mp hnone
  obtain ⟨event, hmem, hpayload⟩ := hw.payload
  obtain rfl := Option.some.inj (hevent.symm.trans hmem)
  exact ⟨w, hshown, hpayload.symm, hw⟩

/-! ## Nothing but warnings -/

/-- The same arrival, but for the topic of a message. -/
inductive Arrival.Retopic : Arrival → Arrival → Prop
  | delivery (d : Delivery) (topic : String) :
    Retopic (.delivery d) (.delivery { d with message := { d.message with topic := topic } })
  | connectionError : Retopic .connectionError .connectionError
  | cancelled : Retopic .cancelled .cancelled

def Effect.isLog : Effect → Bool
  | .logged _ => true
  | .opened _ | .manualAckSet _ | .subscribed _ _ | .handled _ | .write _ | .acked _ _ => false

def SameButLogs (effects effects' : List Effect) : Prop :=
  effects.filter (!·.isLog) = effects'.filter (!·.isLog)

theorem SameButLogs.append {a a' b b' : List Effect} (h : SameButLogs a a')
    (h' : SameButLogs b b') : SameButLogs (a ++ b) (a' ++ b') := by
  unfold SameButLogs
  rw [List.filter_append, List.filter_append, h, h']

private theorem mismatch_isLog (topic : String) (event : ReadingEvent) :
    (mismatch topic event).filter (!·.isLog) = [] := by
  unfold mismatch
  cases deviceIdFromTopic topic with
  | none => rfl
  | some d =>
    by_cases hd : d ≠ event.deviceId.val
    · simp only [if_pos hd]
      rfl
    · simp only [if_neg hd]
      rfl

private theorem dispatch_retopic (message : Message) (topic : String) (event : ReadingEvent)
    (r : Handled) :
    let h := dispatch message event r
    let h' := dispatch { message with topic := topic } event r
    h'.state = h.state ∧ h'.raised = h.raised ∧ SameButLogs h.effects h'.effects := by
  have hbefore : SameButLogs (mismatch message.topic event ++ .handled event :: r.effects)
      (mismatch topic event ++ .handled event :: r.effects) := by
    apply SameButLogs.append
    · exact (mismatch_isLog message.topic event).trans (mismatch_isLog topic event).symm
    · rfl
  have hlast : ∀ x : Effect,
      SameButLogs (mismatch message.topic event ++ .handled event :: r.effects ++ [x])
        (mismatch topic event ++ .handled event :: r.effects ++ [x]) :=
    fun x => hbefore.append rfl
  unfold dispatch
  cases r.outcome with
  | returned => exact ⟨rfl, rfl, hlast _⟩
  | writeFailed n cause => exact ⟨rfl, rfl, hlast _⟩
  | raised exc =>
    by_cases hexc : exc.isException = true
    · simp only [if_pos hexc]
      exact ⟨trivial, trivial, hlast _⟩
    · simp only [if_neg hexc]
      exact ⟨trivial, trivial, hbefore⟩

private theorem handleMessage_retopic (py : Pydantic) (message : Message) (topic : String)
    (onEvent : EventHandler) (env : Nat → Fault PyException) (db : PgState) :
    let h := handleMessage py message onEvent env db
    let h' := handleMessage py { message with topic := topic } onEvent env db
    h'.state = h.state ∧ h'.raised = h.raised ∧ SameButLogs h.effects h'.effects := by
  unfold handleMessage
  cases message.payload with
  | other => exact ⟨rfl, rfl, rfl⟩
  | bytes payload =>
    cases hv : ReadingEvent.modelValidateJson py payload with
    | error err =>
      cases err with
      | validationError errors =>
        simp only [hv]
        exact ⟨trivial, trivial, rfl⟩
      | valueError error =>
        simp only [hv]
        exact ⟨trivial, trivial, rfl⟩
    | ok event =>
      simp only [hv]
      exact dispatch_retopic message topic event (onEvent event env db)

private theorem messageLoop_retopic (py : Pydantic) (onEvent : EventHandler)
    {arrivals arrivals' : List Arrival} (h : List.Forall₂ Arrival.Retopic arrivals arrivals')
    (db : PgState) :
    let s := messageLoop py onEvent arrivals db
    let s' := messageLoop py onEvent arrivals' db
    s'.state = s.state ∧ s'.ending = s.ending ∧ SameButLogs s.effects s'.effects := by
  induction h generalizing db with
  | nil => exact ⟨rfl, rfl, rfl⟩
  | @cons a a' rest rest' ha _ ih =>
    cases ha with
    | connectionError => exact ⟨rfl, rfl, rfl⟩
    | cancelled => exact ⟨rfl, rfl, rfl⟩
    | delivery d topic =>
      obtain ⟨hstate, hraised, heffects⟩ :=
        handleMessage_retopic py d.message topic onEvent d.env db
      simp only [messageLoop]
      rw [hraised]
      cases hexc : (handleMessage py d.message onEvent d.env db).raised with
      | some exc => exact ⟨hstate, rfl, heffects⟩
      | none =>
        rw [hstate]
        obtain ⟨hstate', hending, heffects'⟩ :=
          ih (handleMessage py d.message onEvent d.env db).state
        exact ⟨hstate', hending, heffects.append heffects'⟩

/-- Whatever topics the messages of a session come from, and whatever the handler: with other
topics the session leaves the same tables, calls the handler, writes and acknowledges alike, and
ends alike. Only log lines can differ. -/
theorem topics_only_logged (py : Pydantic) (settings : Settings) (handler : Option EventHandler)
    (opening : Opening) {arrivals arrivals' : List Arrival}
    (h : List.Forall₂ Arrival.Retopic arrivals arrivals') (db : PgState) :
    let s := runSubscriber py settings handler opening arrivals db
    let s' := runSubscriber py settings handler opening arrivals' db
    s'.state = s.state ∧ s'.ending = s.ending ∧ SameButLogs s.effects s'.effects := by
  obtain ⟨hstate, hending, heffects⟩ := messageLoop_retopic py (handler.getD logEvent) h db
  cases opening with
  | refused => exact ⟨rfl, rfl, rfl⟩
  | unsubscribed => exact ⟨rfl, rfl, rfl⟩
  | subscribed => exact ⟨hstate, hending, SameButLogs.append rfl heffects⟩

/-- On the topic of another device the event is written and acknowledged all the same, after a
warning. -/
theorem topics_only_logged_other :
    let py := Pydantic.ofDocument phPayload (phDocument "a" ["7"])
    let d : Delivery := ⟨⟨"owp/v1/devices/a/readings", .bytes phPayload, 1, 1⟩, fun _ => .none⟩
    let d' : Delivery := ⟨⟨"owp/v1/devices/b/readings", .bytes phPayload, 1, 1⟩, fun _ => .none⟩
    let session := fun d => runSubscriber py (Settings.default "127.0.0.1")
      (some Database.localStack.handler) .subscribed [.delivery d] PgState.empty
    (session d').state = (session d).state ∧ SameButLogs (session d).effects (session d').effects ∧
      (session d').effects.length = (session d).effects.length + 1 := by
  intro py d d' session
  have hretopic : List.Forall₂ Arrival.Retopic [.delivery d] [.delivery d'] :=
    .cons (.delivery d "owp/v1/devices/b/readings") .nil
  obtain ⟨hstate, _, heffects⟩ := topics_only_logged py (Settings.default "127.0.0.1")
    (some Database.localStack.handler) .subscribed hretopic PgState.empty
  exact ⟨hstate, heffects, by decide +kernel⟩

end OpenWater.Ingestion
