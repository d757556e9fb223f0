import OpenWater.Ingestion.Database

/-!
# The subscriber

`run_subscriber` and `_handle_message` of `ingestion/owp_ingestion/mqtt_client.py`. A session is
what one call of `run_subscriber` does over the messages the broker sends it; it leaves a trace in
which each message accounts for one segment.
-/

namespace OpenWater.Ingestion

open Framework

/-- A payload as aiomqtt hands it over: bytes, or one of the other types it can have. -/
inductive Payload where
  | bytes (payload : List UInt8)
  | other

structure Message where
  topic : String
  payload : Payload
  mid : Nat
  qos : Nat

/-- The arguments of `aiomqtt.Client` that `run_subscriber` passes, and the one it leaves at its
default. -/
structure ClientOptions where
  hostname : String
  port : Nat
  username : Option String
  password : Option String
  identifier : String
  cleanSession : Option Bool := none

inductive SubscriberLog where
  | connecting (host : String) (port : Nat) (clientId : String)
  | subscribed (topic : String) (qos : Nat)
  | receivedEvent (deviceId : String) (timestamp : Datetime) (readings : Nat) (firmware : String)
  | nonBytesPayload (topic : String)
  | rejectedPayload (topic : String) (errors : Nat) (preview : List UInt8)
  | malformedJson (topic error : String)
  | deviceIdMismatch (topic topicDeviceId payloadDeviceId : String)
  | writeFailedTerminally (deviceId : String) (timestamp : Datetime)
  | handlerRaised (deviceId : String) (timestamp : Datetime)

/-- What a session does that can be seen from outside, in order. -/
inductive Effect where
  | opened (options : ClientOptions)
  | manualAckSet (on : Bool)
  | subscribed (topic : String) (qos : Nat)
  | handled (event : ReadingEvent)
  | write (effect : WriteEffect)
  | acked (mid qos : Nat)
  | logged (record : SubscriberLog)

def Effect.handled? : Effect → Option ReadingEvent
  | .handled event => some event
  | _ => none

def Effect.acked? : Effect → Option (Nat × Nat)
  | .acked mid qos => some (mid, qos)
  | _ => none

structure Handled where
  outcome : WriteOutcome
  state : PgState
  effects : List Effect

abbrev EventHandler := ReadingEvent → (Nat → Fault PyException) → PgState → Handled

def logEvent : EventHandler := fun event _ db =>
  ⟨.returned, db, [.logged (.receivedEvent event.deviceId.val event.timestamp
    event.readings.length ((event.firmwareVersion.map (·.val)).getD "unknown"))]⟩

def Database.handler (self : Database) : EventHandler := fun event env db =>
  let r := self.writeEvent event env db
  ⟨r.outcome, r.state, r.effects.map .write⟩

def deviceIdFromTopic (topic : String) : Option String :=
  ((topic.toList.splitOn '/').map String.ofList)[3]?

def ack (message : Message) : Effect := .acked message.mid message.qos

def mismatch (topic : String) (event : ReadingEvent) : List Effect :=
  match deviceIdFromTopic topic with
  | none => []
  | some topicDeviceId =>
    if topicDeviceId ≠ event.deviceId.val then
      [.logged (.deviceIdMismatch topic topicDeviceId event.deviceId.val)]
    else []

structure Handling where
  state : PgState
  effects : List Effect
  raised : Option PyException

/-- The end of `_handle_message`, from the topic check on; `r` is what awaiting the handler did. -/
def dispatch (message : Message) (event : ReadingEvent) (r : Handled) : Handling :=
  let effects := mismatch message.topic event ++ .handled event :: r.effects
  match r.outcome with
  | .returned => ⟨r.state, effects ++ [ack message], none⟩
  | .writeFailed _ _ =>
    ⟨r.state, effects ++
      [.logged (.writeFailedTerminally event.deviceId.val event.timestamp)], none⟩
  | .raised exc =>
    if exc.isException then
      ⟨r.state, effects ++ [.logged (.handlerRaised event.deviceId.val event.timestamp)], none⟩
    else ⟨r.state, effects, some exc⟩

def handleMessage (py : Pydantic) (message : Message) (onEvent : EventHandler)
    (env : Nat → Fault PyException) (db : PgState) : Handling :=
  match message.payload with
  | .other => ⟨db, [.logged (.nonBytesPayload message.topic), ack message], none⟩
  | .bytes payload =>
    match ReadingEvent.modelValidateJson py payload with
    | .error (.validationError errors) =>
      ⟨db, [.logged (.rejectedPayload message.topic errors.length (payload.take 200)),
        ack message], none⟩
    | .error (.valueError error) =>
      ⟨db, [.logged (.malformedJson message.topic error), ack message], none⟩
    | .ok event => dispatch message event (onEvent event env db)

structure Delivery where
  message : Message
  env : Nat → Fault PyException

inductive Arrival where
  | delivery (d : Delivery)
  | connectionError
  | cancelled

inductive Opening where
  | refused
  | unsubscribed
  | subscribed

inductive Ending where
  | waiting
  | mqttError
  | raised (exc : PyException)

structure Session where
  state : PgState
  effects : List Effect
  ending : Ending

def messageLoop (py : Pydantic) (onEvent : EventHandler) : List Arrival → PgState → Session
  | [], db => ⟨db, [], .waiting⟩
  | .connectionError :: _, db => ⟨db, [], .mqttError⟩
  | .cancelled :: _, db => ⟨db, [], .raised .cancelledError⟩
  | .delivery d :: rest, db =>
    let h := handleMessage py d.message onEvent d.env db
    match h.raised with
    | some exc => ⟨h.state, h.effects, .raised exc⟩
    | none =>
      let s := messageLoop py onEvent rest h.state
      ⟨s.state, h.effects ++ s.effects, s.ending⟩

def clientOptions (settings : Settings) : ClientOptions where
  hostname := settings.mqttHost
  port := settings.mqttPort
  username := settings.mqttUsername
  password := settings.mqttPassword
  identifier := settings.mqttClientId

def runSubscriber (py : Pydantic) (settings : Settings) (handler : Option EventHandler)
    (opening : Opening) (arrivals : List Arrival) (db : PgState) : Session :=
  let onEvent := handler.getD logEvent
  let connecting := [.logged (.connecting settings.mqttHost settings.mqttPort
    settings.mqttClientId), .opened (clientOptions settings)]
  match opening with
  | .refused => ⟨db, connecting, .mqttError⟩
  | .unsubscribed => ⟨db, connecting ++ [.manualAckSet true], .mqttError⟩
  | .subscribed =>
    let s := messageLoop py onEvent arrivals db
    ⟨s.state, connecting ++ [.manualAckSet true, .subscribed settings.mqttTopic settings.mqttQos,
      .logged (.subscribed settings.mqttTopic settings.mqttQos)] ++ s.effects, s.ending⟩

/-! ## One message -/

def accepted (py : Pydantic) (message : Message) : Option ReadingEvent :=
  match message.payload with
  | .other => none
  | .bytes payload => (ReadingEvent.modelValidateJson py payload).toOption

/-- The write of the event returns, in an environment: an attempt within the budget succeeds, and
all before it fail in a way worth another one. -/
def Database.Returns (self : Database) (event : ReadingEvent) (env : Nat → Fault PyException) :
    Prop :=
  ∃ k < self.settings.dbWriteMaxAttempts, self.report event (env k) = .ok () ∧
    ∀ j < k, self.Retryable event (env j)

def Database.Cancelled (self : Database) (event : ReadingEvent)
    (env : Nat → Fault PyException) : Prop :=
  ∃ k < self.settings.dbWriteMaxAttempts, self.report event (env k) = .error .cancelledError ∧
    ∀ j < k, self.Retryable event (env j)

/-- The service is done with the delivery: there is nothing to store, or its write returned. -/
def Settled (py : Pydantic) (self : Database) (d : Delivery) : Prop :=
  ∀ event ∈ accepted py d.message, self.Returns event d.env

instance (self : Database) (event : ReadingEvent) (env : Nat → Fault PyException) :
    Decidable (self.Returns event env) :=
  decidable_of_iff ((self.writeEvent event env PgState.empty).outcome = .returned)
    (writeEvent_spec self event env PgState.empty).returned_iff

instance (py : Pydantic) (self : Database) (d : Delivery) : Decidable (Settled py self d) :=
  inferInstanceAs (Decidable (∀ event ∈ accepted py d.message, self.Returns event d.env))

/-- The handling of one delivery: its part of the trace, between the tables before and after. An ack
is the last thing in it, so `db'` is what the tables hold when the ack is issued. -/
structure Segment (py : Pydantic) (database : Database) (d : Delivery) (db : PgState)
    (effects : List Effect) (db' : PgState) : Prop where
  handled : effects.filterMap Effect.handled? = (accepted py d.message).toList
  acked : Settled py database d →
    effects.filterMap Effect.acked? = [(d.message.mid, d.message.qos)]
  withheld : ¬ Settled py database d → effects.filterMap Effect.acked? = []
  committed : ∀ event ∈ accepted py d.message, ∀ before after mid qos,
    effects = before ++ .acked mid qos :: after → .write (.committed event) ∈ before
  last : ∀ before after mid qos, effects = before ++ .acked mid qos :: after → after = []
  rejected : accepted py d.message = none → db' = db
  stored : ∀ event ∈ accepted py d.message, Settled py database d →
    database.AppliedOnce event db db'
  tables : ∀ event ∈ accepted py d.message,
    (.write (.committed event) ∉ effects ∧ db' = db) ∨
      (.write (.committed event) ∈ effects ∧ database.AppliedOnce event db db')

/-- The segments of a session, each starting on the tables that the one before it leaves. -/
inductive Segments (py : Pydantic) (database : Database) :
    PgState → List Delivery → List (List Effect) → PgState → Prop
  | nil (db : PgState) : Segments py database db [] [] db
  | cons {d : Delivery} {served : List Delivery} {effects : List Effect}
      {segments : List (List Effect)} {db mid db' : PgState}
      (head : Segment py database d db effects mid)
      (tail : Segments py database mid served segments db') :
      Segments py database db (d :: served) (effects :: segments) db'

private theorem mismatch_quiet (topic : String) (event : ReadingEvent) :
    ∀ x ∈ mismatch topic event, x.handled? = none ∧ x.acked? = none := by
  intro x hx
  unfold mismatch at hx
  split at hx
  · simp at hx
  · split at hx
    · rw [List.mem_singleton.mp hx]
      exact ⟨rfl, rfl⟩
    · simp at hx

theorem handleMessage_rejected {py : Pydantic} {message : Message} (h : accepted py message = none)
    (onEvent : EventHandler) (env : Nat → Fault PyException) (db : PgState) :
    ∃ record, handleMessage py message onEvent env db =
      ⟨db, [.logged record, ack message], none⟩ := by
  unfold accepted at h
  unfold handleMessage
  cases hp : message.payload with
  | other => exact ⟨_, rfl⟩
  | bytes payload =>
    simp only [hp] at h ⊢
    cases hv : ReadingEvent.modelValidateJson py payload with
    | ok event => simp [hv, Except.toOption] at h
    | error err =>
      cases err with
      | validationError errors => exact ⟨_, rfl⟩
      | valueError error => exact ⟨_, rfl⟩

theorem handleMessage_accepted {py : Pydantic} {message : Message} {event : ReadingEvent}
    (h : accepted py message = some event) (onEvent : EventHandler)
    (env : Nat → Fault PyException) (db : PgState) :
    handleMessage py message onEvent env db = dispatch message event (onEvent event env db) := by
  unfold accepted at h
  unfold handleMessage
  cases hp : message.payload with
  | other => simp [hp] at h
  | bytes payload =>
    simp only [hp] at h ⊢
    cases hv : ReadingEvent.modelValidateJson py payload with
    | error err => simp [hv, Except.toOption] at h
    | ok event' =>
      obtain rfl : event' = event := by simpa [hv, Except.toOption] using h
      rfl

theorem dispatch_state (message : Message) (event : ReadingEvent) (r : Handled) :
    (dispatch message event r).state = r.state := by
  unfold dispatch
  cases r.outcome with
  | raised exc => cases h : exc.isException <;> simp [h]
  | _ => rfl

private theorem dispatch_raised {message : Message} {event : ReadingEvent} {r : Handled}
    {exc : PyException} :
    (dispatch message event r).raised = some exc ↔
      exc = .cancelledError ∧ r.outcome = .raised .cancelledError := by
  unfold dispatch
  cases r.outcome with
  | raised exc' => cases exc' <;> simp [PyException.isException, eq_comm]
  | _ => simp

private theorem dispatch_effects (message : Message) (event : ReadingEvent) (r : Handled) :
    ∃ last, (dispatch message event r).effects =
        mismatch message.topic event ++ .handled event :: (r.effects ++ last) ∧
      ((r.outcome = .returned ∧ last = [ack message]) ∨
        (r.outcome ≠ .returned ∧ ∀ x ∈ last, x.handled? = none ∧ x.acked? = none)) := by
  unfold dispatch
  cases ho : r.outcome with
  | returned => exact ⟨[ack message], by simp, .inl ⟨rfl, rfl⟩⟩
  | writeFailed n cause =>
    refine ⟨[_], by simp; rfl, .inr ⟨by simp, ?_⟩⟩
    simp [Effect.handled?, Effect.acked?]
  | raised exc =>
    cases hexc : exc.isException with
    | true =>
      refine ⟨[_], by simp [hexc]; rfl, .inr ⟨by simp, ?_⟩⟩
      simp [Effect.handled?, Effect.acked?]
    | false => exact ⟨[], by simp [hexc], .inr ⟨by simp, by simp⟩⟩

private theorem handler_returned_iff (self : Database) (event : ReadingEvent)
    (env : Nat → Fault PyException) (db : PgState) :
    (self.handler event env db).outcome = .returned ↔ self.Returns event env :=
  (writeEvent_spec self event env db).returned_iff

private theorem handler_cancelled {self : Database} {event : ReadingEvent}
    {env : Nat → Fault PyException} {db : PgState}
    (h : (self.handler event env db).outcome = .raised .cancelledError) :
    self.Cancelled event env := by
  obtain ⟨k, hk, hexc, _, hbefore, _⟩ :=
    ((writeEvent_spec self event env db).raised_iff .cancelledError).mp h
  exact ⟨k, hk, hexc, hbefore⟩

private theorem handler_committed {self : Database} {event : ReadingEvent}
    {env : Nat → Fault PyException} {db : PgState}
    (h : (self.handler event env db).outcome = .returned) :
    .write (.committed event) ∈ (self.handler event env db).effects :=
  List.mem_map_of_mem ((writeEvent_spec self event env db).committed h)

private theorem handler_quiet (self : Database) (event : ReadingEvent)
    (env : Nat → Fault PyException) (db : PgState) :
    ∀ x ∈ (self.handler event env db).effects, x.handled? = none ∧ x.acked? = none := by
  intro x hx
  obtain ⟨effect, _, rfl⟩ := List.mem_map.mp hx
  exact ⟨rfl, rfl⟩

private theorem before_ack {before after quiet : List Effect} {mid qos : Nat} {x : Effect}
    (hquiet : ∀ y ∈ quiet, y.acked? = none)
    (h : quiet ++ [x] = before ++ .acked mid qos :: after) : before = quiet ∧ after = [] := by
  induction quiet generalizing before with
  | nil =>
    cases before with
    | nil =>
      rw [List.nil_append, List.nil_append, List.cons.injEq] at h
      exact ⟨rfl, h.2.symm⟩
    | cons b bs => simp at h
  | cons y ys ih =>
    cases before with
    | nil =>
      have hy := hquiet y List.mem_cons_self
      rw [List.cons_append, List.nil_append, List.cons.injEq] at h
      simp [h.1, Effect.acked?] at hy
    | cons b bs =>
      rw [List.cons_append, List.cons_append, List.cons.injEq] at h
      have hrest := ih (fun z hz => hquiet z (List.mem_cons_of_mem _ hz)) h.2
      rw [hrest.1, h.1]
      exact ⟨rfl, hrest.2⟩

theorem dispatch_acked (message : Message) (event : ReadingEvent) {r : Handled}
    (hquiet : ∀ x ∈ r.effects, x.acked? = none) :
    (dispatch message event r).effects.filterMap Effect.acked? =
      if r.outcome = .returned then [(message.mid, message.qos)] else [] := by
  obtain ⟨last, heffects, hlast⟩ := dispatch_effects message event r
  have hmismatch : (mismatch message.topic event).filterMap Effect.acked? = [] :=
    List.filterMap_eq_nil_iff.mpr fun x hx => (mismatch_quiet _ _ x hx).2
  have hevent : (Effect.handled event).acked? = none := rfl
  rw [heffects, List.filterMap_append, hmismatch, List.nil_append,
    List.filterMap_cons_none hevent, List.filterMap_append,
    List.filterMap_eq_nil_iff.mpr hquiet, List.nil_append]
  rcases hlast with ⟨ho, rfl⟩ | ⟨ho, hnone⟩
  · rw [if_pos ho]
    rfl
  · rw [if_neg ho]
    exact List.filterMap_eq_nil_iff.mpr fun x hx => (hnone x hx).2

private theorem dispatch_handled (message : Message) (event : ReadingEvent) {r : Handled}
    (hquiet : ∀ x ∈ r.effects, x.handled? = none) :
    (dispatch message event r).effects.filterMap Effect.handled? = [event] := by
  obtain ⟨last, heffects, hlast⟩ := dispatch_effects message event r
  have hmismatch : (mismatch message.topic event).filterMap Effect.handled? = [] :=
    List.filterMap_eq_nil_iff.mpr fun x hx => (mismatch_quiet _ _ x hx).1
  have hevent : (Effect.handled event).handled? = some event := rfl
  have hend : last.filterMap Effect.handled? = [] := by
    rcases hlast with ⟨_, rfl⟩ | ⟨_, hnone⟩
    · rfl
    · exact List.filterMap_eq_nil_iff.mpr fun x hx => (hnone x hx).1
  rw [heffects, List.filterMap_append, hmismatch, List.nil_append,
    List.filterMap_cons_some hevent, List.filterMap_append,
    List.filterMap_eq_nil_iff.mpr hquiet, hend, List.append_nil]

private theorem dispatch_before_ack {message : Message} {event : ReadingEvent} {r : Handled}
    (hquiet : ∀ x ∈ r.effects, x.acked? = none) {before after : List Effect} {mid qos : Nat}
    (h : (dispatch message event r).effects = before ++ .acked mid qos :: after) :
    r.outcome = .returned ∧ r.effects ⊆ before ∧ after = [] := by
  obtain ⟨last, heffects, hlast⟩ := dispatch_effects message event r
  rcases hlast with ⟨ho, rfl⟩ | ⟨ho, _⟩
  · have hquiet' : ∀ x ∈ mismatch message.topic event ++ Effect.handled event :: r.effects,
        x.acked? = none := by
      intro x hx
      rcases List.mem_append.mp hx with hx | hx
      · exact (mismatch_quiet _ _ x hx).2
      · rcases List.mem_cons.mp hx with rfl | hx
        · rfl
        · exact hquiet x hx
    rw [heffects, ← List.cons_append, ← List.append_assoc] at h
    obtain ⟨hbefore, hafter⟩ := before_ack hquiet' h
    refine ⟨ho, ?_, hafter⟩
    rw [hbefore]
    intro x hx
    exact List.mem_append_right _ (List.mem_cons_of_mem _ hx)
  · have hacks := dispatch_acked message event hquiet
    have hacked : (Effect.acked mid qos).acked? = some (mid, qos) := rfl
    rw [if_neg ho, h, List.filterMap_append, List.filterMap_cons_some hacked] at hacks
    simp at hacks

private theorem dispatch_writes (message : Message) (event : ReadingEvent) (r : Handled)
    (effect : WriteEffect) :
    .write effect ∈ (dispatch message event r).effects ↔ .write effect ∈ r.effects := by
  have hmismatch : .write effect ∉ mismatch message.topic event := by
    unfold mismatch
    split
    · simp
    · split <;> simp
  have hlast : ∀ x, x ≠ .write effect → (.write effect ∈ mismatch message.topic event ++
      .handled event :: r.effects ++ [x] ↔ .write effect ∈ r.effects) := by
    intro x hx
    simp [hmismatch, hx.symm]
  unfold dispatch
  cases ho : r.outcome with
  | returned => exact hlast _ (by simp [ack])
  | writeFailed n cause => exact hlast _ (by simp)
  | raised exc =>
    cases hexc : exc.isException with
    | true =>
      simp only [hexc, if_true]
      exact hlast _ (by simp)
    | false => simp [hexc, hmismatch]

private theorem dispatch_tables (self : Database) (message : Message) (event : ReadingEvent)
    (env : Nat → Fault PyException) (db : PgState) :
    let h := dispatch message event (self.handler event env db)
    (.write (.committed event) ∉ h.effects ∧ h.state = db) ∨
      (.write (.committed event) ∈ h.effects ∧ self.AppliedOnce event db h.state) := by
  intro h
  have hmem : .write (.committed event) ∈ h.effects ↔
      .committed event ∈ (self.writeEvent event env db).effects := by
    rw [dispatch_writes]
    simp [Database.handler]
  have hstate : h.state = (self.writeEvent event env db).state := dispatch_state _ _ _
  rw [hmem, hstate]
  exact (writeEvent_spec self event env db).written.state

private theorem handleMessage_segment (py : Pydantic) (self : Database) (d : Delivery)
    (db : PgState) :
    Segment py self d db (handleMessage py d.message self.handler d.env db).effects
      (handleMessage py d.message self.handler d.env db).state := by
  cases ha : accepted py d.message with
  | none =>
    obtain ⟨record, hs⟩ := handleMessage_rejected ha self.handler d.env db
    have hsettled : Settled py self d := by simp [Settled, ha]
    have hquiet : ∀ x ∈ [Effect.logged record], x.acked? = none := by simp [Effect.acked?]
    rw [hs]
    refine ⟨?_, fun _ => rfl, fun hnot => absurd hsettled hnot, by simp [ha], ?_, fun _ => rfl,
      by simp [ha], by simp [ha]⟩
    · rw [ha]
      rfl
    · intro before after mid qos hsplit
      exact (before_ack hquiet hsplit).2
  | some event =>
    have hsettled : Settled py self d ↔ self.Returns event d.env := by simp [Settled, ha]
    have hret := handler_returned_iff self event d.env db
    have hquiet := handler_quiet self event d.env db
    have hacked := dispatch_acked d.message event fun x hx => (hquiet x hx).2
    rw [handleMessage_accepted ha]
    refine ⟨?_, ?_, ?_, ?_, ?_, by simp [ha], ?_, ?_⟩
    · rw [dispatch_handled d.message event fun x hx => (hquiet x hx).1, ha]
      rfl
    · intro hs
      rw [hacked, if_pos (hret.mpr (hsettled.mp hs))]
    · intro hs
      rw [hacked, if_neg fun ho => hs (hsettled.mpr (hret.mp ho))]
    · intro event' he' before after mid qos hsplit
      rw [ha, Option.mem_some] at he'
      subst he'
      obtain ⟨ho, hbefore, _⟩ := dispatch_before_ack (fun x hx => (hquiet x hx).2) hsplit
      exact hbefore (handler_committed ho)
    · intro before after mid qos hsplit
      exact (dispatch_before_ack (fun x hx => (hquiet x hx).2) hsplit).2.2
    · intro event' he' hs
      rw [ha, Option.mem_some] at he'
      subst he'
      rw [dispatch_state]
      exact (writeEvent_spec self event d.env db).applied (hret.mpr (hsettled.mp hs))
    · intro event' he'
      rw [ha, Option.mem_some] at he'
      subst he'
      exact dispatch_tables self d.message event d.env db

/-! ## A session -/

/-- Why a session over `arrivals` stopped where it did. -/
def Ending.Explains (ending : Ending) (py : Pydantic) (self : Database) (served : List Delivery)
    (rest : List Arrival) : Prop :=
  match ending with
  | .waiting => rest = []
  | .mqttError => ∃ later, rest = .connectionError :: later
  | .raised exc => exc = .cancelledError ∧ ((∃ later, rest = .cancelled :: later) ∨
      ∃ d event, served.getLast? = some d ∧ event ∈ accepted py d.message ∧
        self.Cancelled event d.env)

private theorem Ending.explains_cons {ending : Ending} {py : Pydantic} {self : Database}
    {served : List Delivery} {rest : List Arrival} (h : ending.Explains py self served rest)
    (d : Delivery) : ending.Explains py self (d :: served) rest := by
  cases ending with
  | waiting => exact h
  | mqttError => exact h
  | raised exc =>
    obtain ⟨hexc, hrest | ⟨last, event, hlast, hevent⟩⟩ := h
    · exact ⟨hexc, .inl hrest⟩
    · refine ⟨hexc, .inr ⟨last, event, ?_, hevent⟩⟩
      rw [List.getLast?_cons, hlast]
      rfl

/-- The loop serves its arrivals in order, one segment each, until the connection fails or the task
is cancelled. -/
theorem messageLoop_segments (py : Pydantic) (self : Database) (arrivals : List Arrival)
    (db : PgState) :
    ∃ (served : List Delivery) (rest : List Arrival) (segments : List (List Effect)),
      arrivals = served.map .delivery ++ rest ∧
      (messageLoop py self.handler arrivals db).effects = segments.flatten ∧
      Segments py self db served segments (messageLoop py self.handler arrivals db).state ∧
      (messageLoop py self.handler arrivals db).ending.Explains py self served rest := by
  induction arrivals generalizing db with
  | nil => exact ⟨[], [], [], rfl, rfl, .nil db, rfl⟩
  | cons a arrivals ih =>
    cases a with
    | connectionError => exact ⟨[], _, [], rfl, rfl, .nil db, _, rfl⟩
    | cancelled => exact ⟨[], _, [], rfl, rfl, .nil db, rfl, .inl ⟨_, rfl⟩⟩
    | delivery d =>
      have hsegment := handleMessage_segment py self d db
      simp only [messageLoop]
      cases hraised : (handleMessage py d.message self.handler d.env db).raised with
      | some exc =>
        refine ⟨[d], arrivals, [_], rfl, (List.append_nil _).symm, .cons hsegment (.nil _), ?_⟩
        cases ha : accepted py d.message with
        | none =>
          obtain ⟨record, hs⟩ := handleMessage_rejected ha self.handler d.env db
          simp [hs] at hraised
        | some event =>
          rw [handleMessage_accepted ha, dispatch_raised] at hraised
          exact ⟨hraised.1, .inr ⟨d, event, rfl, by simp [ha], handler_cancelled hraised.2⟩⟩
      | none =>
        obtain ⟨served, rest, segments, harr, heff, hsegs, hend⟩ :=
          ih (handleMessage py d.message self.handler d.env db).state
        refine ⟨d :: served, rest, _ :: segments, by rw [harr]; rfl, by rw [heff]; rfl,
          .cons hsegment hsegs, Ending.explains_cons hend d⟩

section segments

variable {py : Pydantic} {self : Database} {served : List Delivery}
  {segments : List (List Effect)} {db db' : PgState}

private theorem handled_segments (h : Segments py self db served segments db') :
    segments.flatten.filterMap Effect.handled? =
      served.filterMap fun d => accepted py d.message := by
  induction h with
  | nil => rfl
  | @cons d _ _ _ _ _ _ head _ ih =>
    rw [List.flatten_cons, List.filterMap_append, head.handled, ih]
    cases ha : accepted py d.message <;> simp [ha]

private theorem acked_segments (h : Segments py self db served segments db') :
    segments.flatten.filterMap Effect.acked? =
      (served.filter (Settled py self ·)).map
        fun d => (d.message.mid, d.message.qos) := by
  induction h with
  | nil => rfl
  | @cons d _ _ _ _ _ _ head _ ih =>
    rw [List.flatten_cons, List.filterMap_append, ih]
    by_cases hs : Settled py self d
    · rw [head.acked hs, List.filter_cons_of_pos (by simpa using hs)]
      rfl
    · rw [head.withheld hs, List.filter_cons_of_neg (by simpa using hs)]
      rfl

end segments

/-- Ack discipline. A session serves its arrivals in order, and each of them on its own terms, from
the tables the one before left to those the session leaves: the handler is called exactly once for
each payload that validates, the acks are those of the deliveries there was nothing to store of and
of those whose write returned, once it is committed to the tables. Only a connection error or a
cancellation keeps it from the arrivals after that. -/
theorem runSubscriber_ack_discipline (py : Pydantic) (self : Database) (settings : Settings)
    (arrivals : List Arrival) (db : PgState) :
    let s := runSubscriber py settings (some self.handler) .subscribed arrivals db
    ∃ (served : List Delivery) (rest : List Arrival) (opening : List Effect)
        (segments : List (List Effect)),
      arrivals = served.map .delivery ++ rest ∧ s.effects = opening ++ segments.flatten ∧
      Segments py self db served segments s.state ∧
      s.effects.filterMap Effect.handled? = (served.filterMap fun d => accepted py d.message) ∧
      s.effects.filterMap Effect.acked? =
        (served.filter (Settled py self ·)).map
          (fun d => (d.message.mid, d.message.qos)) ∧
      s.ending.Explains py self served rest := by
  intro s
  obtain ⟨served, rest, segments, harr, heff, hsegs, hend⟩ :=
    messageLoop_segments py self arrivals db
  refine ⟨served, rest, _, segments, harr, congrArg (_ ++ ·) heff, hsegs, ?_, ?_, hend⟩
  · rw [← handled_segments hsegs, ← heff]
    rfl
  · rw [← acked_segments hsegs, ← heff]
    rfl

end OpenWater.Ingestion
