import OpenWater.Ingestion.Mqtt

/-!
# What the validator accepts

The payload contract against the schema: which accepted events the tables can take at all, and of
those, when every measured value of the event ends up in a row of its own.
-/

namespace OpenWater.Ingestion

open Framework

def Pydantic.ofDocument (payload : List UInt8) (document : Json) : Pydantic where
  fromJson p := if p = payload then some document else none
  float
    | .num "7" => .ok (.finite 7)
    | .num "8" => .ok (.finite 8)
    | .str _ => .error .floatParsing
    | _ => .error .floatType
  datetime
    | .num "0" => .ok ⟨0, some 0⟩
    | .str _ => .error .datetimeFromDateParsing
    | _ => .error .datetimeType

def ascii (text : String) : List UInt8 := text.toList.map fun c => c.toNat.toUInt8

def phDocument (deviceId : String) (values : List String) : Json :=
  .obj [("device_id", .str deviceId), ("timestamp", .num "0"), ("readings", .arr (values.map
    fun value => .obj [("parameter", .str "ph"), ("value", .num value), ("unit", .str "pH")]))]

def phEvent (deviceId : BoundedText 1 128) (value : ℚ) (values : List ℚ) : ReadingEvent where
  deviceId := deviceId
  timestamp := ⟨0, some 0⟩
  firmwareVersion := none
  location := none
  readings := (value :: values).map fun v =>
    ⟨⟨"ph", by decide, by decide⟩, .finite v, ⟨"pH", by decide, by decide⟩⟩
  nonempty := by simp

def phPayload : List UInt8 := ascii
  ("\x7b\"device_id\":\"a\",\"timestamp\":0,\"readings\":[" ++
    "\x7b\"parameter\":\"ph\",\"value\":7,\"unit\":\"pH\"\x7d]\x7d")

def nulPayload : List UInt8 := ascii
  ("\x7b\"device_id\":\"\\u0000\",\"timestamp\":0,\"readings\":[" ++
    "\x7b\"parameter\":\"ph\",\"value\":7,\"unit\":\"pH\"\x7d]\x7d")

def twicePayload : List UInt8 := ascii
  ("\x7b\"device_id\":\"a\",\"timestamp\":0,\"readings\":[" ++
    "\x7b\"parameter\":\"ph\",\"value\":7,\"unit\":\"pH\"\x7d," ++
    "\x7b\"parameter\":\"ph\",\"value\":8,\"unit\":\"pH\"\x7d]\x7d")

/-! ## Storable events -/

/-- The columns have a value for everything the event says. -/
structure Storable (pg : Asyncpg) (event : ReadingEvent) : Prop where
  timestamp : pg.timestamptz event.timestamp ≠ none
  texts : ∀ s ∈ event.texts, '\x00' ∉ s.toList
  location : ∀ location ∈ event.location, location.lat.val ≠ .nan ∧ location.lon.val ≠ .nan

private theorem deviceRow_checked {event : ReadingEvent} {t : Timestamptz} :
    (event.deviceRow t).violation = none ↔
      ∀ location ∈ event.location, location.lat.val ≠ .nan ∧ location.lon.val ≠ .nan := by
  rw [DeviceRow.violation_eq_none]
  cases hl : event.location with
  | none => simp [ReadingEvent.deviceRow, hl]
  | some location =>
    have hlat := Double.between_of_withinBounds location.lat.inBounds
    have hlon := Double.between_of_withinBounds location.lon.inBounds
    simp only [ReadingEvent.deviceRow, hl, Option.map_some, Option.all_some, Option.mem_some,
      forall_eq']
    exact and_congr hlat hlon

private theorem storable_iff_binds {pg : Asyncpg} {event : ReadingEvent} :
    Storable pg event ↔ ∃ w, Binds pg event w := by
  constructor
  · rintro ⟨htime, htexts, hloc⟩
    obtain ⟨t, ht⟩ := Option.ne_none_iff_exists'.mp htime
    exact ⟨⟨event, t, deviceRow_checked.mpr hloc⟩, rfl, ht, htexts⟩
  · rintro ⟨w, rfl, htime, htexts⟩
    exact ⟨by simp [htime], htexts, deviceRow_checked.mp w.checked⟩

private theorem writeOnce_healthy_iff {self : Database} {pg : Asyncpg} (hpool : self.pool = some pg)
    (event : ReadingEvent) : self.report event .none = .ok () ↔ Storable pg event := by
  rw [storable_iff_binds]
  simp only [Database.report, Database.writeOnce, hpool, transact]
  constructor
  · intro h
    cases hrun : runScript (writeOnceScript pg event) PgState.empty with
    | error err => simp [hrun] at h
    | ok db =>
      obtain ⟨w, hw, _⟩ := writeOnceScript_ok.mp hrun
      exact ⟨w, hw⟩
  · rintro ⟨w, hw⟩
    rw [writeOnceScript_ok.mpr ⟨w, hw, rfl⟩]

/-- An event the tables cannot take never gets its delivery acked, whatever the environment. -/
theorem settled_storable {py : Pydantic} {self : Database} {pg : Asyncpg}
    (hpool : self.pool = some pg) {d : Delivery} {event : ReadingEvent}
    (ha : accepted py d.message = some event) (h : Settled py self d) : Storable pg event := by
  obtain ⟨k, _, hok, _⟩ := h event ha
  rw [storable_iff_binds]
  rcases writeOnce_cases self event (d.env k) PgState.empty with
    ⟨_, pg', w, hp, hw, _⟩ | ⟨_, _, hne⟩
  · rw [hpool, Option.some.injEq] at hp
    exact ⟨w, hp ▸ hw⟩
  · exact absurd hok hne

/-- An accepted payload is no poison message exactly when its event is storable: then its
statements succeed on every state of the tables and a healthy database settles it at once; else no
statement sequence of it commits and no delivery of it is ever acked. -/
theorem accepted_stored_iff_storable {py : Pydantic} {self : Database} {pg : Asyncpg}
    (hpool : self.pool = some pg) {message : Message} {event : ReadingEvent}
    (ha : accepted py message = some event) (db : PgState) :
    ((∃ db', runScript (writeOnceScript pg event) db = .ok db') ↔ Storable pg event) ∧
      (Settled py self ⟨message, fun _ => .none⟩ ↔ Storable pg event) ∧
      ((∃ env, Settled py self ⟨message, env⟩) ↔ Storable pg event) := by
  have hhealthy : Storable pg event → Settled py self ⟨message, fun _ => .none⟩ := by
    intro h event' he
    rw [ha, Option.mem_some] at he
    subst he
    exact ⟨0, self.settings.dbWriteMaxAttempts_ge, (writeOnce_healthy_iff hpool event).mpr h,
      by simp⟩
  refine ⟨?_, ⟨settled_storable hpool ha, hhealthy⟩, ?_⟩
  · rw [storable_iff_binds]
    constructor
    · rintro ⟨db', hrun⟩
      obtain ⟨w, hw, _⟩ := writeOnceScript_ok.mp hrun
      exact ⟨w, hw⟩
    · rintro ⟨w, hw⟩
      exact ⟨_, writeOnceScript_ok.mpr ⟨w, hw, rfl⟩⟩
  · constructor
    · rintro ⟨env, h⟩
      exact settled_storable hpool ha h
    · exact fun h => ⟨_, hhealthy h⟩

private theorem nul_accepted :
    accepted (.ofDocument nulPayload (phDocument "\x00" ["7"]))
      ⟨"owp/v1/devices/a/readings", .bytes nulPayload, 1, 1⟩ =
        some (phEvent ⟨"\x00", by decide, by decide⟩ 7 []) := by
  simp only [accepted, ReadingEvent.modelValidateJson, Pydantic.ofDocument, if_true]
  rfl

private theorem twice_accepted :
    accepted (.ofDocument twicePayload (phDocument "a" ["7", "8"]))
      ⟨"owp/v1/devices/a/readings", .bytes twicePayload, 1, 1⟩ =
        some (phEvent ⟨"a", by decide, by decide⟩ 7 [8]) := by
  simp only [accepted, ReadingEvent.modelValidateJson, Pydantic.ofDocument, if_true]
  rfl

/-- The NUL is accepted, the statements fail on it with an error that is not retried, and no
delivery of the message is ever acked. -/
theorem nul_accepted_never_stored :
    let py := Pydantic.ofDocument nulPayload (phDocument "\x00" ["7"])
    let message : Message := ⟨"owp/v1/devices/a/readings", .bytes nulPayload, 1, 1⟩
    ∃ event, accepted py message = some event ∧
      runScript (writeOnceScript .utc event) PgState.empty =
        .error (.sql (.characterNotInRepertoire "\x00")) ∧
      (PyException.sql (.characterNotInRepertoire "\x00")).isRetryable = false ∧
      ∀ env, ¬ Settled py .localStack ⟨message, env⟩ := by
  intro py message
  refine ⟨_, nul_accepted, rfl, rfl, ?_⟩
  intro env h
  have hstorable := settled_storable rfl nul_accepted h
  exact hstorable.texts "\x00" (by decide) (by decide)

theorem accepted_stored_iff_storable_twice :
    let py := Pydantic.ofDocument twicePayload (phDocument "a" ["7", "8"])
    let message : Message := ⟨"owp/v1/devices/a/readings", .bytes twicePayload, 1, 1⟩
    ∃ event, accepted py message = some event ∧
      ((∃ db', runScript (writeOnceScript .utc event) PgState.empty = .ok db') ↔
        Storable .utc event) ∧
      (Settled py .localStack ⟨message, fun _ => .none⟩ ↔ Storable .utc event) ∧
      ((∃ env, Settled py .localStack ⟨message, env⟩) ↔ Storable .utc event) :=
  ⟨_, twice_accepted, accepted_stored_iff_storable rfl twice_accepted PgState.empty⟩

/-! ## Every value in a row -/

/-- Two entries of the event for one parameter say the same. -/
def ReadingEvent.Agrees (event : ReadingEvent) : Prop :=
  ∀ r ∈ event.readings, ∀ s ∈ event.readings, r.parameter = s.parameter →
    r.value = s.value ∧ r.unit = s.unit

/-- The row of every reading of the event is in the table. -/
def HoldsAll (pg : Asyncpg) (event : ReadingEvent) (db : PgState) : Prop :=
  ∀ r ∈ event.readings, ∃ t, pg.timestamptz event.timestamp = some t ∧
    event.readingRow t r ∈ db.readings.rows

/-- Where no key of the event is taken, the first entry for each parameter is the one stored. -/
private theorem holdsAll_apply {pg : Asyncpg} {event : ReadingEvent} {w : Write}
    (hw : Binds pg event w) {db : PgState}
    (hfresh : ∀ p, db.readings.lookup (event.deviceId.val, w.recordedAt, p) = none) :
    HoldsAll pg event (w.apply db) ↔ event.Agrees := by
  obtain rfl := hw.event_eq
  constructor
  · intro hall r hr s hs hp
    obtain ⟨t, ht, hrow⟩ := hall r hr
    obtain ⟨t', ht', hrow'⟩ := hall s hs
    obtain rfl : t = t' := Option.some.inj (ht.symm.trans ht')
    have hkey : (w.event.readingRow t r).key = (w.event.readingRow t s).key := by
      simp [ReadingRow.key, ReadingEvent.readingRow, hp]
    have heq := Table.eq_of_key hrow hrow' hkey
    simp only [ReadingEvent.readingRow, ReadingRow.mk.injEq, true_and] at heq
    exact ⟨heq.2.1, BoundedText.ext heq.2.2⟩
  · intro hagree r hr
    refine ⟨w.recordedAt, hw.recordedAt, ?_⟩
    have hmem : w.event.readingRow w.recordedAt r ∈ w.rows := List.mem_map_of_mem hr
    have hfound : (w.rows.find? fun row =>
        decide (row.key = (w.event.readingRow w.recordedAt r).key)) ≠ none := by
      intro hnone
      have hne := List.find?_eq_none.mp hnone _ hmem
      simp at hne
    obtain ⟨row, hrow⟩ := Option.ne_none_iff_exists'.mp hfound
    have hkey : row.key = (w.event.readingRow w.recordedAt r).key := by
      simpa using List.find?_some hrow
    obtain ⟨s, hs, rfl⟩ := List.mem_map.mp (List.mem_of_find?_eq_some hrow)
    simp only [ReadingRow.key, ReadingEvent.readingRow, Prod.mk.injEq, true_and] at hkey
    obtain ⟨hvalue, hunit⟩ := hagree s hs r hr (BoundedText.ext hkey)
    have hsame : w.event.readingRow w.recordedAt s = w.event.readingRow w.recordedAt r := by
      simp [ReadingEvent.readingRow, hkey, hvalue, hunit]
    have hfree : db.readings.lookup (w.event.readingRow w.recordedAt r).key = none :=
      hfresh r.parameter.val
    rw [Table.mem_iff_lookup, w.lookup_apply_readings, hfree, Option.none_or, hrow, hsame]

/-- After a normal return, on tables that hold no reading of the device at the event's instant,
every reading of the event has its row exactly when entries for one parameter agree. -/
theorem writeEvent_holdsAll_iff {self : Database} {pg : Asyncpg} (hpool : self.pool = some pg)
    {event : ReadingEvent} {env : Nat → Fault PyException} {db : PgState}
    (hfresh : ∀ t, pg.timestamptz event.timestamp = some t →
      ∀ p, db.readings.lookup (event.deviceId.val, t, p) = none)
    (hret : (self.writeEvent event env db).outcome = .returned) :
    HoldsAll pg event (self.writeEvent event env db).state ↔ event.Agrees := by
  obtain ⟨pg', w, hp, hw, hstate⟩ := (writeEvent_spec self event env db).applied hret
  rw [hpool, Option.some.injEq] at hp
  subst hp
  rw [hstate]
  exact holdsAll_apply hw (hfresh w.recordedAt hw.recordedAt)

/-- An accepted payload with two values for one parameter: the write returns, and the second value
is in no row. -/
theorem second_value_dropped :
    let py := Pydantic.ofDocument twicePayload (phDocument "a" ["7", "8"])
    let message : Message := ⟨"owp/v1/devices/a/readings", .bytes twicePayload, 1, 1⟩
    ∃ event, accepted py message = some event ∧
      (Database.localStack.writeEvent event (fun _ => .none) PgState.empty).outcome = .returned ∧
      ¬ HoldsAll .utc event
        (Database.localStack.writeEvent event (fun _ => .none) PgState.empty).state := by
  refine ⟨_, twice_accepted, rfl, ?_⟩
  intro hall
  obtain ⟨t, ht, hrow⟩ := hall
    ⟨⟨"ph", by decide, by decide⟩, .finite 8, ⟨"pH", by decide, by decide⟩⟩
    (by decide +kernel)
  obtain rfl : 0 = t := Option.some.inj ht
  revert hrow
  decide +kernel

def repeatedTemperature : ReadingEvent :=
  { temperatureAt 60 20 with
    readings := (temperatureAt 60 20).readings ++
      ⟨⟨"ph", by decide, by decide⟩, .finite 7, ⟨"pH", by decide, by decide⟩⟩ ::
        (temperatureAt 60 20).readings
    nonempty := by simp }

def twoWritten : PgState :=
  let write event := Database.localStack.writeEvent event fun _ => .none
  (write (temperatureAt 0 20) (write (otherDeviceAt 0 7) .empty).state).state

theorem writeEvent_holdsAll_iff_sample :
    twoWritten.readings.rows.length = 2 ∧
    (HoldsAll .utc repeatedTemperature (Database.localStack.writeEvent repeatedTemperature
      (fun _ => .none) twoWritten).state ↔ repeatedTemperature.Agrees) ∧
    repeatedTemperature.Agrees := by
  refine ⟨by decide +kernel, writeEvent_holdsAll_iff rfl ?_ rfl, ?_⟩
  · intro t ht p
    obtain rfl : 60 = t := Option.some.inj ht
    have hearlier : ∀ row ∈ twoWritten.readings.rows, row.recordedAt = 0 := by decide +kernel
    cases hrow : twoWritten.readings.lookup (repeatedTemperature.deviceId.val, 60, p) with
    | none => rfl
    | some row =>
      have hkey := Table.key_of_lookup hrow
      have hinstant : row.recordedAt = 60 := congrArg (fun key => key.2.1) hkey
      rw [hearlier row (Table.mem_of_lookup hrow)] at hinstant
      cases hinstant
  · unfold ReadingEvent.Agrees
    decide

end OpenWater.Ingestion
