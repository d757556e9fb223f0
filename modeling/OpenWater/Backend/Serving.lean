import OpenWater.Backend.Readings
import OpenWater.Ingestion.Acceptance

/-!
# Readings as JSON

From a payload to the numbers the API answers with. `ReadingOut.value` is a float without bounds,
as `Reading.value` is, and a NaN or an infinity has no number in JSON.
-/

namespace OpenWater.Backend

open Framework Ingestion

def jsonNumber : Double → Option ℚ
  | .finite q => some q
  | .nan | .negInf | .posInf => none

private theorem jsonNumber_eq_some {v : Double} {q : ℚ} :
    jsonNumber v = some q ↔ v = .finite q := by
  cases v <;> simp [jsonNumber]

/-- An item of an answer of `GET readings` or `GET readings/latest` whose last query finds the
tables in the state `db`. -/
inductive Returned (db : PgState) (out : ReadingOut) : Prop where
  | listed (api : Api) (queries : ReadingsQueries) (request : ReadingsRequest) (db₀ db₁ : PgState)
      (page : PaginatedResponse ReadingOut)
      (answer : Routes.listReadings api queries request db₀ db₁ db = .ok page)
      (item : out ∈ page.items)
  | latest (collation : Collation) (plan : Arrangement (latestOrder collation))
      (outage outage' : Outage) (deviceId : String) (parameter : Option String) (db₀ : PgState)
      (items : List ReadingOut)
      (answer : latestReadings plan outage outage' deviceId parameter db₀ db = .ok items)
      (item : out ∈ items)

theorem latestReadings_ok {collation : Collation}
    {plan : Arrangement (latestOrder collation)} {outage outage' : Outage} {deviceId : String}
    {parameter : Option String} {db db' : PgState} {items : List ReadingOut}
    (h : latestReadings plan outage outage' deviceId parameter db db' = .ok items) :
    items = (latestReadingsSql plan deviceId parameter db').map readingToOut := by
  obtain ⟨_, _, h⟩ := bind_ok.mp h
  obtain ⟨rows, hrows, h⟩ := bind_ok.mp h
  obtain ⟨_, hstatement⟩ := fetch_ok.mp hrows
  obtain ⟨_, hdevice, hbound⟩ := bind_ok.mp hstatement
  obtain ⟨_, hparameter, hselected⟩ := bind_ok.mp hbound
  rw [(bindText_ok.mp hdevice).2, (bindNullableText_ok.mp hparameter).2] at hselected
  rw [Except.ok.inj hselected]
  cases hempty : rows.isEmpty with
  | true =>
    rw [hempty] at h
    cases h
  | false =>
    rw [hempty] at h
    exact (Except.ok.inj h).symm

theorem Returned.exists_row {db : PgState} {out : ReadingOut} (h : Returned db out) :
    ∃ row ∈ db.readings.rows, out = readingToOut row := by
  cases h with
  | listed api queries request db₀ db₁ page answer item =>
    obtain ⟨_, query, filter, _, _, _, _, _, _, rfl⟩ := Routes.listReadings_ok.mp answer
    obtain ⟨row, hrow, rfl⟩ := List.mem_map.mp item
    have hsorted := (window_sublist _ _ _).subset hrow
    have hselected := ((queries.sort query.order).perm _).mem_iff.mp hsorted
    exact ⟨row, (List.mem_filter.mp hselected).1, rfl⟩
  | latest collation plan outage outage' deviceId parameter db₀ items answer item =>
    obtain rfl := latestReadings_ok answer
    obtain ⟨row, hrow, rfl⟩ := List.mem_map.mp item
    have hsorted := (List.destutter_sublist _ _).subset hrow
    exact ⟨row, (List.mem_filter.mp ((plan.perm _).mem_iff.mp hsorted)).1, rfl⟩

/-! ## What a commit stores -/

/-- The entry of an event that a commit stores: the first one of its parameter, if nothing is stored
under its key yet. -/
def Stores (pg : Asyncpg) (event : ReadingEvent) (db : PgState) (reading : Reading) : Prop :=
  event.readings.find? (fun r => decide (r.parameter = reading.parameter)) = some reading ∧
    ∀ t, pg.timestamptz event.timestamp = some t →
      db.readings.lookup (event.deviceId.val, t, reading.parameter.val) = none

private theorem find_row {event : ReadingEvent} {t : Timestamptz} {row : ReadingRow} :
    (event.readingRows t).find? (fun r => decide (r.key = row.key)) = some row ↔
      ∃ reading, event.readings.find? (fun r => decide (r.parameter = reading.parameter)) =
        some reading ∧ row = event.readingRow t reading := by
  have hkey : ∀ reading, row = event.readingRow t reading →
      ((fun r : ReadingRow => decide (r.key = row.key)) ∘ event.readingRow t) =
        fun r => decide (r.parameter = reading.parameter) := by
    rintro reading rfl
    funext r
    simp only [Function.comp_apply, ReadingRow.key, ReadingEvent.readingRow, Prod.mk.injEq,
      true_and, decide_eq_decide]
    exact ⟨BoundedText.ext, congrArg _⟩
  rw [ReadingEvent.readingRows, List.find?_map, Option.map_eq_some_iff]
  constructor
  · rintro ⟨reading, hfind, hrow⟩
    exact ⟨reading, hkey reading hrow.symm ▸ hfind, hrow.symm⟩
  · rintro ⟨reading, hfind, hrow⟩
    exact ⟨reading, (hkey reading hrow).symm ▸ hfind, hrow.symm⟩

private theorem added_iff {pg : Asyncpg} {event : ReadingEvent} {db db' : PgState}
    (hcommit : commitEvent pg event db = .ok db') {row : ReadingRow} :
    (row ∈ db'.readings.rows ∧ row ∉ db.readings.rows) ↔
      ∃ reading t, Stores pg event db reading ∧ pg.timestamptz event.timestamp = some t ∧
        row = event.readingRow t reading := by
  obtain ⟨w, hw, rfl⟩ := writeOnceScript_ok.mp hcommit
  obtain rfl := hw.event_eq
  have hadded : (row ∈ (w.apply db).readings.rows ∧ row ∉ db.readings.rows) ↔
      db.readings.lookup row.key = none ∧
        w.rows.find? (fun r => decide (r.key = row.key)) = some row := by
    rw [Table.mem_iff_lookup, Table.mem_iff_lookup, w.lookup_apply_readings]
    cases db.readings.lookup row.key <;> simp
  rw [hadded, Write.rows, find_row]
  constructor
  · rintro ⟨hfree, reading, hfind, rfl⟩
    refine ⟨reading, w.recordedAt, ⟨hfind, fun t ht => ?_⟩, hw.recordedAt, rfl⟩
    obtain rfl := Option.some.inj (hw.recordedAt.symm.trans ht)
    exact hfree
  · rintro ⟨reading, t, ⟨hfind, hfree⟩, ht, rfl⟩
    obtain rfl := Option.some.inj (hw.recordedAt.symm.trans ht)
    exact ⟨hfree _ ht, reading, hfind, rfl⟩

/-- The device sent a number, and whoever returns the row, then or later, answers with it. -/
def Servable (event : ReadingEvent) (db : PgState) (row : ReadingRow) : Prop :=
  ∃ q : ℚ, (∃ reading ∈ event.readings, reading.parameter.val = row.parameter ∧
      reading.value = .finite q) ∧ row.value = .finite q ∧
    ∀ later out, Reaches db later → Returned later out →
      (out.deviceId, out.recordedAt, out.parameter) = row.key → jsonNumber out.value = some q

/-- Every row that a commit adds is served as the device's number exactly when every entry that it
stores is finite. -/
theorem added_servable_iff {pg : Asyncpg} {event : ReadingEvent} {db db' : PgState}
    (hcommit : commitEvent pg event db = .ok db') :
    (∀ row ∈ db'.readings.rows, row ∉ db.readings.rows → Servable event db' row) ↔
      ∀ reading, Stores pg event db reading → ∃ q, reading.value = .finite q := by
  constructor
  · intro hall reading hstores
    obtain ⟨w, hw, rfl⟩ := writeOnceScript_ok.mp hcommit
    obtain ⟨hnew, hold⟩ := (added_iff hcommit).mpr
      ⟨reading, w.recordedAt, hstores, hw.recordedAt, rfl⟩
    obtain ⟨q, _, hvalue, _⟩ := hall _ hnew hold
    exact ⟨q, hvalue⟩
  · intro hfinite row hnew hold
    obtain ⟨reading, t, hstores, _, rfl⟩ := (added_iff hcommit).mp ⟨hnew, hold⟩
    obtain ⟨q, hq⟩ := hfinite reading hstores
    refine ⟨q, ⟨reading, List.mem_of_find?_eq_some hstores.1, rfl, hq⟩, hq, ?_⟩
    intro later out hreach hout hkey
    obtain ⟨row, hrow, rfl⟩ := hout.exists_row
    obtain rfl := Table.eq_of_key hrow (mem_readings_of_reaches hreach hnew) hkey
    exact jsonNumber_eq_some.mpr hq

def nanPayload : List UInt8 := ascii
  ("\x7b\"device_id\":\"a\",\"timestamp\":0,\"readings\":[" ++
    "\x7b\"parameter\":\"ph\",\"value\":NaN,\"unit\":\"pH\"\x7d]\x7d")

def nanDecoder : Pydantic :=
  { Pydantic.ofDocument nanPayload (phDocument "a" ["NaN"]) with
    float := fun j => match j with
      | .num "NaN" => .ok .nan
      | _ => .error .floatType }

def nanEvent : ReadingEvent :=
  let event := phEvent ⟨"a", by decide, by decide⟩ 0 []
  { event with
    readings := event.readings.map fun reading => { reading with value := .nan }
    nonempty := mt List.map_eq_nil_iff.mp event.nonempty }

/-- A NaN is accepted, stored and returned, and the answer has no number for it. -/
theorem nan_stored_without_number :
    ∃ db row, ReadingEvent.modelValidateJson nanDecoder nanPayload = .ok nanEvent ∧
      commitEvent .utc nanEvent .empty = .ok db ∧ row ∈ db.readings.rows ∧
      row ∉ PgState.empty.readings.rows ∧ ¬ Servable nanEvent db row ∧
      Returned db (readingToOut row) ∧ jsonNumber (readingToOut row).value = none := by
  have haccepted : ReadingEvent.modelValidateJson nanDecoder nanPayload = .ok nanEvent := by
    simp only [ReadingEvent.modelValidateJson, nanDecoder, Pydantic.ofDocument, if_true]
    rfl
  obtain ⟨db, hcommit, hrow, hanswer⟩ : ∃ db, commitEvent .utc nanEvent .empty = .ok db ∧
      ⟨"a", 0, "ph", .nan, "pH"⟩ ∈ db.readings.rows ∧ latestReadings (.preferring
        (latestOrder_trans .codepoints) (latestOrder_total .codepoints) fun _ => true) none none "a"
          none db db = .ok [⟨"a", 0, "ph", .nan, "pH"⟩] := by
    refine ⟨_, rfl, ?_, ?_⟩ <;> decide +kernel
  refine ⟨db, _, haccepted, hcommit, hrow, by decide +kernel, ?_, ?_, rfl⟩
  · rintro ⟨q, _, hvalue, _⟩
    cases hvalue
  · exact .latest _ _ none none "a" none db _ hanswer List.mem_cons_self

/-- Beside two numbers, a second temperature that is none. It is not stored. -/
def repeatedNan : ReadingEvent :=
  let event := temperatureAt 60 20
  { event with
    readings := event.readings ++ (phEvent event.deviceId 7 []).readings ++
      event.readings.map fun reading => { reading with value := .nan }
    nonempty := by simp [event.nonempty] }

theorem added_servable_iff_sample : ∃ db db', commitEvents .utc
      [otherDeviceAt 30 5, temperatureAt 0 19] .empty = .ok db ∧
    commitEvent .utc repeatedNan db = .ok db' ∧ db'.readings.rows.length = 4 ∧
    ∀ row ∈ db'.readings.rows, row ∉ db.readings.rows → Servable repeatedNan db' row := by
  obtain ⟨db, hbefore, db', hcommit, hrows⟩ : ∃ db, commitEvents .utc
      [otherDeviceAt 30 5, temperatureAt 0 19] .empty = .ok db ∧
      ∃ db', commitEvent .utc repeatedNan db = .ok db' ∧ db'.readings.rows.length = 4 :=
    ⟨_, rfl, _, rfl, by decide +kernel⟩
  refine ⟨db, db', hbefore, hcommit, hrows, (added_servable_iff hcommit).mpr ?_⟩
  intro reading hstores
  have hfirst := hstores.1
  have hmem := List.mem_of_find?_eq_some hfirst
  simp only [repeatedNan, temperatureAt, phEvent, List.map_cons, List.map_nil, List.cons_append,
    List.nil_append, List.mem_cons, List.not_mem_nil, or_false] at hmem
  rcases hmem with rfl | rfl | rfl
  · exact ⟨20, rfl⟩
  · exact ⟨7, rfl⟩
  · exact absurd hfirst (by decide)

end OpenWater.Backend
