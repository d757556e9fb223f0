import OpenWater.Ingestion.Statements

/-!
# The effect of one event

Which events the tables can take, the rows such an event stands for, and its effect on the tables
as one function. The statements of `_write_once` succeed on exactly these events and compute
exactly this function, from every state of the database.
-/

namespace OpenWater.Ingestion

open Framework

def ReadingEvent.deviceRow (event : ReadingEvent) (recordedAt : Timestamptz) : DeviceRow :=
  ⟨event.deviceId.val, recordedAt, recordedAt, event.firmwareVersion.map (·.val),
    event.location.map (·.lat.val), event.location.map (·.lon.val)⟩

def ReadingEvent.readingRow (event : ReadingEvent) (recordedAt : Timestamptz)
    (reading : Reading) : ReadingRow :=
  ⟨event.deviceId.val, recordedAt, reading.parameter.val, reading.value, reading.unit.val⟩

def ReadingEvent.readingRows (event : ReadingEvent) (recordedAt : Timestamptz) : List ReadingRow :=
  event.readings.map (event.readingRow recordedAt)

/-- An event together with the instant it is stored under, once its row passes the checks. -/
structure Write where
  event : ReadingEvent
  recordedAt : Timestamptz
  checked : (event.deviceRow recordedAt).violation = none

namespace Write

def device (w : Write) : DeviceRow := w.event.deviceRow w.recordedAt

def rows (w : Write) : List ReadingRow := w.event.readingRows w.recordedAt

@[simp] theorem device_deviceId (w : Write) : w.device.deviceId = w.event.deviceId.val := rfl

theorem rows_ne_nil (w : Write) : w.rows ≠ [] := by
  simpa [rows, ReadingEvent.readingRows] using w.event.nonempty

theorem row_of_mem {w : Write} {row : ReadingRow} (h : row ∈ w.rows) :
    row.deviceId = w.event.deviceId.val ∧ row.recordedAt = w.recordedAt := by
  obtain ⟨r, _, rfl⟩ := List.mem_map.mp h
  exact ⟨rfl, rfl⟩

end Write

@[simp] theorem onDeviceConflict_deviceId (stored excluded : DeviceRow) :
    (onDeviceConflict stored excluded).deviceId = stored.deviceId := rfl

private theorem all_or {α : Type} (p : α → Bool) (a b : Option α) (ha : a.all p = true)
    (hb : b.all p = true) : (a.or b).all p = true := by
  cases a <;> simp_all

private theorem onDeviceConflict_violation {stored excluded : DeviceRow}
    (hs : stored.violation = none)
    (he : excluded.violation = none) : (onDeviceConflict stored excluded).violation = none := by
  rw [DeviceRow.violation_eq_none] at hs he ⊢
  exact ⟨all_or _ _ _ he.1 hs.1, all_or _ _ _ he.2 hs.2⟩

private theorem onDeviceConflict_self (row : DeviceRow) : onDeviceConflict row row = row := by
  simp [onDeviceConflict]

private theorem onDeviceConflict_absorb (stored excluded : DeviceRow) :
    onDeviceConflict (onDeviceConflict stored excluded) excluded =
      onDeviceConflict stored excluded := by
  simp only [onDeviceConflict]
  cases excluded.firmwareVersion <;> cases excluded.locationLat <;>
    cases excluded.locationLon <;> rfl

def registered (db : PgState) (excluded : DeviceRow) : DeviceRow :=
  match db.devices.lookup excluded.deviceId with
  | none => excluded
  | some stored => onDeviceConflict stored excluded

theorem registered_deviceId (db : PgState) (excluded : DeviceRow) :
    (registered db excluded).deviceId = excluded.deviceId := by
  unfold registered
  split
  · rfl
  · rename_i stored h
    exact (Table.key_of_lookup h : stored.deviceId = _)

theorem registered_lastSeenAt (db : PgState) (excluded : DeviceRow) :
    (registered db excluded).lastSeenAt = excluded.lastSeenAt := by
  unfold registered
  split <;> rfl

private theorem registered_violation {db : PgState} {excluded : DeviceRow}
    (h : excluded.violation = none) : (registered db excluded).violation = none := by
  unfold registered
  split
  · exact h
  · rename_i stored hs
    exact onDeviceConflict_violation (db.checks stored (Table.mem_of_lookup hs)) h

private theorem deviceUpsertSql_checked (db : PgState) {excluded : DeviceRow}
    (h : excluded.violation = none) :
    deviceUpsertSql excluded db =
      .ok (db.withDevice (registered db excluded) (registered_violation h)) := by
  unfold deviceUpsertSql
  rw [h]
  cases hl : db.devices.lookup excluded.deviceId with
  | none =>
    have hr : registered db excluded = excluded := by simp [registered, hl]
    simp only [hr]
    exact db.putDevice_checked h
  | some stored =>
    have hr : registered db excluded = onDeviceConflict stored excluded := by
      simp [registered, hl]
    simp only [hr]
    exact db.putDevice_checked _

private theorem withDevice_registers (db : PgState) {row : DeviceRow} {d : String}
    (h : row.violation = none) (hd : row.deviceId = d) :
    (db.withDevice row h).devices.lookup d ≠ none := by
  change (db.devices.put row).lookup d ≠ none
  simp [Table.lookup_put, hd]

/-- What a committed event does to the two tables. -/
def Write.apply (w : Write) (db : PgState) : PgState where
  devices := db.devices.put (registered db w.device)
  readings := db.readings.insertAll w.rows
  checks := (db.withDevice _ (registered_violation w.checked)).checks
  references := by
    intro row hrow
    rcases Table.mem_insertAll hrow with hrow | hrow
    · exact (db.withDevice _ (registered_violation w.checked)).references row hrow
    · rw [Table.lookup_put, registered_deviceId, (Write.row_of_mem hrow).1]
      simp

theorem Write.lookup_apply_devices (w : Write) (db : PgState) (d : String) :
    (w.apply db).devices.lookup d =
      if w.event.deviceId.val = d then some (registered db w.device)
      else db.devices.lookup d := by
  change (db.devices.put _).lookup d = _
  rw [Table.lookup_put, registered_deviceId]
  rfl

theorem Write.lookup_apply_readings (w : Write) (db : PgState)
    (k : String × Timestamptz × String) :
    (w.apply db).readings.lookup k =
      (db.readings.lookup k).or (w.rows.find? fun row => decide (row.key = k)) :=
  Table.lookup_insertAll _ _ _

theorem Write.mem_apply_readings {w : Write} {db : PgState} {row : ReadingRow}
    (h : row ∈ db.readings.rows) : row ∈ (w.apply db).readings.rows := by
  rw [Table.mem_iff_lookup] at h ⊢
  rw [w.lookup_apply_readings, h, Option.some_or]

theorem Write.apply_apply (w : Write) (db : PgState) : w.apply (w.apply db) = w.apply db := by
  have hdev : registered (w.apply db) w.device = registered db w.device := by
    have hl : (w.apply db).devices.lookup w.device.deviceId = some (registered db w.device) := by
      simp [w.lookup_apply_devices]
    conv_lhs => unfold registered
    rw [hl]
    change onDeviceConflict (registered db w.device) w.device = _
    unfold registered
    split
    · exact onDeviceConflict_self _
    · exact onDeviceConflict_absorb _ _
  apply PgState.ext
  · change (w.apply db).devices.put (registered (w.apply db) w.device) = _
    rw [hdev, Table.put_of_lookup]
    rw [registered_deviceId, w.lookup_apply_devices]
    simp
  · apply Table.insertAll_of_lookup
    intro row hrow
    exact Table.lookup_insertAll_ne_none.mpr (.inr ⟨row, hrow, rfl⟩)

def ReadingEvent.texts (event : ReadingEvent) : List String :=
  event.deviceId.val :: (event.firmwareVersion.map (·.val)).toList ++
    event.readings.flatMap fun r => [r.parameter.val, r.unit.val]

/-- `w` is the write `_write_once` makes of the event: TEXT takes every argument, and asyncpg
encodes the timestamp as the instant of `w`. -/
structure Binds (pg : Asyncpg) (event : ReadingEvent) (w : Write) : Prop where
  event_eq : w.event = event
  recordedAt : pg.timestamptz event.timestamp = some w.recordedAt
  texts : ∀ s ∈ event.texts, '\x00' ∉ s.toList

theorem Binds.unique {pg : Asyncpg} {event : ReadingEvent} {w w' : Write} (h : Binds pg event w)
    (h' : Binds pg event w') : w = w' := by
  have hts : w.recordedAt = w'.recordedAt := Option.some.inj (h.recordedAt.symm.trans h'.recordedAt)
  have hev : w.event = w'.event := h.event_eq.trans h'.event_eq.symm
  cases w
  cases w'
  simp_all

private theorem bindDevice_ok {pg : Asyncpg} {event : ReadingEvent} {row : DeviceRow} :
    bindDevice pg event = .ok row ↔ '\x00' ∉ event.deviceId.val.toList ∧
      (∀ x ∈ event.firmwareVersion.map (·.val), '\x00' ∉ x.toList) ∧
      ∃ ts, pg.timestamptz event.timestamp = some ts ∧ row = event.deviceRow ts := by
  simp only [bindDevice, bind, bind_ok, bindText_ok, bindTimestamptz_ok, bindNullableText_ok,
    pure, Except.pure, Except.ok.injEq]
  constructor
  · rintro ⟨_, ⟨hid, rfl⟩, ts, hts, _, ⟨hfw, rfl⟩, rfl⟩
    exact ⟨hid, hfw, ts, hts, rfl⟩
  · rintro ⟨hid, hfw, ts, hts, rfl⟩
    exact ⟨_, ⟨hid, rfl⟩, ts, hts, _, ⟨hfw, rfl⟩, rfl⟩

private theorem bindReading_ok {pg : Asyncpg} {event : ReadingEvent} {r : Reading}
    {row : ReadingRow} :
    bindReading pg event r = .ok row ↔ '\x00' ∉ event.deviceId.val.toList ∧
      '\x00' ∉ r.parameter.val.toList ∧ '\x00' ∉ r.unit.val.toList ∧
      ∃ ts, pg.timestamptz event.timestamp = some ts ∧ row = event.readingRow ts r := by
  simp only [bindReading, bind, bind_ok, bindText_ok, bindTimestamptz_ok, pure, Except.pure,
    Except.ok.injEq]
  constructor
  · rintro ⟨_, ⟨hid, rfl⟩, ts, hts, _, ⟨hp, rfl⟩, _, ⟨hu, rfl⟩, rfl⟩
    exact ⟨hid, hp, hu, ts, hts, rfl⟩
  · rintro ⟨hid, hp, hu, ts, hts, rfl⟩
    exact ⟨_, ⟨hid, rfl⟩, ts, hts, _, ⟨hp, rfl⟩, _, ⟨hu, rfl⟩, rfl⟩

private theorem executeInsert_ok {pg : Asyncpg} {event : ReadingEvent} {ts : Timestamptz}
    (hts : pg.timestamptz event.timestamp = some ts) (hid : '\x00' ∉ event.deviceId.val.toList)
    {r : Reading} {db db' : PgState} (hdev : db.devices.lookup event.deviceId.val ≠ none) :
    executeInsert pg event r db = .ok db' ↔
      ('\x00' ∉ r.parameter.val.toList ∧ '\x00' ∉ r.unit.val.toList) ∧
      db'.devices = db.devices ∧
      db'.readings = db.readings.insertIfAbsent (event.readingRow ts r) := by
  obtain ⟨db₁, hins, hd, hr⟩ := PgState.insertReading_registered
    (event.readingRow ts r) hdev
  simp only [executeInsert, mapError_ok, bind_ok, bindReading_ok, readingInsertSql]
  constructor
  · rintro ⟨row, ⟨_, hp, hu, ts', hts', rfl⟩, hrow⟩
    rw [hts, Option.some.injEq] at hts'
    subst ts'
    rw [hins, Except.ok.injEq] at hrow
    exact ⟨⟨hp, hu⟩, hrow ▸ hd, hrow ▸ hr⟩
  · rintro ⟨⟨hp, hu⟩, hd', hr'⟩
    refine ⟨_, ⟨hid, hp, hu, ts, hts, rfl⟩, ?_⟩
    rw [hins, Except.ok.injEq]
    exact PgState.ext (hd.trans hd'.symm) (hr.trans hr'.symm)

private theorem executeInserts_ok {pg : Asyncpg} {event : ReadingEvent} {ts : Timestamptz}
    (hts : pg.timestamptz event.timestamp = some ts) (hid : '\x00' ∉ event.deviceId.val.toList)
    {rs : List Reading} {db db' : PgState}
    (hdev : db.devices.lookup event.deviceId.val ≠ none) :
    runScript (rs.map (executeInsert pg event)) db = .ok db' ↔
      (∀ r ∈ rs, '\x00' ∉ r.parameter.val.toList ∧ '\x00' ∉ r.unit.val.toList) ∧
      db'.devices = db.devices ∧
      db'.readings = db.readings.insertAll (rs.map (event.readingRow ts)) := by
  induction rs generalizing db with
  | nil =>
    simp only [List.map_nil, runScript, Except.ok.injEq, List.not_mem_nil, false_implies,
      implies_true, true_and]
    constructor
    · rintro rfl
      exact ⟨rfl, rfl⟩
    · rintro ⟨hd, hr⟩
      exact (PgState.ext hd hr).symm
  | cons r rs ih =>
    simp only [List.map_cons, runScript_cons_ok, executeInsert_ok hts hid hdev]
    constructor
    · rintro ⟨db₁, ⟨hr, hd₁, hr₁⟩, hrest⟩
      obtain ⟨hrs, hd, hrows⟩ := (ih (hd₁ ▸ hdev)).mp hrest
      refine ⟨?_, hd.trans hd₁, ?_⟩
      · intro x hx
        rcases List.mem_cons.mp hx with rfl | hx
        · exact hr
        · exact hrs x hx
      · rw [hrows, hr₁]
        rfl
    · rintro ⟨htext, hd, hrows⟩
      obtain ⟨db₁, _, hd₁, hr₁⟩ := PgState.insertReading_registered
        (event.readingRow ts r) hdev
      refine ⟨db₁, ⟨htext r List.mem_cons_self, hd₁, hr₁⟩, (ih (hd₁ ▸ hdev)).mpr ?_⟩
      refine ⟨fun x hx => htext x (List.mem_cons_of_mem _ hx), hd.trans hd₁.symm, ?_⟩
      rw [hrows, hr₁]
      rfl

private theorem texts_iff {event : ReadingEvent} :
    (∀ s ∈ event.texts, '\x00' ∉ s.toList) ↔ '\x00' ∉ event.deviceId.val.toList ∧
      (∀ x ∈ event.firmwareVersion.map (·.val), '\x00' ∉ x.toList) ∧
      ∀ r ∈ event.readings, '\x00' ∉ r.parameter.val.toList ∧ '\x00' ∉ r.unit.val.toList := by
  simp only [ReadingEvent.texts, List.cons_append, List.mem_cons, List.mem_append,
    Option.mem_toList, List.mem_flatMap, List.not_mem_nil, or_false]
  constructor
  · intro h
    exact ⟨h _ (.inl rfl), fun x hx => h x (.inr (.inl hx)), fun r hr =>
      ⟨h _ (.inr (.inr ⟨r, hr, .inl rfl⟩)), h _ (.inr (.inr ⟨r, hr, .inr rfl⟩))⟩⟩
  · rintro ⟨hid, hfw, hrs⟩ s (rfl | hs | ⟨r, hr, rfl | rfl⟩)
    · exact hid
    · exact hfw s hs
    · exact (hrs r hr).1
    · exact (hrs r hr).2

/-- The statements of `_write_once` compute `Write.apply`, from every state of the tables. -/
theorem writeOnceScript_ok {pg : Asyncpg} {event : ReadingEvent} {db db' : PgState} :
    runScript (writeOnceScript pg event) db = .ok db' ↔
      ∃ w, Binds pg event w ∧ db' = w.apply db := by
  simp only [writeOnceScript, runScript_cons_ok, executeUpsert, mapError_ok, bind_ok,
    bindDevice_ok]
  constructor
  · rintro ⟨db₁, ⟨row, ⟨hid, hfw, ts, hts, rfl⟩, hup⟩, hins⟩
    cases hv : (event.deviceRow ts).violation with
    | some name => simp [deviceUpsertSql, hv] at hup
    | none =>
      rw [deviceUpsertSql_checked db hv, Except.ok.injEq] at hup
      have hdev : db₁.devices.lookup event.deviceId.val ≠ none :=
        hup ▸ withDevice_registers db (registered_violation hv) (registered_deviceId db _)
      obtain ⟨htext, hd, hr⟩ := (executeInserts_ok hts hid hdev).mp hins
      refine ⟨⟨event, ts, hv⟩, ⟨rfl, hts, texts_iff.mpr ⟨hid, hfw, htext⟩⟩, ?_⟩
      apply PgState.ext
      · rw [hd, ← hup]
        rfl
      · rw [hr, ← hup]
        rfl
  · rintro ⟨w, ⟨rfl, hts, htexts⟩, rfl⟩
    obtain ⟨hid, hfw, htext⟩ := texts_iff.mp htexts
    refine ⟨_, ⟨_, ⟨hid, hfw, w.recordedAt, hts, rfl⟩, deviceUpsertSql_checked db w.checked⟩, ?_⟩
    exact (executeInserts_ok hts hid
      (withDevice_registers db _ (registered_deviceId db _))).mpr ⟨htext, rfl, rfl⟩

private theorem executeUpsert_report (pg : Asyncpg) (event : ReadingEvent) (db db' : PgState) :
    reportOf (executeUpsert pg event db) = reportOf (executeUpsert pg event db') := by
  unfold executeUpsert
  cases hb : bindDevice pg event with
  | error err => rfl
  | ok row =>
    cases hv : row.violation with
    | some name => simp [Except.bind, deviceUpsertSql, hv]
    | none =>
      simp only [Except.bind, deviceUpsertSql_checked _ hv]
      rfl

private theorem executeUpsert_registers {pg : Asyncpg} {event : ReadingEvent} {db db' : PgState}
    (h : executeUpsert pg event db = .ok db') :
    db'.devices.lookup event.deviceId.val ≠ none := by
  simp only [executeUpsert, mapError_ok, bind_ok, bindDevice_ok] at h
  obtain ⟨row, ⟨_, _, ts, _, rfl⟩, hup⟩ := h
  cases hv : (event.deviceRow ts).violation with
  | some name => simp [deviceUpsertSql, hv] at hup
  | none =>
    rw [deviceUpsertSql_checked db hv, Except.ok.injEq] at hup
    exact hup ▸ withDevice_registers db (registered_violation hv) (registered_deviceId db _)

private theorem executeInsert_report (pg : Asyncpg) (event : ReadingEvent) (r : Reading)
    {db db' : PgState} (h : db.devices.lookup event.deviceId.val ≠ none)
    (h' : db'.devices.lookup event.deviceId.val ≠ none) :
    reportOf (executeInsert pg event r db) = reportOf (executeInsert pg event r db') := by
  unfold executeInsert readingInsertSql
  cases hb : bindReading pg event r with
  | error err => rfl
  | ok row =>
    obtain ⟨_, _, _, ts, _, rfl⟩ := bindReading_ok.mp hb
    obtain ⟨db₁, hins, _⟩ := PgState.insertReading_registered
      (event.readingRow ts r) h
    obtain ⟨db₂, hins', _⟩ := PgState.insertReading_registered
      (event.readingRow ts r) h'
    simp only [Except.bind, hins, hins']
    rfl

theorem writeOnceScript_report (pg : Asyncpg) (event : ReadingEvent) (db db' : PgState) (k : Nat) :
    reportOf (runScript ((writeOnceScript pg event).take k) db) =
      reportOf (runScript ((writeOnceScript pg event).take k) db') := by
  cases k with
  | zero => rfl
  | succ k =>
    have hhead := executeUpsert_report pg event db db'
    simp only [writeOnceScript, List.take_succ_cons, runScript]
    cases hup : executeUpsert pg event db with
    | error e =>
      cases hup' : executeUpsert pg event db' with
      | error e' =>
        rw [hup, hup'] at hhead
        exact hhead
      | ok db₂ => simp [hup, hup', reportOf, Except.map] at hhead
    | ok db₁ =>
      cases hup' : executeUpsert pg event db' with
      | error e' => simp [hup, hup', reportOf, Except.map] at hhead
      | ok db₂ =>
        -- From here on the device is registered, so that no insert can miss its reference.
        apply runScript_report (P := fun s => s.devices.lookup event.deviceId.val ≠ none)
        · intro stmt hmem s s' hs hs'
          obtain ⟨r, _, rfl⟩ := List.mem_map.mp (List.mem_of_mem_take hmem)
          exact executeInsert_report pg event r hs hs'
        · intro stmt hmem s t hs hrun
          obtain ⟨r, _, rfl⟩ := List.mem_map.mp (List.mem_of_mem_take hmem)
          simp only [executeInsert, mapError_ok, bind_ok, readingInsertSql] at hrun
          obtain ⟨row, _, hrow⟩ := hrun
          rw [(PgState.insertReading_devices hrow).1]
          exact hs
        · exact executeUpsert_registers hup
        · exact executeUpsert_registers hup'

end OpenWater.Ingestion
