import OpenWater.Backend.Readings
import OpenWater.Ingestion.Redelivery

/-!
# Routes for devices

`backend/owp_backend/routes/devices.py`, and what its responses say about where a device is and
what it runs.
-/

namespace OpenWater.Backend

open Framework Ingestion

def rowLocation (row : DeviceRow) : Validated (Option LocationOut) :=
  match row.locationLat, row.locationLon with
  | some lat, some lon => (LocationOut.new lat lon).map some
  | _, _ => .ok none

def deviceToOut (row : DeviceRow) : Validated DeviceOut := do
  let location ← rowLocation row
  return ⟨row.deviceId, row.firstSeenAt, row.lastSeenAt, row.firmwareVersion, location⟩

def devicesPageLimit (settings : Settings) (limit : Option Nat) : Nat :=
  let pageLimit := match limit with
    | none | some 0 => settings.devicesDefaultLimit
    | some (n + 1) => n + 1
  if pageLimit > settings.devicesMaxLimit then settings.devicesMaxLimit else pageLimit

private theorem devicesPageLimit_pos (settings : Settings) (limit : Option Nat) :
    1 ≤ devicesPageLimit settings limit := by
  have hd := settings.devicesDefaultLimit_ge
  have hm := settings.devicesMaxLimit_ge
  unfold devicesPageLimit
  split <;> dsimp only <;> split <;> omega

/-- How PostgreSQL sorts for one request, and what happens to its two queries. -/
structure DevicesQueries where
  sort : Arrangement devicesOrder
  outageCount : Outage := none
  outageList : Outage := none

/-- `list_devices`; its two queries find the tables in the states `db` and `db'`. -/
def Routes.listDevices (settings : Settings) (queries : DevicesQueries) (limit : Option Int)
    (offset : Int) (db db' : PgState) : Except RequestError (PaginatedResponse DeviceOut) := do
  let (limit, offset) ← validatePage limit offset
  let pageLimit := devicesPageLimit settings (limit.map Subtype.val)
  let total ← countDevices queries.outageCount db
  let rows ← Backend.listDevices queries.sort queries.outageList pageLimit offset.val db'
  let items ← (rows.mapM deviceToOut).mapError .validationError
  return ⟨items, pageLimit, offset.val, total⟩

def Routes.getDevice (outage : Outage) (deviceId : String) (db : PgState) :
    Except RequestError DeviceOut := do
  match ← Backend.getDevice outage deviceId db with
  | none => throw (deviceNotFound deviceId)
  | some row => (deviceToOut row).mapError .validationError

private theorem withinBounds_of_between {bound : ℚ} {v : Double}
    (h : v.between (-bound) bound = true) : v.withinBounds (-bound) bound = true :=
  Double.withinBounds_iff.mpr (.inr (Double.between_iff.mp h))

private theorem rowLocation_ok {row : DeviceRow} (h : row.violation = none) :
    ∃ location, rowLocation row = .ok location ∧
      (location = none ↔ row.locationLat = none ∨ row.locationLon = none) ∧
      ∀ l ∈ location, row.locationLat = some l.lat.val ∧ row.locationLon = some l.lon.val := by
  obtain ⟨hlat, hlon⟩ := DeviceRow.violation_eq_none.mp h
  unfold rowLocation
  cases hla : row.locationLat with
  | none => exact ⟨none, rfl, by simp, by simp⟩
  | some lat =>
    cases hlo : row.locationLon with
    | none => exact ⟨none, rfl, by simp, by simp⟩
    | some lon =>
      rw [hla, Option.all_some] at hlat
      rw [hlo, Option.all_some] at hlon
      have hnew := LocationOut.new_ok (withinBounds_of_between hlat) (withinBounds_of_between hlon)
      exact ⟨some ⟨⟨lat, _⟩, ⟨lon, _⟩⟩, congrArg (Except.map some) hnew, by simp, by simp⟩

theorem deviceToOut_ok {row : DeviceRow} (h : row.violation = none) :
    ∃ out, deviceToOut row = .ok out ∧ out.deviceId = row.deviceId ∧
      out.firmwareVersion = row.firmwareVersion ∧
      (out.location = none ↔ row.locationLat = none ∨ row.locationLon = none) ∧
      ∀ l ∈ out.location, row.locationLat = some l.lat.val ∧
        row.locationLon = some l.lon.val := by
  obtain ⟨location, hlocation, hnone, hsome⟩ := rowLocation_ok h
  refine ⟨⟨row.deviceId, row.firstSeenAt, row.lastSeenAt, row.firmwareVersion, location⟩, ?_, rfl,
    rfl, hnone, hsome⟩
  rw [deviceToOut, hlocation]
  rfl

private theorem mapM_deviceToOut {rows : List DeviceRow} (h : ∀ row ∈ rows, row.violation = none) :
    ∃ items, rows.mapM deviceToOut = .ok items ∧
      items.map DeviceOut.deviceId = rows.map DeviceRow.deviceId := by
  induction rows with
  | nil => exact ⟨[], rfl, rfl⟩
  | cons row rows ih =>
    obtain ⟨items, hitems, hids⟩ := ih fun r hr => h r (List.mem_cons_of_mem _ hr)
    obtain ⟨out, hout, hid, _⟩ := deviceToOut_ok (h row List.mem_cons_self)
    refine ⟨out :: items, ?_, by rw [List.map_cons, List.map_cons, hid, hids]⟩
    rw [List.mapM_cons, hout, hitems]
    rfl

theorem Routes.listDevices_ok {settings : Settings} {queries : DevicesQueries}
    {limit : Option Int} {offset : Int} {db db' : PgState} {page : PaginatedResponse DeviceOut}
    (h : Routes.listDevices settings queries limit offset db db' = .ok page) :
    1 ≤ page.limit ∧ (page.offset : Int) = offset ∧ page.total = db.devices.rows.length ∧
      page.items.map DeviceOut.deviceId =
        (listDevicesSql queries.sort page.limit page.offset db').map DeviceRow.deviceId := by
  obtain ⟨⟨limit', offset'⟩, hpage, h⟩ := bind_ok.mp h
  obtain ⟨total, htotal, h⟩ := bind_ok.mp h
  obtain ⟨rows, hrows, h⟩ := bind_ok.mp h
  obtain ⟨items, hitems, h⟩ := bind_ok.mp h
  obtain rfl := (Except.ok.inj h).symm
  obtain ⟨_, htotal⟩ := fetch_ok.mp htotal
  obtain ⟨_, rfl⟩ := bigint_ok.mp htotal
  obtain ⟨_, _, _, rfl⟩ := Backend.listDevices_ok.mp hrows
  have hchecked : ∀ row ∈ listDevicesSql queries.sort
      (devicesPageLimit settings (limit'.map Subtype.val)) offset'.val db',
      row.violation = none := by
    intro row hrow
    exact db'.checks row ((queries.sort.perm _).mem_iff.mp ((window_sublist _ _ _).subset hrow))
  obtain ⟨items', hitems', hids⟩ := mapM_deviceToOut hchecked
  obtain rfl := Except.ok.inj ((mapError_ok.mp hitems).symm.trans hitems')
  exact ⟨devicesPageLimit_pos _ _, validateInt_val (validatePage_ok.mp hpage).2, rfl, hids⟩

/-! ## What is known of a device -/

private theorem registry_columns {pg : Asyncpg} {events : List ReadingEvent} {db : PgState}
    (hrun : commitEvents pg events PgState.empty = .ok db) {d : String} {row : DeviceRow}
    (hrow : db.devices.lookup d = some row) :
    row.firmwareVersion =
        (lastKnown ReadingEvent.firmwareVersion (ofDevice d events)).map (·.val) ∧
      row.locationLat = (lastKnown ReadingEvent.location (ofDevice d events)).map (·.lat.val) ∧
      row.locationLon = (lastKnown ReadingEvent.location (ofDevice d events)).map (·.lon.val) := by
  obtain ⟨ws, hws, rfl⟩ := commitEvents_ok.mp hrun
  rw [lookup_replay_devices] at hrow
  rw [← events_of_binds hws, ofDevice_map]
  obtain ⟨hfirmware, hlat, hlon⟩ := lastKnown_columns (ws.filter (Write.isOf d))
  rcases List.eq_nil_or_concat' (ws.filter (Write.isOf d)) with hnil | ⟨vs, v, hsplit⟩
  · rw [hnil] at hrow
    cases hrow
  · obtain ⟨row', hsummary, _, _, hf, hla, hlo⟩ := deviceSummary_append vs v
    rw [hsplit, hsummary, Option.some.injEq] at hrow
    subst hrow
    rw [← hsplit] at hf hla hlo
    exact ⟨hf.trans hfirmware, hla.trans hlat, hlo.trans hlon⟩

private theorem columns_kept {pg : Asyncpg} {event : ReadingEvent} {db db' : PgState}
    (hcommit : commitEvent pg event db = .ok db') {d : String} {row : DeviceRow}
    (hrow : db.devices.lookup d = some row) :
    ∃ row', db'.devices.lookup d = some row' ∧
      (event.location = none → row'.locationLat = row.locationLat ∧
        row'.locationLon = row.locationLon) ∧
      (event.firmwareVersion = none → row'.firmwareVersion = row.firmwareVersion) := by
  obtain ⟨w, hw, rfl⟩ := writeOnceScript_ok.mp hcommit
  obtain rfl := hw.event_eq
  rw [w.lookup_apply_devices]
  by_cases hd : w.event.deviceId.val = d
  · subst hd
    refine ⟨onDeviceConflict row w.device, by simp [registered, hrow], ?_, ?_⟩
    · intro hnone
      simp [onDeviceConflict, Write.device, ReadingEvent.deviceRow, hnone]
    · intro hnone
      simp [onDeviceConflict, Write.device, ReadingEvent.deviceRow, hnone]
  · exact ⟨row, by rw [if_neg hd, hrow], fun _ => ⟨rfl, rfl⟩, fun _ => rfl⟩

/-- Metadata stays coherent from the events to the API. After any committed sequence a device's
coordinates are those of one event of it, and are missing exactly if none carried any; its firmware
version is missing exactly if no event carried one; an event without them erases neither. The
response for the row can be built, and its location is one that an event of the device carried. -/
theorem device_metadata_coherent {pg : Asyncpg} {events : List ReadingEvent} {db : PgState}
    (hrun : commitEvents pg events PgState.empty = .ok db) {d : String} {row : DeviceRow}
    (hrow : db.devices.lookup d = some row) :
    ((row.locationLat = none ∧ row.locationLon = none) ∨
        ∃ event ∈ ofDevice d events, ∃ l ∈ event.location,
          row.locationLat = some l.lat.val ∧ row.locationLon = some l.lon.val) ∧
      (row.locationLat = none ↔ ∀ event ∈ ofDevice d events, event.location = none) ∧
      (row.locationLon = none ↔ ∀ event ∈ ofDevice d events, event.location = none) ∧
      (row.firmwareVersion = none ↔
        ∀ event ∈ ofDevice d events, event.firmwareVersion = none) ∧
      (∀ event db', commitEvent pg event db = .ok db' → ∃ row', db'.devices.lookup d = some row' ∧
        (event.location = none → row'.locationLat = row.locationLat ∧
          row'.locationLon = row.locationLon) ∧
        (event.firmwareVersion = none → row'.firmwareVersion = row.firmwareVersion)) ∧
      ∃ out, deviceToOut row = .ok out ∧
        (out.location = none ↔ ∀ event ∈ ofDevice d events, event.location = none) ∧
        ∀ l ∈ out.location, ∃ event ∈ ofDevice d events,
          event.location = some ⟨l.lat, l.lon⟩ := by
  obtain ⟨hfirmware, hlat, hlon⟩ := registry_columns hrun hrow
  have hnone : row.locationLat = none ↔ ∀ event ∈ ofDevice d events, event.location = none := by
    rw [hlat, Option.map_eq_none_iff, lastKnown_eq_none]
  have hnone' : row.locationLon = none ↔ ∀ event ∈ ofDevice d events, event.location = none := by
    rw [hlon, Option.map_eq_none_iff, lastKnown_eq_none]
  obtain ⟨out, hout, _, _, hmissing, hlocation⟩ :=
    deviceToOut_ok (db.checks row (Table.mem_of_lookup hrow))
  refine ⟨?_, hnone, hnone', ?_, fun _ _ hcommit => columns_kept hcommit hrow, out, hout, ?_, ?_⟩
  · cases hknown : lastKnown ReadingEvent.location (ofDevice d events) with
    | none => exact .inl ⟨by rw [hlat, hknown]; rfl, by rw [hlon, hknown]; rfl⟩
    | some l =>
      obtain ⟨event, he, hl⟩ := exists_of_lastKnown hknown
      exact .inr ⟨event, he, l, hl, by rw [hlat, hknown]; rfl, by rw [hlon, hknown]; rfl⟩
  · rw [hfirmware, Option.map_eq_none_iff, lastKnown_eq_none]
  · rw [hmissing, hnone, hnone', or_self]
  · intro l hl
    obtain ⟨hla, hlo⟩ := hlocation l hl
    obtain ⟨known, hknown, hlatEq⟩ := Option.map_eq_some_iff.mp (hlat.symm.trans hla)
    obtain ⟨known', hknown', hlonEq⟩ := Option.map_eq_some_iff.mp (hlon.symm.trans hlo)
    obtain rfl := Option.some.inj (hknown.symm.trans hknown')
    obtain ⟨event, he, hevent⟩ := exists_of_lastKnown hknown
    refine ⟨event, he, ?_⟩
    rw [hevent, Option.some.injEq]
    exact Location.ext (Coordinate.ext hlatEq) (Coordinate.ext hlonEq)

/-- A device says where it is, and later sends an event that does not. -/
theorem device_metadata_coherent_located :
    let located := { temperatureAt 0 20 with
      location := some ⟨⟨.finite 12, by decide⟩, ⟨.finite 56, by decide⟩⟩ }
    ∃ db row, commitEvents .utc [located, temperatureAt 60 21] PgState.empty = .ok db ∧
      db.devices.lookup "sensor-1" = some row ∧ row.locationLat ≠ none ∧
      ∃ out, deviceToOut row = .ok out ∧ out.location ≠ none := by
  intro located
  obtain ⟨db, row, hrun, hrow⟩ : ∃ db row,
      commitEvents .utc [located, temperatureAt 60 21] PgState.empty = .ok db ∧
        db.devices.lookup "sensor-1" = some row := by
    refine ⟨replay PgState.empty [⟨located, 0, by decide⟩, ⟨temperatureAt 60 21, 60, rfl⟩], _,
      commitEvents_ok.mpr ⟨_, .cons ?_ (.cons ?_ .nil), rfl⟩, rfl⟩
    · exact ⟨rfl, rfl, by decide⟩
    · exact ⟨rfl, rfl, by decide⟩
  have h := device_metadata_coherent hrun hrow
  have hknown : ¬ ∀ event ∈ ofDevice "sensor-1" [located, temperatureAt 60 21],
      event.location = none := by
    intro hall
    cases hall located (by decide)
  obtain ⟨out, hout, hlocation, _⟩ := h.2.2.2.2.2
  exact ⟨db, row, hrun, hrow, fun hn => hknown (h.2.1.mp hn), out, hout,
    fun hn => hknown (hlocation.mp hn)⟩

end OpenWater.Backend
