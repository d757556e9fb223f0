import OpenWater.Backend.Latest
import OpenWater.Ingestion.Acceptance
import OpenWater.Ingestion.Archive

/-!
# Devices do not interfere

Two histories in which one device sent the same events. Whatever the other devices sent, and however
the events of all of them were interleaved, the API answers for this device the same.
-/

namespace OpenWater.Backend

open Framework Ingestion

private theorem bindReadingsFilter_bound {pg : Asyncpg} {deviceId : String}
    {recordedFrom recordedTo : Option Datetime} {parameter : Option String}
    {filter : ReadingsFilter}
    (h : bindReadingsFilter pg deviceId recordedFrom recordedTo parameter = .ok filter) :
    filter.deviceId = deviceId ∧ filter.parameter = parameter := by
  obtain ⟨d, hd, h⟩ := bind_ok.mp h
  obtain ⟨_, _, h⟩ := bind_ok.mp h
  obtain ⟨_, _, h⟩ := bind_ok.mp h
  obtain ⟨p, hp, h⟩ := bind_ok.mp h
  obtain rfl := (Except.ok.inj h).symm
  exact ⟨(bindText_ok.mp hd).2, (bindNullableText_ok.mp hp).2⟩

structure AgreeOn (d : String) (db db' : PgState) : Prop where
  device : db.devices.lookup d = db'.devices.lookup d
  reading : ∀ row : ReadingRow, row.deviceId = d →
    (row ∈ db.readings.rows ↔ row ∈ db'.readings.rows)

private theorem agreeOn_of_events {pg : Asyncpg} {events events' : List ReadingEvent}
    {db db' : PgState}
    (hcommit : commitEvents pg events PgState.empty = .ok db)
    (hcommit' : commitEvents pg events' PgState.empty = .ok db') {d : String}
    (hsame : ofDevice d events = ofDevice d events') : AgreeOn d db db' := by
  constructor
  · rw [lookup_archivedDevice hcommit, lookup_archivedDevice hcommit', hsame]
  · rintro row rfl
    have hlookup : db.readings.lookup row.key = db'.readings.lookup row.key := by
      change db.readings.lookup (row.deviceId, row.recordedAt, row.parameter) =
        db'.readings.lookup (row.deviceId, row.recordedAt, row.parameter)
      rw [lookup_archivedReading hcommit, lookup_archivedReading hcommit', hsame]
    rw [Table.mem_iff_lookup, Table.mem_iff_lookup, hlookup]

namespace AgreeOn

variable {d : String} {db db' : PgState}

theorem selected_perm (h : AgreeOn d db db') {filter : ReadingsFilter}
    (hfilter : filter.deviceId = d) : (selected filter db).Perm (selected filter db') := by
  rw [List.perm_ext_iff_of_nodup (selected_nodup filter db) (selected_nodup filter db')]
  intro row
  rw [mem_selected, mem_selected]
  constructor
  · rintro ⟨hrow, hsel⟩
    have hd := (ReadingsFilter.selects_iff.mp hsel).1.trans hfilter
    exact ⟨(h.reading row hd).mp hrow, hsel⟩
  · rintro ⟨hrow, hsel⟩
    have hd := (ReadingsFilter.selects_iff.mp hsel).1.trans hfilter
    exact ⟨(h.reading row hd).mpr hrow, hsel⟩

/-! ## The routes -/

theorem ensureDeviceExists (h : AgreeOn d db db') (outage : Outage) :
    Backend.ensureDeviceExists outage d db = Backend.ensureDeviceExists outage d db' := by
  have hsql : ∀ deviceId, bindText d = .ok deviceId →
      deviceExistsSql deviceId db = deviceExistsSql deviceId db' := by
    intro deviceId hbound
    obtain ⟨_, rfl⟩ := bindText_ok.mp hbound
    rw [deviceExistsSql, deviceExistsSql, h.device]
  have hexists : deviceExists outage d db = deviceExists outage d db' := by
    unfold deviceExists
    cases hbound : bindText d with
    | error err => rfl
    | ok deviceId => rw [Except.map, Except.map, hsql deviceId hbound]
  rw [Backend.ensureDeviceExists, Backend.ensureDeviceExists, hexists]

theorem getDevice (h : AgreeOn d db db') (outage : Outage) :
    Routes.getDevice outage d db = Routes.getDevice outage d db' := by
  have hquery : Backend.getDevice outage d db = Backend.getDevice outage d db' := by
    unfold Backend.getDevice
    cases hbound : bindText d with
    | error err => rfl
    | ok deviceId =>
      obtain ⟨_, rfl⟩ := bindText_ok.mp hbound
      rw [Except.map, Except.map, getDeviceSql, getDeviceSql, h.device]
  rw [Routes.getDevice, Routes.getDevice, hquery]

theorem latestReadingsSql (h : AgreeOn d db db') {collation : Collation}
    (plan plan' : Arrangement (latestOrder collation)) (parameter : Option String) :
    Backend.latestReadingsSql plan d parameter db =
      Backend.latestReadingsSql plan' d parameter db' := by
  rw [latestReadingsSql_eq, latestReadingsSql_eq]
  refine congrArg (distinctOn ReadingRow.parameter)
    (plan.sort_unique plan' (h.selected_perm rfl) ?_)
  intro r hr s hs hrs hsr
  obtain ⟨hrmem, hrd, _⟩ := mem_history.mp hr
  obtain ⟨hsmem, hsd, _⟩ := mem_history.mp hs
  have hparameter : r.parameter = s.parameter := by
    by_contra hne
    rw [latestOrder, if_neg hne] at hrs
    rw [latestOrder, if_neg (Ne.symm hne)] at hsr
    exact hne (collation.antisymm _ _ hrs hsr)
  rw [latestOrder, if_pos hparameter, decide_eq_true_eq] at hrs
  rw [latestOrder, if_pos hparameter.symm, decide_eq_true_eq] at hsr
  refine Table.eq_of_key hrmem hsmem ?_
  rw [ReadingRow.key, ReadingRow.key, hrd, hsd, hparameter, le_antisymm hsr hrs]

theorem latestReadings (h : AgreeOn d db db') {collation : Collation}
    (plan plan' : Arrangement (latestOrder collation)) (outage outage' : Outage)
    (parameter : Option String) :
    Backend.latestReadings plan outage outage' d parameter db db =
      Backend.latestReadings plan' outage outage' d parameter db' db' := by
  have hquery : listLatestReadings plan outage' d parameter db =
      listLatestReadings plan' outage' d parameter db' := by
    unfold listLatestReadings
    cases hbound : bindText d with
    | error err => rfl
    | ok deviceId =>
      obtain ⟨_, rfl⟩ := bindText_ok.mp hbound
      cases hbound' : bindNullableText parameter with
      | error err => rfl
      | ok p =>
        simp only [bind, Except.bind]
        rw [h.latestReadingsSql plan plan' p]
  rw [Backend.latestReadings, Backend.latestReadings, h.ensureDeviceExists, hquery]

theorem countReadings (h : AgreeOn d db db') (pg : Asyncpg) (outage : Outage)
    (recordedFrom recordedTo : Option Datetime) (parameter : Option String) :
    Backend.countReadings pg outage d recordedFrom recordedTo parameter db =
      Backend.countReadings pg outage d recordedFrom recordedTo parameter db' := by
  unfold Backend.countReadings
  cases hbound : bindReadingsFilter pg d recordedFrom recordedTo parameter with
  | error err => rfl
  | ok filter =>
    have hlength := (h.selected_perm (bindReadingsFilter_bound hbound).1).length_eq
    simp only [bind, Except.bind, countReadingsSql, hlength]

theorem listReadingsSql (h : AgreeOn d db db') {order : SortOrder}
    (plan plan' : Arrangement (readingsOrder order)) {filter : ReadingsFilter}
    (hdevice : filter.deviceId = d) {p : String} (hp : filter.parameter = some p)
    (limit offset : Nat) :
    Backend.listReadingsSql plan filter limit offset db =
      Backend.listReadingsSql plan' filter limit offset db' := by
  refine congrArg (window limit offset) (plan.sort_unique plan' (h.selected_perm hdevice) ?_)
  intro r hr s hs hrs hsr
  refine eq_of_recordedAt hp hr hs ?_
  cases order with
  | asc =>
    rw [readingsOrder, decide_eq_true_eq] at hrs hsr
    exact le_antisymm hrs hsr
  | desc =>
    rw [readingsOrder, decide_eq_true_eq] at hrs hsr
    exact le_antisymm hsr hrs

theorem listReadings (h : AgreeOn d db db') (pg : Asyncpg) {order : SortOrder}
    (plan plan' : Arrangement (readingsOrder order)) (outage : Outage)
    (recordedFrom recordedTo : Option Datetime) (p : String) (limit offset : Nat) :
    Backend.listReadings pg plan outage d recordedFrom recordedTo (some p) limit offset db =
      Backend.listReadings pg plan' outage d recordedFrom recordedTo (some p) limit offset
        db' := by
  unfold Backend.listReadings
  cases hbound : bindReadingsFilter pg d recordedFrom recordedTo (some p) with
  | error err => rfl
  | ok filter =>
    obtain ⟨hdevice, hparameter⟩ := bindReadingsFilter_bound hbound
    cases hlimit : bigint limit with
    | error err => rfl
    | ok n =>
      cases hoffset : bigint offset with
      | error err => rfl
      | ok m =>
        simp only [bind, Except.bind]
        rw [h.listReadingsSql plan plan' hdevice hparameter]

theorem page (h : AgreeOn d db db') (api : Api) (queries : ReadingsQueries)
    (sort : ∀ order, Arrangement (readingsOrder order)) {request : ReadingsRequest}
    (hdevice : request.deviceId = d) (hparameter : request.parameter ≠ none) :
    Routes.listReadings api queries request db db db =
      Routes.listReadings api { queries with sort := sort } request db' db' db' := by
  subst hdevice
  unfold Routes.listReadings
  cases hquery : api.query request with
  | error err => rfl
  | ok query =>
    obtain ⟨p, hp⟩ := Option.ne_none_iff_exists'.mp hparameter
    have hquerySame : query.parameter = some p :=
      (Api.query_ok.mp hquery).2.2.1.trans hp
    simp only [bind, Except.bind, hquerySame]
    rw [h.ensureDeviceExists, h.countReadings,
      h.listReadings api.pg (queries.sort query.order) (sort query.order)]

end AgreeOn

/-- No device can change what the API says of another one. After two committed sequences in which a
device has the same events, in the same order, its description, its latest readings and each page
of a parameter of it are the same, errors included, whatever the other devices sent and whichever
way PostgreSQL sorts. -/
theorem device_isolated {pg : Asyncpg} {events events' : List ReadingEvent} {db db' : PgState}
    (hcommit : commitEvents pg events PgState.empty = .ok db)
    (hcommit' : commitEvents pg events' PgState.empty = .ok db') {d : String}
    (hsame : ofDevice d events = ofDevice d events') :
    (∀ outage, Routes.getDevice outage d db = Routes.getDevice outage d db') ∧
      (∀ (collation : Collation) (plan plan' : Arrangement (latestOrder collation))
        (outage outage' : Outage) (parameter : Option String),
        latestReadings plan outage outage' d parameter db db =
          latestReadings plan' outage outage' d parameter db' db') ∧
      ∀ (api : Api) (queries : ReadingsQueries)
        (sort : ∀ order, Arrangement (readingsOrder order)) (request : ReadingsRequest),
        request.deviceId = d → request.parameter ≠ none →
          Routes.listReadings api queries request db db db =
            Routes.listReadings api { queries with sort := sort } request db' db' db' := by
  have hagree := agreeOn_of_events hcommit hcommit' hsame
  refine ⟨hagree.getDevice, ?_, ?_⟩
  · intro collation plan plan' outage outage' parameter
    exact hagree.latestReadings plan plan' outage outage' parameter
  · intro api queries sort request hdevice hparameter
    exact hagree.page api queries sort hdevice hparameter

/-- An event of a second device in between makes no difference. -/
theorem device_isolated_interleaved : ∃ db db',
    commitEvents .utc [temperatureAt 0 20, temperatureAt 60 21] PgState.empty = .ok db ∧
      commitEvents .utc [temperatureAt 0 20, phEvent ⟨"a", by decide, by decide⟩ 7 [],
        temperatureAt 60 21] PgState.empty = .ok db' ∧
      Routes.getDevice none "sensor-1" db = Routes.getDevice none "sensor-1" db' := by
  obtain ⟨db, hcommit⟩ : ∃ db, commitEvents .utc [temperatureAt 0 20, temperatureAt 60 21]
      PgState.empty = .ok db := ⟨_, rfl⟩
  obtain ⟨db', hcommit'⟩ : ∃ db', commitEvents .utc [temperatureAt 0 20,
      phEvent ⟨"a", by decide, by decide⟩ 7 [], temperatureAt 60 21] PgState.empty = .ok db' :=
    ⟨_, rfl⟩
  have hsame : ofDevice "sensor-1" [temperatureAt 0 20, temperatureAt 60 21] =
      ofDevice "sensor-1" [temperatureAt 0 20, phEvent ⟨"a", by decide, by decide⟩ 7 [],
        temperatureAt 60 21] := by
    decide
  exact ⟨db, db', hcommit, hcommit', (device_isolated hcommit hcommit' hsame).1 none⟩

end OpenWater.Backend
