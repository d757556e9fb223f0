import OpenWater.Ingestion.Redelivery

/-!
# The tables as an archive

What the two tables are for, in terms of events and without SQL: for each device when it was first
and last heard of and what it last said of itself, and for each device, instant and parameter the
first value that was measured. The statements of `_write_once` compute this archive, and what it
says of a device depends on the device's own events only.
-/

namespace OpenWater.Ingestion

open Framework

def archivedDevice (pg : Asyncpg) (d : String) (events : List ReadingEvent) :
    Option DeviceRow := do
  let first ← events.head?
  let last ← events.getLast?
  let firstSeenAt ← pg.timestamptz first.timestamp
  let lastSeenAt ← pg.timestamptz last.timestamp
  return ⟨d, firstSeenAt, lastSeenAt,
    (lastKnown ReadingEvent.firmwareVersion events).map (·.val),
    (lastKnown ReadingEvent.location events).map (·.lat.val),
    (lastKnown ReadingEvent.location events).map (·.lon.val)⟩

def ReadingEvent.measures (event : ReadingEvent) (p : String) : Option Reading :=
  event.readings.find? fun reading => decide (reading.parameter.val = p)

/-- The first measurement of a parameter at an instant, among the events of a device. -/
def archivedReading (pg : Asyncpg) (t : Timestamptz) (p : String) (events : List ReadingEvent) :
    Option ReadingRow := do
  let event ← events.find? fun event =>
    decide (pg.timestamptz event.timestamp = some t) && (event.measures p).isSome
  let reading ← event.measures p
  return event.readingRow t reading

theorem lookup_archivedDevice {pg : Asyncpg} {events : List ReadingEvent} {db : PgState}
    (hcommit : commitEvents pg events PgState.empty = .ok db) (d : String) :
    db.devices.lookup d = archivedDevice pg d (ofDevice d events) := by
  obtain ⟨ws, hws, rfl⟩ := commitEvents_ok.mp hcommit
  have hinstants : ∀ w ∈ ws.filter (Write.isOf d),
      pg.timestamptz w.event.timestamp = some w.recordedAt := by
    intro w hw
    exact instants_of_binds hws w (List.mem_filter.mp hw).1
  rw [← events_of_binds hws, ofDevice_map, lookup_replay_devices]
  have hrow := lookup_replay_devices ws d
  obtain ⟨hfirmware, hlat, hlon⟩ := lastKnown_columns (ws.filter (Write.isOf d))
  rcases List.eq_nil_or_concat' (ws.filter (Write.isOf d)) with hnil | ⟨vs, v, hsplit⟩
  · rw [hnil]
    rfl
  · rw [hsplit] at hinstants hrow hfirmware hlat hlon ⊢
    obtain ⟨row, hsummary, hfirst, hlast, hf, hla, hlo⟩ := deviceSummary_append vs v
    rw [hsummary] at hrow ⊢
    have hid : row.deviceId = d := Table.key_of_lookup hrow
    have hhead := hinstants _ (List.head_mem (l := vs ++ [v]) (by simp))
    have htail := hinstants v (by simp)
    have hhead? : ((vs ++ [v]).map Write.event).head? =
        some ((vs ++ [v]).head (by simp)).event := by
      rw [List.head?_map, List.head?_eq_some_head (by simp)]
      rfl
    have hlast? : ((vs ++ [v]).map Write.event).getLast? = some v.event := by simp
    simp only [archivedDevice, hhead?, hlast?, hhead, htail, ← hfirmware, ← hlat, ← hlon, ← hf,
      ← hla, ← hlo, ← hfirst, ← hlast, ← hid, Option.bind_eq_bind, Option.bind_some, pure]

private theorem find_rows (w : Write) (t : Timestamptz) (p : String) :
    w.rows.find? (fun row => decide (row.key = (w.event.deviceId.val, t, p))) =
      if w.recordedAt = t then (w.event.measures p).map (w.event.readingRow t) else none := by
  rw [Write.rows, ReadingEvent.readingRows, List.find?_map]
  by_cases ht : w.recordedAt = t
  · subst ht
    have hkey : ((fun row : ReadingRow => decide (row.key =
        (w.event.deviceId.val, w.recordedAt, p))) ∘ w.event.readingRow w.recordedAt) =
          fun reading => decide (reading.parameter.val = p) := by
      funext reading
      exact decide_eq_decide.mpr (by simp [ReadingRow.key, ReadingEvent.readingRow])
    rw [hkey, if_pos rfl]
    rfl
  · rw [if_neg ht, Option.map_eq_none_iff, List.find?_eq_none]
    intro reading _
    simp [ReadingRow.key, ReadingEvent.readingRow, ht]

private theorem find_rows_other {w : Write} {d : String} (h : w.event.deviceId.val ≠ d)
    (t : Timestamptz) (p : String) :
    w.rows.find? (fun row => decide (row.key = (d, t, p))) = none := by
  rw [List.find?_eq_none]
  intro row hrow
  have hne : row.deviceId ≠ d := (Write.row_of_mem hrow).1 ▸ h
  simp [ReadingRow.key, hne]

private theorem archivedReading_cons (pg : Asyncpg) (t : Timestamptz) (p : String)
    (event : ReadingEvent) (events : List ReadingEvent) :
    archivedReading pg t p (event :: events) =
      (if pg.timestamptz event.timestamp = some t then
        (event.measures p).map (event.readingRow t) else none).or
        (archivedReading pg t p events) := by
  unfold archivedReading
  rw [List.find?_cons]
  by_cases ht : pg.timestamptz event.timestamp = some t
  · rw [if_pos ht, decide_eq_true ht, Bool.true_and]
    cases hp : event.measures p with
    | none => rfl
    | some reading => simp [hp]
  · rw [if_neg ht, decide_eq_false ht, Bool.false_and, Option.none_or]

private theorem find_archived {pg : Asyncpg} {ws : List Write}
    (hinstants : ∀ w ∈ ws, pg.timestamptz w.event.timestamp = some w.recordedAt) (d : String)
    (t : Timestamptz) (p : String) :
    (ws.flatMap Write.rows).find? (fun row => decide (row.key = (d, t, p))) =
      archivedReading pg t p (ofDevice d (ws.map Write.event)) := by
  induction ws with
  | nil => rfl
  | cons w ws ih =>
    have hw := hinstants w List.mem_cons_self
    have hrest := ih fun v hv => hinstants v (List.mem_cons_of_mem _ hv)
    rw [List.flatMap_cons, List.find?_append, hrest, List.map_cons]
    unfold ofDevice
    by_cases hd : w.event.deviceId.val = d
    · subst hd
      rw [List.filter_cons_of_pos (by simp), find_rows, archivedReading_cons, hw]
      simp only [Option.some.injEq]
    · rw [List.filter_cons_of_neg (by simpa using hd), find_rows_other hd, Option.none_or]

theorem lookup_archivedReading {pg : Asyncpg} {events : List ReadingEvent} {db : PgState}
    (hcommit : commitEvents pg events PgState.empty = .ok db) (d : String) (t : Timestamptz)
    (p : String) :
    db.readings.lookup (d, t, p) = archivedReading pg t p (ofDevice d events) := by
  obtain ⟨ws, hws, rfl⟩ := commitEvents_ok.mp hcommit
  rw [lookup_replay_readings, ← events_of_binds hws,
    ← find_archived (instants_of_binds hws) d t p]
  rfl

theorem archivedReading_source {pg : Asyncpg} {t : Timestamptz} {p : String}
    {events : List ReadingEvent} {row : ReadingRow}
    (h : archivedReading pg t p events = some row) :
    ∃ event ∈ events, ∃ reading ∈ event.readings, pg.timestamptz event.timestamp = some t ∧
      row = event.readingRow t reading := by
  obtain ⟨event, hevent, h⟩ := Option.bind_eq_some_iff.mp h
  obtain ⟨reading, hreading, h⟩ := Option.bind_eq_some_iff.mp h
  have hmeasures := List.find?_some hevent
  rw [Bool.and_eq_true, decide_eq_true_eq] at hmeasures
  exact ⟨event, List.mem_of_find?_eq_some hevent, reading, List.mem_of_find?_eq_some hreading,
    hmeasures.1, (Option.some.inj h).symm⟩

/-- Every column of a device's entry was given by one of its events, and its two coordinates by the
same one. -/
structure DeviceSource (pg : Asyncpg) (events : List ReadingEvent) (row : DeviceRow) : Prop where
  first : ∃ event ∈ events, pg.timestamptz event.timestamp = some row.firstSeenAt
  last : ∃ event ∈ events, pg.timestamptz event.timestamp = some row.lastSeenAt
  firmware : ∀ v ∈ row.firmwareVersion, ∃ event ∈ events, ∃ firmware ∈ event.firmwareVersion,
    firmware.val = v
  location : ∀ lat ∈ row.locationLat, ∀ lon ∈ row.locationLon, ∃ event ∈ events,
    ∃ l ∈ event.location, l.lat.val = lat ∧ l.lon.val = lon

theorem archivedDevice_source {pg : Asyncpg} {d : String} {events : List ReadingEvent}
    {row : DeviceRow} (h : archivedDevice pg d events = some row) :
    row.deviceId = d ∧ DeviceSource pg events row := by
  obtain ⟨first, hfirst, h⟩ := Option.bind_eq_some_iff.mp h
  obtain ⟨last, hlast, h⟩ := Option.bind_eq_some_iff.mp h
  obtain ⟨firstSeenAt, hfirstSeen, h⟩ := Option.bind_eq_some_iff.mp h
  obtain ⟨lastSeenAt, hlastSeen, h⟩ := Option.bind_eq_some_iff.mp h
  obtain rfl := Option.some.inj h
  refine ⟨rfl, ⟨first, List.mem_of_mem_head? hfirst, hfirstSeen⟩,
    ⟨last, List.mem_of_mem_getLast? hlast, hlastSeen⟩, ?_, ?_⟩
  · intro v hv
    obtain ⟨firmware, hknown, rfl⟩ := Option.map_eq_some_iff.mp hv
    obtain ⟨event, hevent, hgiven⟩ := exists_of_lastKnown hknown
    exact ⟨event, hevent, firmware, hgiven, rfl⟩
  · intro lat hlat lon hlon
    obtain ⟨l, hknown, rfl⟩ := Option.map_eq_some_iff.mp hlat
    obtain ⟨l', hknown', rfl⟩ := Option.map_eq_some_iff.mp hlon
    obtain rfl := Option.some.inj (hknown.symm.trans hknown')
    obtain ⟨event, hevent, hgiven⟩ := exists_of_lastKnown hknown
    exact ⟨event, hevent, l, hgiven, rfl, rfl⟩

/-- However many events are committed and in whatever order, the two tables answer for every key as
the archive of the events does. -/
theorem tables_are_archive {pg : Asyncpg} {events : List ReadingEvent} {db : PgState}
    (hcommit : commitEvents pg events PgState.empty = .ok db) :
    (∀ d, db.devices.lookup d = archivedDevice pg d (ofDevice d events)) ∧
      ∀ d t p, db.readings.lookup (d, t, p) = archivedReading pg t p (ofDevice d events) :=
  ⟨lookup_archivedDevice hcommit, lookup_archivedReading hcommit⟩

/-- Two events of one instant, both with a temperature: the first value stays. -/
theorem tables_are_archive_repeated : ∃ db,
    commitEvents .utc [temperatureAt 0 20, temperatureAt 60 21, temperatureAt 0 22]
      PgState.empty = .ok db ∧
    db.readings.lookup ("sensor-1", 0, "temperature") =
      some ⟨"sensor-1", 0, "temperature", .finite 20, "C"⟩ := by
  obtain ⟨db, hcommit⟩ : ∃ db,
      commitEvents .utc [temperatureAt 0 20, temperatureAt 60 21, temperatureAt 0 22]
        PgState.empty = .ok db := ⟨_, rfl⟩
  refine ⟨db, hcommit, ?_⟩
  rw [(tables_are_archive hcommit).2]
  decide

end OpenWater.Ingestion
