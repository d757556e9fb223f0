import OpenWater.Backend.Latest
import OpenWater.Backend.Serving
import OpenWater.Ingestion.Archive
import OpenWater.Ingestion.Ledger

/-!
# From the devices to the API

What the API answers, in terms of what devices published: everything it says was published, what
was committed shows, and what has been shown stays.
-/

namespace OpenWater.Backend

open Framework Ingestion

/-! ## Nothing is made up -/

/-- Every reading that is served was published: a device sent a payload that validates, with this
value and unit for this parameter, and the reading has the payload's device and instant. -/
theorem served_was_published {D : Deployment} {labels : List Label} {s : System}
    (hrun : run (step D) System.start labels = some s) {out : ReadingOut}
    (hout : Returned s.db out) :
    ∃ pg event reading, D.database.pool = some pg ∧ Published D labels event ∧
      reading ∈ event.readings ∧ pg.timestamptz event.timestamp = some out.recordedAt ∧
      out = ⟨event.deviceId.val, out.recordedAt, reading.parameter.val, reading.value,
        reading.unit.val⟩ := by
  obtain ⟨row, hrow, rfl⟩ := hout.exists_row
  rcases tables_of_published hrun with hempty | ⟨pg, events, hpool, hcommit, hpublished⟩
  · rw [hempty] at hrow
    cases hrow
  · have hlookup : s.db.readings.lookup (row.deviceId, row.recordedAt, row.parameter) =
        some row := Table.lookup_of_mem hrow
    rw [lookup_archivedReading hcommit] at hlookup
    obtain ⟨event, hevent, reading, hreading, ht, hsource⟩ := archivedReading_source hlookup
    have hsent := hpublished event (List.mem_filter.mp hevent).1
    refine ⟨pg, event, reading, hpool, hsent, hreading, ht, ?_⟩
    exact congrArg readingToOut hsource

private theorem published_run : ∃ s items,
    run (step (localDeployment 20 (by decide))) System.start
      [.connect, .subscribe, publishPh, .send, .take, .attempt .none] = some s ∧
    latestReadings (sortPlan .codepoints) none none "a" none s.db s.db = .ok items ∧
    items ≠ [] ∧ Routes.getDevice none "a" s.db = .ok ⟨"a", 0, 0, none, none⟩ :=
  ⟨_, [⟨"a", 0, "ph", .finite 7, "pH"⟩], rfl, by decide +kernel, by simp, by decide +kernel⟩

/-- The reading that is served comes from the event that was published. -/
theorem served_was_published_latest : ∃ s items,
    run (step (localDeployment 20 (by decide))) System.start
      [.connect, .subscribe, publishPh, .send, .take, .attempt .none] = some s ∧
    latestReadings (sortPlan .codepoints) none none "a" none s.db s.db = .ok items ∧
    items ≠ [] ∧ ∀ out ∈ items, ∃ event,
      Published (localDeployment 20 (by decide))
        [.connect, .subscribe, publishPh, .send, .take, .attempt .none] event ∧
      out.deviceId = event.deviceId.val := by
  obtain ⟨s, items, hrun, hitems, hne, _⟩ := published_run
  refine ⟨s, items, hrun, hitems, hne, fun out hout => ?_⟩
  obtain ⟨_, event, _, _, hpublished, _, _, heq⟩ := served_was_published hrun
    (.latest .codepoints (sortPlan .codepoints) none none "a" none s.db items hitems hout)
  exact ⟨event, hpublished, congrArg ReadingOut.deviceId heq⟩

/-- An item of an answer of `GET devices` or `GET devices/{device_id}` whose last query finds the
tables in the state `db`. -/
inductive DeviceReturned (db : PgState) (out : DeviceOut) : Prop where
  | listed (settings : Settings) (queries : DevicesQueries) (limit : Option Int) (offset : Int)
      (db₀ : PgState) (page : PaginatedResponse DeviceOut)
      (answer : Routes.listDevices settings queries limit offset db₀ db = .ok page)
      (item : out ∈ page.items)
  | single (outage : Outage) (deviceId : String)
      (answer : Routes.getDevice outage deviceId db = .ok out)

private theorem mem_of_mapM_ok {ε α β : Type} {f : α → Except ε β} {xs : List α} {ys : List β}
    (h : xs.mapM f = .ok ys) {y : β} (hy : y ∈ ys) : ∃ x ∈ xs, f x = .ok y := by
  induction xs generalizing ys with
  | nil =>
    obtain rfl := (Except.ok.inj h).symm
    cases hy
  | cons x xs ih =>
    rw [List.mapM_cons] at h
    obtain ⟨b, hb, h⟩ := bind_ok.mp h
    obtain ⟨bs, hbs, h⟩ := bind_ok.mp h
    obtain rfl := (Except.ok.inj h).symm
    rcases List.mem_cons.mp hy with rfl | hy
    · exact ⟨x, List.mem_cons_self, hb⟩
    · obtain ⟨x', hx', hy'⟩ := ih hbs hy
      exact ⟨x', List.mem_cons_of_mem _ hx', hy'⟩

theorem DeviceReturned.exists_row {db : PgState} {out : DeviceOut} (h : DeviceReturned db out) :
    ∃ row ∈ db.devices.rows, deviceToOut row = .ok out := by
  cases h with
  | listed settings queries limit offset db₀ page answer item =>
    obtain ⟨_, _, answer⟩ := bind_ok.mp answer
    obtain ⟨_, _, answer⟩ := bind_ok.mp answer
    obtain ⟨rows, hrows, answer⟩ := bind_ok.mp answer
    obtain ⟨items, hitems, answer⟩ := bind_ok.mp answer
    obtain rfl := (Except.ok.inj answer).symm
    obtain ⟨_, _, _, rfl⟩ := Backend.listDevices_ok.mp hrows
    obtain ⟨row, hrow, hout⟩ := mem_of_mapM_ok (mapError_ok.mp hitems) item
    have hsorted := (window_sublist _ _ _).subset hrow
    exact ⟨row, (queries.sort.perm _).mem_iff.mp hsorted, hout⟩
  | single outage deviceId answer =>
    obtain ⟨found, hfound, answer⟩ := bind_ok.mp answer
    obtain ⟨_, _, hlookup⟩ := Backend.getDevice_ok.mp hfound
    cases found with
    | none => cases answer
    | some row => exact ⟨row, Table.mem_of_lookup hlookup, mapError_ok.mp answer⟩

private theorem deviceToOut_columns {row : DeviceRow} {out : DeviceOut}
    (h : deviceToOut row = .ok out) :
    out.deviceId = row.deviceId ∧ out.firstSeenAt = row.firstSeenAt ∧
      out.lastSeenAt = row.lastSeenAt ∧ out.firmwareVersion = row.firmwareVersion := by
  obtain ⟨location, _, h⟩ := bind_ok.mp h
  obtain rfl := Except.ok.inj h
  exact ⟨rfl, rfl, rfl, rfl⟩

def PublishedBy (D : Deployment) (labels : List Label) (d : String) (event : ReadingEvent) :
    Prop :=
  Published D labels event ∧ event.deviceId.val = d

/-- Everything the API says of a device was published under its id: the instants it was first and
last seen at, its firmware version, and its two coordinates together. -/
theorem device_was_published {D : Deployment} {labels : List Label} {s : System}
    (hrun : run (step D) System.start labels = some s) {out : DeviceOut}
    (hout : DeviceReturned s.db out) :
    ∃ pg, D.database.pool = some pg ∧
      (∃ event, PublishedBy D labels out.deviceId event ∧
        pg.timestamptz event.timestamp = some out.firstSeenAt) ∧
      (∃ event, PublishedBy D labels out.deviceId event ∧
        pg.timestamptz event.timestamp = some out.lastSeenAt) ∧
      (∀ v ∈ out.firmwareVersion, ∃ event, PublishedBy D labels out.deviceId event ∧
        ∃ firmware ∈ event.firmwareVersion, firmware.val = v) ∧
      ∀ l ∈ out.location, ∃ event, PublishedBy D labels out.deviceId event ∧
        event.location = some ⟨l.lat, l.lon⟩ := by
  obtain ⟨row, hrow, hrowOut⟩ := hout.exists_row
  rcases tables_of_published hrun with hempty | ⟨pg, events, hpool, hcommit, hpublished⟩
  · rw [hempty] at hrow
    cases hrow
  have hlookup : s.db.devices.lookup row.deviceId = some row := Table.lookup_of_mem hrow
  rw [lookup_archivedDevice hcommit] at hlookup
  obtain ⟨_, hfirst, hlast, hfirmware, hlocation⟩ := archivedDevice_source hlookup
  obtain ⟨hid, hfirstSeen, hlastSeen, hversion⟩ := deviceToOut_columns hrowOut
  have hby : ∀ event ∈ ofDevice row.deviceId events, PublishedBy D labels out.deviceId event := by
    intro event hevent
    obtain ⟨hmem, hdevice⟩ := List.mem_filter.mp hevent
    exact ⟨hpublished event hmem, hid ▸ of_decide_eq_true hdevice⟩
  refine ⟨pg, hpool, ?_, ?_, ?_, ?_⟩
  · obtain ⟨event, hevent, ht⟩ := hfirst
    exact ⟨event, hby event hevent, hfirstSeen ▸ ht⟩
  · obtain ⟨event, hevent, ht⟩ := hlast
    exact ⟨event, hby event hevent, hlastSeen ▸ ht⟩
  · intro v hv
    obtain ⟨event, hevent, hgiven⟩ := hfirmware v (hversion ▸ hv)
    exact ⟨event, hby event hevent, hgiven⟩
  · intro l hl
    obtain ⟨out', hout', _, _, _, hcoordinates⟩ := deviceToOut_ok (s.db.checks row hrow)
    obtain rfl := Except.ok.inj (hrowOut.symm.trans hout')
    obtain ⟨hlat, hlon⟩ := hcoordinates l hl
    obtain ⟨event, hevent, known, hknown, hknownLat, hknownLon⟩ :=
      hlocation _ hlat _ hlon
    refine ⟨event, hby event hevent, ?_⟩
    rw [Option.mem_def.mp hknown, Option.some.injEq]
    exact Location.ext (Coordinate.ext hknownLat) (Coordinate.ext hknownLon)

/-- What is answered for the device comes from its event. -/
theorem device_was_published_single : ∃ s out,
    run (step (localDeployment 20 (by decide))) System.start
      [.connect, .subscribe, publishPh, .send, .take, .attempt .none] = some s ∧
    Routes.getDevice none "a" s.db = .ok out ∧ ∃ event,
      PublishedBy (localDeployment 20 (by decide))
        [.connect, .subscribe, publishPh, .send, .take, .attempt .none] "a" event := by
  obtain ⟨s, _, hrun, _, _, hout⟩ := published_run
  obtain ⟨_, _, ⟨event, hby, _⟩, _⟩ := device_was_published hrun (.single none "a" hout)
  exact ⟨s, _, hrun, hout, event, hby⟩

/-! ## Everything published is served -/

private theorem selected_instant (d : String) (t : Timestamptz) (p : String) (db : PgState) :
    selected ⟨d, some t, some t, some p⟩ db = (db.readings.lookup (d, t, p)).toList := by
  rw [← Table.filter_key]
  refine List.filter_congr fun row _ => ?_
  rw [Bool.eq_iff_iff, ReadingsFilter.selects_iff]
  simp only [Option.mem_def, Option.some.injEq, forall_eq', ReadingRow.key, Prod.mk.injEq,
    decide_eq_true_eq]
  constructor
  · rintro ⟨hd, hfrom, hto, hp⟩
    exact ⟨hd, le_antisymm hto hfrom, hp⟩
  · rintro ⟨hd, ht, hp⟩
    exact ⟨hd, ht.ge, ht.le, hp⟩

private theorem listReadings_instant {pg : Asyncpg} {order : SortOrder}
    (plan : Arrangement (readingsOrder order)) {d p : String} (hd : '\x00' ∉ d.toList)
    (hp : '\x00' ∉ p.toList) {instant : Datetime} {t : Timestamptz}
    (ht : pg.timestamptz instant = some t) {limit : Nat} (hpos : 1 ≤ limit)
    (hlimit : limit < 2 ^ 63) (db : PgState) :
    listReadings pg plan none d (some instant) (some instant) (some p) limit 0 db =
      .ok (db.readings.lookup (d, t, p)).toList := by
  refine listReadings_ok.mpr ⟨rfl, hlimit, by norm_num, ⟨d, some t, some t, some p⟩, ?_, ?_⟩
  · have hbound : bindNullableTimestamptz pg (some instant) = .ok (some t) := by
      rw [bindNullableTimestamptz, bindTimestamptz_ok.mpr ht]
      rfl
    have htext : bindNullableText (some p) = .ok (some p) :=
      bindNullableText_ok.mpr ⟨by simpa using hp, rfl⟩
    simp only [bindReadingsFilter, bindText_ok.mpr ⟨hd, rfl⟩, hbound, htext, bind, Except.bind]
    rfl
  · rw [listReadingsSql, selected_instant, plan.sort_toList, window, List.drop_zero,
      List.take_of_length_le]
    exact (Option.length_toList_le).trans hpos

def registration (d : String) : Option DeviceRow → Except RequestError DeviceOut
  | none => .error (deviceNotFound d)
  | some row => (deviceToOut row).mapError .validationError

private theorem getDevice_registration {d : String} (hd : '\x00' ∉ d.toList) (db : PgState) :
    Routes.getDevice none d db = registration d (db.devices.lookup d) := by
  have hfound : Backend.getDevice none d db = .ok (db.devices.lookup d) :=
    Backend.getDevice_ok.mpr ⟨rfl, hd, rfl⟩
  unfold Routes.getDevice
  rw [hfound]
  cases db.devices.lookup d <;> rfl

/-- After a run that lost nothing and left nothing on its way, the API answers for every device as
the archive of all published events does, and for every device, instant and parameter with the first
value that was published for them, if there is one. -/
theorem published_is_served {D : Deployment} {pg : Asyncpg} (hpool : D.database.pool = some pg)
    {labels : List Label} {s : System}
    (hkeeps : Along (step D) (fun s a => ¬ Loses D s a) System.start labels)
    (hrun : run (step D) System.start labels = some s) (hdone : s.inHand ++ s.behind D = []) :
    (∀ d, '\x00' ∉ d.toList → Routes.getDevice none d s.db =
      registration d (archivedDevice pg d (ofDevice d (labels.flatMap (Label.sends D))))) ∧
    ∀ (order : SortOrder) (plan : Arrangement (readingsOrder order)) (d p : String)
      (instant : Datetime) (t : Timestamptz) (limit : Nat), '\x00' ∉ d.toList → '\x00' ∉ p.toList →
        pg.timestamptz instant = some t → 1 ≤ limit → limit < 2 ^ 63 →
          listReadings pg plan none d (some instant) (some instant) (some p) limit 0 s.db = .ok
            (archivedReading pg t p (ofDevice d (labels.flatMap (Label.sends D)))).toList := by
  have hcommit := (tables_of_arrived hkeeps hrun hdone).commitEvents hpool
  constructor
  · intro d hd
    rw [getDevice_registration hd, lookup_archivedDevice hcommit]
  · intro order plan d p instant t limit hd hp ht hpos hlimit
    rw [listReadings_instant plan hd hp ht hpos hlimit, lookup_archivedReading hcommit]

/-- Two events of one instant are published and written, and the first one is served. -/
theorem published_is_served_twice :
    let labels : List Label := [.connect, .subscribe, publishPh, publishPh, .send, .send, .take,
      .attempt .none, .take, .attempt .none]
    ∃ s, run (step (localDeployment 20 (by decide))) System.start labels = some s ∧
      Routes.getDevice none "a" s.db = .ok ⟨"a", 0, 0, none, none⟩ ∧
      listReadings .utc ((ReadingsQueries.preferring fun _ => true).sort .asc) none "a"
        (some ⟨0, some 0⟩) (some ⟨0, some 0⟩) (some "ph") 5 0 s.db =
          .ok [⟨"a", 0, "ph", .finite 7, "pH"⟩] := by
  intro labels
  obtain ⟨s, hrun, hdone⟩ : ∃ s,
      run (step (localDeployment 20 (by decide))) System.start labels = some s ∧
      s.inHand ++ s.behind (localDeployment 20 (by decide)) = [] := ⟨_, rfl, rfl⟩
  have hkeeps : Along (step (localDeployment 20 (by decide)))
      (fun s a => ¬ Loses (localDeployment 20 (by decide)) s a) System.start labels := by
    decide +kernel
  have hpool : (localDeployment 20 (by decide)).database.pool = some .utc := rfl
  obtain ⟨hdevice, hreading⟩ := published_is_served hpool hkeeps hrun hdone
  refine ⟨s, hrun, ?_, ?_⟩
  · rw [hdevice "a" (by decide)]
    decide +kernel
  · have hlimit : 5 < 2 ^ 63 := by decide
    rw [hreading .asc _ "a" "ph" ⟨0, some 0⟩ 0 5 (by decide) (by decide) rfl (by omega) hlimit]
    decide +kernel

/-! ## What was committed shows -/

private theorem latest_newest {collation : Collation} (plan : Arrangement (latestOrder collation))
    (parameter : Option String) {db : PgState} {row : ReadingRow}
    (hrow : row ∈ db.readings.rows) (hparameter : ∀ q ∈ parameter, row.parameter = q) :
    ∃ newest ∈ latestReadingsSql plan row.deviceId parameter db,
      newest.parameter = row.parameter ∧ row.recordedAt ≤ newest.recordedAt := by
  have hsorted := plan.sorted (selected (.history row.deviceId parameter) db)
  have hmem := (plan.perm _).mem_iff.mpr (mem_history.mpr ⟨hrow, rfl, hparameter⟩)
  have hshown := (exists_mem_distinctOn (latestOrder_grouped collation) hsorted).mpr
    ⟨row, hmem, rfl⟩
  obtain ⟨newest, hnewest, hsame⟩ := List.mem_map.mp hshown
  have hfind := (mem_distinctOn (latestOrder_grouped collation) hsorted).mp hnewest
  have hle := le_of_find (refl_of_total (latestOrder_total collation)) hsorted hfind hmem
    (decide_eq_true hsame.symm)
  rw [latestOrder, if_pos hsame, decide_eq_true_eq] at hle
  rw [← latestReadingsSql_eq] at hnewest
  exact ⟨newest, hnewest, hsame, hle⟩

private theorem latestReadings_answers {collation : Collation}
    (plan : Arrangement (latestOrder collation)) {d : String} (hnul : '\x00' ∉ d.toList)
    {db db' : PgState} (hregistered : db.devices.lookup d ≠ none) {row : ReadingRow}
    (hrow : row ∈ db'.readings.rows) (hd : row.deviceId = d) :
    latestReadings plan none none d none db db' =
      .ok ((latestReadingsSql plan d none db').map readingToOut) := by
  have hexists : ensureDeviceExists none d db = .ok () :=
    ensureDeviceExists_ok.mpr ⟨rfl, hnul, hregistered⟩
  have hne : latestReadingsSql plan d none db' ≠ [] := hd ▸ latestReadingsSql_ne_nil plan hrow
  have hempty : (latestReadingsSql plan d none db').isEmpty = false := by simpa using hne
  unfold latestReadings
  rw [hexists, listLatestReadings_ok plan hnul]
  simp only [bind, Except.bind, hempty]
  rfl

/-- Once an event is committed, each undisturbed request for the latest readings of its device is
answered, however late and whatever is written meanwhile; and for each parameter of the event the
answer has a reading that is at least as new. -/
theorem committed_shows {D : Deployment} {labels : List Label} {s : System}
    (hrun : run (step D) System.start labels = some s) {event : ReadingEvent}
    (he : event ∈ s.committed) {db db' : PgState} (hdb : Reaches s.db db)
    (hdb' : Reaches db db') {collation : Collation}
    (plan : Arrangement (latestOrder collation)) :
    ∃ pg t items, D.database.pool = some pg ∧ pg.timestamptz event.timestamp = some t ∧
      latestReadings plan none none event.deviceId.val none db db' = .ok items ∧
      ∀ reading ∈ event.readings, ∃ out ∈ items, out.deviceId = event.deviceId.val ∧
        out.parameter = reading.parameter.val ∧ t ≤ out.recordedAt := by
  obtain ⟨w, ⟨pg, hpool, hbinds⟩, hstored⟩ := committed_stored hrun he
  obtain rfl := hbinds.event_eq
  have hnul : '\x00' ∉ w.event.deviceId.val.toList := hbinds.texts _ List.mem_cons_self
  obtain ⟨first, hfirst⟩ := List.exists_mem_of_ne_nil _ w.rows_ne_nil
  obtain ⟨stored, hmem, hkey⟩ := hstored first hfirst
  have hdevice : stored.deviceId = w.event.deviceId.val :=
    (congrArg Prod.fst hkey).trans (Write.row_of_mem hfirst).1
  have hregistered : db.devices.lookup w.event.deviceId.val ≠ none :=
    registered_of_reaches hdb (hdevice ▸ s.db.references stored hmem)
  have hanswer := latestReadings_answers plan hnul hregistered
    (mem_readings_of_reaches (hdb.trans hdb') hmem) hdevice
  refine ⟨pg, w.recordedAt, _, hpool, hbinds.recordedAt, hanswer, fun reading hreading => ?_⟩
  have hrow : w.event.readingRow w.recordedAt reading ∈ w.rows := List.mem_map_of_mem hreading
  obtain ⟨row, hmem', hkey'⟩ := hstored _ hrow
  simp only [ReadingRow.key, Prod.mk.injEq] at hkey'
  obtain ⟨hd, ht, hp⟩ := hkey'
  obtain ⟨newest, hnewest, hsame, hle⟩ := latest_newest plan none
    (mem_readings_of_reaches (hdb.trans hdb') hmem') (by simp)
  have hid : row.deviceId = w.event.deviceId.val := hd
  rw [hid] at hnewest
  have hof := (latestReadingsSql_sublist plan _ none db').subset hnewest
  have hnewestId := (mem_history.mp ((plan.perm _).mem_iff.mp hof)).2.1
  have hinstant : row.recordedAt = w.recordedAt := ht
  exact ⟨readingToOut newest, List.mem_map_of_mem hnewest, hnewestId, hsame.trans hp,
    hinstant ▸ hle⟩

/-- The event of a run whose first attempt loses its report, in the answer after the run. -/
theorem committed_shows_retried : ∃ s,
    run (step (localDeployment 20 (by decide))) System.start
      [.connect, .subscribe, publishPh, .send, .take,
        .attempt (.afterCommit .connectionError)] = some s ∧
    s.handling.isSome = true ∧ ∃ items,
      latestReadings (sortPlan .codepoints) none none "a" none s.db s.db = .ok items ∧
        ∃ out ∈ items, out.parameter = "ph" := by
  let event := phEvent ⟨"a", by decide, by decide⟩ 7 []
  obtain ⟨s, hrun, hbusy, he⟩ : ∃ s, run (step (localDeployment 20 (by decide))) System.start
      [.connect, .subscribe, publishPh, .send, .take,
        .attempt (.afterCommit .connectionError)] = some s ∧ s.handling.isSome = true ∧
      event ∈ s.committed := ⟨_, rfl, rfl, List.mem_singleton.mpr rfl⟩
  obtain ⟨_, _, items, _, _, hitems, hshown⟩ :=
    committed_shows hrun he .refl .refl (sortPlan .codepoints)
  obtain ⟨out, hout, _, hparameter, _⟩ :=
    hshown ⟨⟨"ph", by decide, by decide⟩, .finite 7, ⟨"pH", by decide, by decide⟩⟩
      List.mem_cons_self
  exact ⟨s, hrun, hbusy, items, hitems, out, hout, hparameter⟩

/-! ## What has been shown stays -/

/-- A write keeps what is known of a device: when it was first seen, and whether its firmware and
its coordinates are known. -/
structure KnownStays (row row' : DeviceRow) : Prop where
  first : row'.firstSeenAt = row.firstSeenAt
  firmware : row'.firmwareVersion = none → row.firmwareVersion = none
  lat : row'.locationLat = none → row.locationLat = none
  lon : row'.locationLon = none → row.locationLon = none

theorem KnownStays.trans {r s t : DeviceRow} (h : KnownStays r s) (h' : KnownStays s t) :
    KnownStays r t :=
  ⟨h'.first.trans h.first, fun hn => h.firmware (h'.firmware hn), fun hn => h.lat (h'.lat hn),
    fun hn => h.lon (h'.lon hn)⟩

private theorem onDeviceConflict_knownStays (stored excluded : DeviceRow) :
    KnownStays stored (onDeviceConflict stored excluded) := by
  constructor
  · rfl
  · intro hnone
    exact (Option.or_eq_none_iff.mp hnone).2
  · intro hnone
    exact (Option.or_eq_none_iff.mp hnone).2
  · intro hnone
    exact (Option.or_eq_none_iff.mp hnone).2

private theorem device_of_reaches {db db' : PgState} (h : Reaches db db') {d : String}
    {row : DeviceRow}
    (hrow : db.devices.lookup d = some row) :
    ∃ row', db'.devices.lookup d = some row' ∧ KnownStays row row' := by
  obtain ⟨ws, rfl⟩ := h.replay
  clear h
  induction ws generalizing db row with
  | nil => exact ⟨row, hrow, rfl, id, id, id⟩
  | cons w ws ih =>
    obtain ⟨next, hnext, hstays⟩ : ∃ next, (w.apply db).devices.lookup d = some next ∧
        KnownStays row next := by
      rw [w.lookup_apply_devices]
      by_cases hd : w.event.deviceId.val = d
      · subst hd
        refine ⟨onDeviceConflict row w.device, ?_, onDeviceConflict_knownStays _ _⟩
        simp [registered, hrow]
      · exact ⟨row, by rw [if_neg hd, hrow], rfl, id, id, id⟩
    obtain ⟨row', hrow', hstays'⟩ := ih hnext
    exact ⟨row', hrow', hstays.trans hstays'⟩

private theorem total_of_reaches {db db' : PgState} (h : Reaches db db') {api : Api}
    {queries queries' : ReadingsQueries} {request : ReadingsRequest}
    {before after before' after' : PgState} {page page' : PaginatedResponse ReadingOut}
    (hpage : Routes.listReadings api queries request before db after = .ok page)
    (hpage' : Routes.listReadings api queries' request before' db' after' = .ok page') :
    page.total ≤ page'.total := by
  obtain ⟨_, query, filter, hquery, hfilter, _, _, _, _, rfl⟩ := Routes.listReadings_ok.mp hpage
  obtain ⟨_, query', filter', hquery', hfilter', _, _, _, _, rfl⟩ :=
    Routes.listReadings_ok.mp hpage'
  obtain rfl := Except.ok.inj (hquery.symm.trans hquery')
  obtain rfl := Except.ok.inj (hfilter.symm.trans hfilter')
  exact length_le_of_subset (selected_nodup filter db) fun _ => selected_of_reaches h

private theorem latest_of_reaches {db db' : PgState} (h : Reaches db db')
    {collation collation' : Collation} {plan : Arrangement (latestOrder collation)}
    {plan' : Arrangement (latestOrder collation')} {o₁ o₂ o₁' o₂' : Outage} {d : String}
    {parameter : Option String} {before before' : PgState} {items items' : List ReadingOut}
    (hitems : latestReadings plan o₁ o₂ d parameter before db = .ok items)
    (hitems' : latestReadings plan' o₁' o₂' d parameter before' db' = .ok items') :
    ∀ out ∈ items, ∃ out' ∈ items', out'.parameter = out.parameter ∧
      out.recordedAt ≤ out'.recordedAt := by
  obtain rfl := latestReadings_ok hitems
  obtain rfl := latestReadings_ok hitems'
  intro out hout
  obtain ⟨row, hrow, rfl⟩ := List.mem_map.mp hout
  have hsorted := (latestReadingsSql_sublist plan d parameter db).subset hrow
  obtain ⟨hmem, rfl, hparameter⟩ := mem_history.mp ((plan.perm _).mem_iff.mp hsorted)
  obtain ⟨newest, hnewest, hsame, hle⟩ :=
    latest_newest plan' parameter (mem_readings_of_reaches h hmem) hparameter
  exact ⟨readingToOut newest, List.mem_map_of_mem hnewest, hsame, hle⟩

private theorem getDevice_ok_iff {outage : Outage} {d : String} {db : PgState} {out : DeviceOut} :
    Routes.getDevice outage d db = .ok out ↔ outage = none ∧ '\x00' ∉ d.toList ∧
      ∃ row, db.devices.lookup d = some row ∧ deviceToOut row = .ok out := by
  constructor
  · intro h
    obtain ⟨found, hfound, h⟩ := bind_ok.mp h
    obtain ⟨hout, hnul, hlookup⟩ := Backend.getDevice_ok.mp hfound
    cases found with
    | none => cases h
    | some row => exact ⟨hout, hnul, row, hlookup, mapError_ok.mp h⟩
  · rintro ⟨hout, hnul, row, hlookup, hrow⟩
    refine bind_ok.mpr ⟨some row, Backend.getDevice_ok.mpr ⟨hout, hnul, hlookup⟩, ?_⟩
    exact mapError_ok.mpr hrow

private theorem device_of_later {db db' : PgState} (h : Reaches db db') {d : String}
    {out : DeviceOut} (hout : Routes.getDevice none d db = .ok out) :
    ∃ out', Routes.getDevice none d db' = .ok out' ∧ out'.firstSeenAt = out.firstSeenAt ∧
      (out'.firmwareVersion = none → out.firmwareVersion = none) ∧
      (out'.location = none → out.location = none) := by
  obtain ⟨_, hnul, row, hrow, hrowOut⟩ := getDevice_ok_iff.mp hout
  obtain ⟨row', hrow', hstays⟩ := device_of_reaches h hrow
  obtain ⟨shown, hshown, _, _, hlocation, _⟩ :=
    deviceToOut_ok (db.checks row (Table.mem_of_lookup hrow))
  obtain rfl := Except.ok.inj (hrowOut.symm.trans hshown)
  obtain ⟨out', hout', _, _, hlocation', _⟩ :=
    deviceToOut_ok (db'.checks row' (Table.mem_of_lookup hrow'))
  obtain ⟨_, hfirst, _, hfirmware⟩ := deviceToOut_columns hrowOut
  obtain ⟨_, hfirst', _, hfirmware'⟩ := deviceToOut_columns hout'
  refine ⟨out', getDevice_ok_iff.mpr ⟨rfl, hnul, row', hrow', hout'⟩, ?_, ?_, ?_⟩
  · rw [hfirst', hfirst, hstays.first]
  · rw [hfirmware', hfirmware]
    exact hstays.firmware
  · rw [hlocation', hlocation]
    exact Or.imp hstays.lat hstays.lon

/-- What the API has answered stays true while events are written. A reading is served with the same
value and unit again, totals do not shrink, the latest readings do not get older and keep their
parameters, and a device is found again, first seen when it was, with firmware version and location
still known. -/
theorem api_never_retracts {db db' : PgState} (h : Reaches db db') :
    (∀ out out', Returned db out → Returned db' out' →
      (out.deviceId, out.recordedAt, out.parameter) =
        (out'.deviceId, out'.recordedAt, out'.parameter) → out = out') ∧
    (∀ (api : Api) (queries queries' : ReadingsQueries) (request : ReadingsRequest)
      (before after before' after' : PgState) (page page' : PaginatedResponse ReadingOut),
      Routes.listReadings api queries request before db after = .ok page →
      Routes.listReadings api queries' request before' db' after' = .ok page' →
      page.total ≤ page'.total) ∧
    (∀ (collation collation' : Collation) (plan : Arrangement (latestOrder collation))
      (plan' : Arrangement (latestOrder collation')) (d : String) (parameter : Option String)
      (before before' : PgState) (items items' : List ReadingOut),
      latestReadings plan none none d parameter before db = .ok items →
      latestReadings plan' none none d parameter before' db' = .ok items' →
      ∀ out ∈ items, ∃ out' ∈ items', out'.parameter = out.parameter ∧
        out.recordedAt ≤ out'.recordedAt) ∧
    ∀ (d : String) (out : DeviceOut), Routes.getDevice none d db = .ok out →
      ∃ out', Routes.getDevice none d db' = .ok out' ∧ out'.firstSeenAt = out.firstSeenAt ∧
        (out'.firmwareVersion = none → out.firmwareVersion = none) ∧
        (out'.location = none → out.location = none) := by
  refine ⟨?_, ?_, ?_, ?_⟩
  · intro out out' hout hout' hkey
    obtain ⟨row, hrow, rfl⟩ := hout.exists_row
    obtain ⟨row', hrow', rfl⟩ := hout'.exists_row
    exact congrArg readingToOut (Table.eq_of_key (mem_readings_of_reaches h hrow) hrow' hkey)
  · intro api queries queries' request before after before' after' page page' hpage hpage'
    exact total_of_reaches h hpage hpage'
  · intro collation collation' plan plan' d parameter before before' items items' hitems hitems'
    exact latest_of_reaches h hitems hitems'
  · intro d out hout
    exact device_of_later h hout

/-- The device of an event is found again after a second event. -/
theorem api_never_retracts_second :
    let db := (Database.localStack.writeOnce (temperatureAt 60 21) .none PgState.empty).state
    let db' := (Database.localStack.writeOnce (temperatureAt 0 20) .none db).state
    ∃ out', Routes.getDevice none "sensor-1" db' = .ok out' ∧ out'.firstSeenAt = 60 := by
  intro db db'
  have hlater : Reaches db db' := Relation.ReflTransGen.single ⟨.localStack, _, .none, rfl⟩
  have hout : Routes.getDevice none "sensor-1" db = .ok ⟨"sensor-1", 60, 60, none, none⟩ := by
    decide +kernel
  obtain ⟨out', hout', hfirst, _⟩ := (api_never_retracts hlater).2.2.2 _ _ hout
  exact ⟨out', hout', hfirst⟩

end OpenWater.Backend
