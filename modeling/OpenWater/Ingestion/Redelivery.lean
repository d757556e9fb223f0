import Mathlib.Order.Bounds.Defs
import OpenWater.Ingestion.History

/-!
# Late and repeated events

At-least-once delivery commits events again and out of order. The readings are indifferent to it:
two histories of the same events store the same rows. The registry of devices is not, because its
upsert takes every event for the newest one; the conditions below say exactly when that is right.
-/

namespace OpenWater.Ingestion

open Framework

theorem events_of_binds {pg : Asyncpg} {events : List ReadingEvent} {ws : List Write}
    (h : List.Forall₂ (Binds pg) events ws) : ws.map Write.event = events := by
  induction h with
  | nil => rfl
  | cons hw _ ih => rw [List.map_cons, hw.event_eq, ih]

theorem instants_of_binds {pg : Asyncpg} {events : List ReadingEvent} {ws : List Write}
    (h : List.Forall₂ (Binds pg) events ws) :
    ∀ w ∈ ws, pg.timestamptz w.event.timestamp = some w.recordedAt := by
  induction h with
  | nil => simp
  | cons hw _ ih =>
    intro v hv
    rcases List.mem_cons.mp hv with rfl | hv
    · exact hw.event_eq ▸ hw.recordedAt
    · exact ih v hv

def ofDevice (d : String) (events : List ReadingEvent) : List ReadingEvent :=
  events.filter fun event => decide (event.deviceId.val = d)

theorem ofDevice_map (d : String) (ws : List Write) :
    ofDevice d (ws.map Write.event) = (ws.filter (Write.isOf d)).map Write.event := by
  rw [ofDevice, List.filter_map]
  rfl

/-! ## A repeated event -/

/-- The event repeats what was last heard from its device: the instant of the device's last event,
and of the optional fields it carries the value last reported. -/
structure Current (pg : Asyncpg) (events : List ReadingEvent) (event : ReadingEvent) : Prop where
  instant : ∀ last ∈ (ofDevice event.deviceId.val events).getLast?,
    pg.timestamptz last.timestamp = pg.timestamptz event.timestamp
  firmware : ∀ firmware ∈ event.firmwareVersion,
    lastKnown ReadingEvent.firmwareVersion (ofDevice event.deviceId.val events) = some firmware
  location : ∀ location ∈ event.location,
    lastKnown ReadingEvent.location (ofDevice event.deviceId.val events) = some location

private theorem or_eq_right_iff {α : Type} {a b : Option α} :
    a.or b = b ↔ ∀ x ∈ a, b = some x := by
  cases a <;> simp [eq_comm]

private theorem onDeviceConflict_eq_iff {stored excluded : DeviceRow} :
    onDeviceConflict stored excluded = stored ↔ excluded.lastSeenAt = stored.lastSeenAt ∧
      (∀ x ∈ excluded.firmwareVersion, stored.firmwareVersion = some x) ∧
      (∀ x ∈ excluded.locationLat, stored.locationLat = some x) ∧
      ∀ x ∈ excluded.locationLon, stored.locationLon = some x := by
  cases stored
  simp only [onDeviceConflict, DeviceRow.mk.injEq, true_and, or_eq_right_iff]

theorem Write.apply_eq_iff {w : Write} {db : PgState} {stored : DeviceRow}
    (hdev : db.devices.lookup w.event.deviceId.val = some stored)
    (hrows : ∀ row ∈ w.rows, db.readings.lookup row.key ≠ none) :
    w.apply db = db ↔ onDeviceConflict stored w.device = stored := by
  have hreg : registered db w.device = onDeviceConflict stored w.device := by
    simp [registered, hdev]
  constructor
  · intro h
    have hlookup := w.lookup_apply_devices db w.event.deviceId.val
    rw [h, hdev, if_pos rfl, hreg] at hlookup
    exact (Option.some.inj hlookup).symm
  · intro h
    apply PgState.ext
    · change db.devices.put (registered db w.device) = db.devices
      rw [hreg, h]
      apply Table.put_of_lookup
      rw [Table.key_of_lookup hdev]
      exact hdev
    · exact Table.insertAll_of_lookup hrows

theorem lastKnown_columns (ws : List Write) :
    lastKnown (fun v => v.device.firmwareVersion) ws =
        (lastKnown ReadingEvent.firmwareVersion (ws.map Write.event)).map (·.val) ∧
      lastKnown (fun v => v.device.locationLat) ws =
        (lastKnown ReadingEvent.location (ws.map Write.event)).map (·.lat.val) ∧
      lastKnown (fun v => v.device.locationLon) ws =
        (lastKnown ReadingEvent.location (ws.map Write.event)).map (·.lon.val) := by
  refine ⟨?_, ?_, ?_⟩ <;> rw [lastKnown_map, ← lastKnown_project] <;> rfl

private theorem current_iff {pg : Asyncpg} {ws known : List Write} {w : Write}
    (hinst : ∀ v ∈ ws, pg.timestamptz v.event.timestamp = some v.recordedAt) (hw : w ∈ ws)
    (hfilter : ws.filter (Write.isOf w.event.deviceId.val) = known) :
    Current pg (ws.map Write.event) w.event ↔
      (∀ last ∈ known.getLast?, w.recordedAt = last.recordedAt) ∧
      (∀ x ∈ w.device.firmwareVersion,
        lastKnown (fun v => v.device.firmwareVersion) known = some x) ∧
      (∀ x ∈ w.device.locationLat, lastKnown (fun v => v.device.locationLat) known = some x) ∧
      ∀ x ∈ w.device.locationLon, lastKnown (fun v => v.device.locationLon) known = some x := by
  have hknown : ofDevice w.event.deviceId.val (ws.map Write.event) = known.map Write.event := by
    rw [ofDevice_map, hfilter]
  have hinstant : (∀ last ∈ (known.map Write.event).getLast?,
      pg.timestamptz last.timestamp = pg.timestamptz w.event.timestamp) ↔
      ∀ last ∈ known.getLast?, w.recordedAt = last.recordedAt := by
    rw [List.getLast?_map]
    cases hlast : known.getLast? with
    | none => simp
    | some last =>
      have hmem : last ∈ ws := by
        have hfiltered := hfilter ▸ List.mem_of_getLast? hlast
        exact (List.mem_filter.mp hfiltered).1
      simp [hinst last hmem, hinst w hw, eq_comm]
  obtain ⟨hfirmware, hlat, hlon⟩ := lastKnown_columns known
  rw [hfirmware, hlat, hlon, ← hinstant]
  change _ ↔ _ ∧ (∀ x ∈ w.event.firmwareVersion.map (·.val), _) ∧
    (∀ x ∈ w.event.location.map (·.lat.val), _) ∧ ∀ x ∈ w.event.location.map (·.lon.val), _
  constructor
  · rintro ⟨hi, hf, hl⟩
    rw [hknown] at hi hf hl
    refine ⟨hi, ?_, ?_, ?_⟩
    · intro x hx
      obtain ⟨firmware, hfirm, rfl⟩ := Option.mem_map.mp hx
      rw [hf firmware hfirm, Option.map_some]
    · intro x hx
      obtain ⟨location, hloc, rfl⟩ := Option.mem_map.mp hx
      rw [hl location hloc, Option.map_some]
    · intro x hx
      obtain ⟨location, hloc, rfl⟩ := Option.mem_map.mp hx
      rw [hl location hloc, Option.map_some]
  · rintro ⟨hi, hf, hla, hlo⟩
    refine ⟨hknown ▸ hi, ?_, ?_⟩
    · intro firmware hfirm
      obtain ⟨other, hother, hval⟩ := Option.map_eq_some_iff.mp
        (hf _ (Option.mem_map_of_mem _ hfirm))
      rw [hknown, hother, BoundedText.ext hval]
    · intro location hloc
      obtain ⟨other, hother, hlatEq⟩ := Option.map_eq_some_iff.mp
        (hla _ (Option.mem_map_of_mem _ hloc))
      obtain ⟨other', hother', hlonEq⟩ := Option.map_eq_some_iff.mp
        (hlo _ (Option.mem_map_of_mem _ hloc))
      rw [hother, Option.some.injEq] at hother'
      subst hother'
      rw [hknown, hother, Location.ext (Coordinate.ext hlatEq) (Coordinate.ext hlonEq)]

/-- Committing an event of the history once more leaves both tables unchanged exactly when the
event is still current. -/
theorem redelivery_unchanged_iff {pg : Asyncpg} {events : List ReadingEvent} {db : PgState}
    {event : ReadingEvent} (hrun : commitEvents pg events PgState.empty = .ok db)
    (he : event ∈ events) : commitEvent pg event db = .ok db ↔ Current pg events event := by
  obtain ⟨ws, hws, rfl⟩ := commitEvents_ok.mp hrun
  obtain ⟨w, hw, hbinds⟩ := exists_of_forall₂ hws he
  have hevents := events_of_binds hws
  -- The history knows the event's device, so that its row is the summary of a list that ends.
  have hof : Write.isOf w.event.deviceId.val w = true := by simp [Write.isOf]
  have hknown : w ∈ ws.filter (Write.isOf w.event.deviceId.val) := List.mem_filter.mpr ⟨hw, hof⟩
  obtain ⟨vs, v, hsplit⟩ := List.eq_nil_or_concat'
    (ws.filter (Write.isOf w.event.deviceId.val)) |>.resolve_left (List.ne_nil_of_mem hknown)
  obtain ⟨stored, hsummary, _, hlast, hfw, hlat, hlon⟩ := deviceSummary_append vs v
  have hdev : (replay PgState.empty ws).devices.lookup w.event.deviceId.val = some stored := by
    rw [lookup_replay_devices, hsplit, hsummary]
  have hrows : ∀ row ∈ w.rows, (replay PgState.empty ws).readings.lookup row.key ≠ none := by
    intro row hrow
    obtain ⟨other, hother, hkey⟩ := stored_of_mem (List.mem_flatMap.mpr ⟨w, hw, hrow⟩)
    rw [← hkey, Table.lookup_of_mem hother]
    simp
  have hcommit : commitEvent pg event (replay PgState.empty ws) = .ok (replay PgState.empty ws) ↔
      w.apply (replay PgState.empty ws) = replay PgState.empty ws := by
    rw [commitEvent, writeOnceScript_ok]
    constructor
    · rintro ⟨w', hw', heq⟩
      rw [← hw'.unique hbinds]
      exact heq.symm
    · exact fun heq => ⟨w, hbinds, heq.symm⟩
  have hcurrent := current_iff (instants_of_binds hws) hw hsplit
  rw [hcommit, Write.apply_eq_iff hdev hrows, onDeviceConflict_eq_iff, ← hevents,
    ← hbinds.event_eq, hcurrent, hfw, hlat, hlon, hlast, List.getLast?_concat]
  simp [Write.device, ReadingEvent.deviceRow]

/-- The second event of a device is stored, and the broker delivers the first one again. -/
theorem redelivery_rewinds_registry : ∃ db db',
    commitEvents .utc [temperatureAt 0 20, temperatureAt 60 21] PgState.empty = .ok db ∧
      commitEvent .utc (temperatureAt 0 20) db = .ok db' ∧ db' ≠ db := by
  refine ⟨_, _, rfl, rfl, ?_⟩
  intro h
  have hseen := congrArg (fun db => (db.devices.lookup "sensor-1").map DeviceRow.lastSeenAt) h
  revert hseen
  decide

def reportAt (wall : Int) : ReadingEvent :=
  { temperatureAt wall 21 with
    firmwareVersion := some ⟨"1.2", by decide, by decide⟩
    location := some ⟨⟨.finite 45, by decide⟩, ⟨.finite 7, by decide⟩⟩ }

/-- Two devices in turn. The report is not the last event, nor its device's last one. -/
def twoDevices : List ReadingEvent :=
  [temperatureAt 0 20, otherDeviceAt 30 5, reportAt 60, temperatureAt 60 22, otherDeviceAt 90 6]

theorem redelivery_unchanged_iff_first : ∃ db,
    commitEvents .utc twoDevices PgState.empty = .ok db ∧
      (commitEvent .utc (reportAt 60) db = .ok db ↔ Current .utc twoDevices (reportAt 60)) ∧
      Current .utc twoDevices (reportAt 60) := by
  refine ⟨_, rfl, redelivery_unchanged_iff rfl (by simp [twoDevices]), ?_, ?_, ?_⟩
  · decide
  · decide
  · decide

/-! ## The registry against the readings -/

def PgState.instants (db : PgState) (d : String) : Set Timestamptz :=
  {t | ∃ row ∈ db.readings.rows, row.deviceId = d ∧ row.recordedAt = t}

structure Brackets (db : PgState) : Prop where
  first : ∀ row ∈ db.devices.rows, IsLeast (PgState.instants db row.deviceId) row.firstSeenAt
  last : ∀ row ∈ db.devices.rows, IsGreatest (PgState.instants db row.deviceId) row.lastSeenAt
  ordered : ∀ row ∈ db.devices.rows, row.firstSeenAt ≤ row.lastSeenAt

/-- No device's `last_seen_at` is smaller in `db'` than in `db`. -/
def LastSeenKept (db db' : PgState) : Prop :=
  ∀ d row row', db.devices.lookup d = some row → db'.devices.lookup d = some row' →
    row.lastSeenAt ≤ row'.lastSeenAt

/-- Each device's events were committed in the order of their instants. -/
def InOrder (pg : Asyncpg) (events : List ReadingEvent) : Prop :=
  events.Pairwise fun earlier later => earlier.deviceId.val = later.deviceId.val →
    ∀ t ∈ pg.timestamptz earlier.timestamp, ∀ t' ∈ pg.timestamptz later.timestamp, t ≤ t'

private theorem instants_replay (ws : List Write) (d : String) :
    PgState.instants (replay PgState.empty ws) d =
      {t | ∃ w ∈ ws.filter (Write.isOf d), w.recordedAt = t} := by
  ext t
  exact recorded_iff

private theorem row_of_replay {ws : List Write} {row : DeviceRow}
    (h : row ∈ (replay PgState.empty ws).devices.rows) :
    ∃ vs v, ws.filter (Write.isOf row.deviceId) = vs ++ [v] ∧
      row.firstSeenAt = ((vs ++ [v]).head (by simp)).recordedAt ∧
      row.lastSeenAt = v.recordedAt := by
  have hrow := Table.lookup_of_mem h
  rw [lookup_replay_devices] at hrow
  rcases List.eq_nil_or_concat' (ws.filter (Write.isOf row.deviceId)) with hnil | ⟨vs, v, hsplit⟩
  · rw [hnil] at hrow
    cases hrow
  · obtain ⟨row', hsummary, hfirst, hlast, _⟩ := deviceSummary_append vs v
    rw [hsplit, hsummary, Option.some.injEq] at hrow
    subst hrow
    exact ⟨vs, v, hsplit, hfirst, hlast⟩

private def SortedWrites (ws : List Write) : Prop :=
  ws.Pairwise fun earlier later => earlier.event.deviceId.val = later.event.deviceId.val →
    earlier.recordedAt ≤ later.recordedAt

private theorem sortedWrites_iff {pg : Asyncpg} {events : List ReadingEvent} {ws : List Write}
    (h : List.Forall₂ (Binds pg) events ws) : InOrder pg events ↔ SortedWrites ws := by
  rw [InOrder, ← events_of_binds h, List.pairwise_map]
  have hinst := instants_of_binds h
  constructor
  · intro hin
    apply hin.imp_of_mem
    intro w v hw hv hle hd
    exact hle hd _ (hinst w hw) _ (hinst v hv)
  · intro hsorted
    apply hsorted.imp_of_mem
    intro w v hw hv hle hd t ht t' ht'
    rw [Option.mem_def, hinst w hw, Option.some.injEq] at ht
    rw [Option.mem_def, hinst v hv, Option.some.injEq] at ht'
    exact ht ▸ ht' ▸ hle hd

private theorem sorted_of_device {ws : List Write} (h : SortedWrites ws) (d : String) :
    (ws.filter (Write.isOf d)).Pairwise fun w v => w.recordedAt ≤ v.recordedAt := by
  apply (h.filter (Write.isOf d)).imp_of_mem
  intro w v hw hv hle
  have hwd : w.event.deviceId.val = d := by simpa [Write.isOf] using (List.mem_filter.mp hw).2
  have hvd : v.event.deviceId.val = d := by simpa [Write.isOf] using (List.mem_filter.mp hv).2
  exact hle (hwd.trans hvd.symm)

private theorem brackets_of_sorted {ws : List Write} (h : SortedWrites ws) :
    Brackets (replay PgState.empty ws) := by
  have hbounds : ∀ row ∈ (replay PgState.empty ws).devices.rows,
      IsLeast (PgState.instants (replay PgState.empty ws) row.deviceId) row.firstSeenAt ∧
        IsGreatest (PgState.instants (replay PgState.empty ws) row.deviceId) row.lastSeenAt := by
    intro row hrow
    obtain ⟨vs, v, hsplit, hfirst, hlast⟩ := row_of_replay hrow
    have hsorted := sorted_of_device h row.deviceId
    rw [instants_replay, hsplit, hfirst, hlast]
    rw [hsplit] at hsorted
    refine ⟨⟨⟨_, List.head_mem (by simp), rfl⟩, ?_⟩, ⟨⟨v, by simp, rfl⟩, ?_⟩⟩
    · rintro t ⟨w, hw, rfl⟩
      rw [← List.cons_head_tail (by simp : vs ++ [v] ≠ []), List.pairwise_cons] at hsorted
      rw [← List.cons_head_tail (by simp : vs ++ [v] ≠ [])] at hw
      rcases List.mem_cons.mp hw with rfl | hw
      · exact le_refl _
      · exact hsorted.1 w hw
    · rintro t ⟨w, hw, rfl⟩
      rcases List.mem_append.mp hw with hw | hw
      · exact (List.pairwise_append.mp hsorted).2.2 w hw v (by simp)
      · rw [List.mem_singleton.mp hw]
  refine ⟨fun row hrow => (hbounds row hrow).1, fun row hrow => (hbounds row hrow).2, ?_⟩
  intro row hrow
  exact (hbounds row hrow).1.2 (hbounds row hrow).2.1

private theorem sorted_of_brackets {ws : List Write}
    (h : ∀ vs, vs <+: ws → Brackets (replay PgState.empty vs)) : SortedWrites ws := by
  induction ws using List.reverseRecOn with
  | nil => exact List.Pairwise.nil
  | append_singleton ws w ih =>
    have hprev := ih fun vs hvs => h vs (hvs.trans (List.prefix_append ws [w]))
    refine List.pairwise_append.mpr ⟨hprev, List.pairwise_singleton _ _, ?_⟩
    intro v hv last hlast hd
    obtain rfl := List.mem_singleton.mp hlast
    -- The row of the device reads the last write's instant, which must bound every other one.
    have hof : Write.isOf last.event.deviceId.val last = true := by simp [Write.isOf]
    have hvof : Write.isOf last.event.deviceId.val v = true := by simpa [Write.isOf] using hd
    have hfilter : (ws ++ [last]).filter (Write.isOf last.event.deviceId.val) =
        ws.filter (Write.isOf last.event.deviceId.val) ++ [last] := by
      rw [List.filter_append, List.filter_cons_of_pos hof, List.filter_nil]
    obtain ⟨row, hsummary, _, hseen, _⟩ :=
      deviceSummary_append (ws.filter (Write.isOf last.event.deviceId.val)) last
    have hlookup : (replay PgState.empty (ws ++ [last])).devices.lookup
        last.event.deviceId.val = some row := by
      rw [lookup_replay_devices, hfilter, hsummary]
    have hgreatest := (h _ (List.prefix_refl _)).last row (Table.mem_of_lookup hlookup)
    rw [instants_replay, Table.key_of_lookup hlookup, hseen, hfilter] at hgreatest
    exact hgreatest.2 ⟨v, List.mem_append_left _ (List.mem_filter.mpr ⟨hv, hvof⟩), rfl⟩

private theorem lastSeenKept_of_brackets {w : Write} {db : PgState} (h : Brackets db)
    (h' : Brackets (w.apply db)) : LastSeenKept db (w.apply db) := by
  intro d row row' hrow hrow'
  have hgreatest := h.last row (Table.mem_of_lookup hrow)
  have hgreatest' := h'.last row' (Table.mem_of_lookup hrow')
  rw [Table.key_of_lookup hrow] at hgreatest
  rw [Table.key_of_lookup hrow'] at hgreatest'
  obtain ⟨reading, hmem, hd, ht⟩ := hgreatest.1
  exact hgreatest'.2 ⟨reading, Write.mem_apply_readings hmem, hd, ht⟩

/-- Along a run of commits the registry brackets the readings in every state, and no `last_seen_at`
moves backwards, exactly when each device's events are committed in the order of their instants. -/
theorem registry_brackets_iff_inOrder {pg : Asyncpg} {events : List ReadingEvent} {db : PgState}
    (hrun : commitEvents pg events PgState.empty = .ok db) :
    ((∀ before db₁, before <+: events → commitEvents pg before PgState.empty = .ok db₁ →
        Brackets db₁) ∧
      (∀ before event db₁ db₂, before ++ [event] <+: events →
        commitEvents pg before PgState.empty = .ok db₁ → commitEvent pg event db₁ = .ok db₂ →
        LastSeenKept db₁ db₂)) ↔ InOrder pg events := by
  constructor
  · rintro ⟨hbrackets, _⟩
    obtain ⟨ws, hws, rfl⟩ := commitEvents_ok.mp hrun
    apply (sortedWrites_iff hws).mpr
    apply sorted_of_brackets
    rintro vs ⟨rest, rfl⟩
    have hbefore := List.forall₂_take_append events vs rest hws
    exact hbrackets _ _ (List.take_prefix _ _) (commitEvents_ok.mpr ⟨vs, hbefore, rfl⟩)
  · intro hin
    have hstate : ∀ before db₁, before <+: events →
        commitEvents pg before PgState.empty = .ok db₁ → Brackets db₁ := by
      intro before db₁ hb hcommit
      obtain ⟨vs, hvs, rfl⟩ := commitEvents_ok.mp hcommit
      exact brackets_of_sorted ((sortedWrites_iff hvs).mp (hin.sublist hb.sublist))
    refine ⟨hstate, ?_⟩
    intro before event db₁ db₂ hb hcommit hlast
    have hbrackets := hstate before db₁ ((List.prefix_append _ _).trans hb) hcommit
    obtain ⟨vs, hvs, rfl⟩ := commitEvents_ok.mp hcommit
    obtain ⟨w, hw, rfl⟩ := writeOnceScript_ok.mp hlast
    have hvw : List.Forall₂ (Binds pg) (before ++ [event]) (vs ++ [w]) :=
      List.rel_append hvs (.cons hw .nil)
    apply lastSeenKept_of_brackets hbrackets
    apply hstate _ _ hb
    exact commitEvents_ok.mpr ⟨_, hvw, by rw [replay_append]; rfl⟩

/-- An event of one minute ago is committed after the device's latest one. -/
theorem late_event_breaks_registry : ∃ db,
    commitEvents .utc [temperatureAt 60 21, temperatureAt 0 20] PgState.empty = .ok db ∧
      ¬ Brackets db := by
  refine ⟨_, rfl, ?_⟩
  intro h
  have hgreatest := h.last ⟨"sensor-1", 60, 0, none, none, none⟩ (by decide)
  have hle := hgreatest.2 ⟨⟨"sensor-1", 60, "temperature", .finite 21, "C"⟩, by decide, rfl, rfl⟩
  revert hle
  decide

theorem registry_brackets_iff_inOrder_first : ∃ db,
    commitEvents .utc twoDevices PgState.empty = .ok db ∧
      (((∀ before db₁, before <+: twoDevices →
          commitEvents .utc before PgState.empty = .ok db₁ → Brackets db₁) ∧
        (∀ before event db₁ db₂, before ++ [event] <+: twoDevices →
          commitEvents .utc before PgState.empty = .ok db₁ →
          commitEvent .utc event db₁ = .ok db₂ → LastSeenKept db₁ db₂)) ↔
        InOrder .utc twoDevices) ∧
      InOrder .utc twoDevices := by
  refine ⟨_, rfl, registry_brackets_iff_inOrder rfl, ?_⟩
  unfold InOrder
  decide

/-! ## The readings -/

/-- No two readings of the events share a key and differ in value or unit. -/
def Consistent (pg : Asyncpg) (events : List ReadingEvent) : Prop :=
  ∀ e ∈ events, ∀ e' ∈ events, ∀ t, pg.timestamptz e.timestamp = some t →
    pg.timestamptz e'.timestamp = some t → ∀ r ∈ e.readings, ∀ r' ∈ e'.readings,
      (e.readingRow t r).key = (e'.readingRow t r').key →
        r.value = r'.value ∧ r.unit = r'.unit

def Proposes (pg : Asyncpg) (event : ReadingEvent) (row : ReadingRow) : Prop :=
  ∃ t, pg.timestamptz event.timestamp = some t ∧ ∃ r ∈ event.readings, row = event.readingRow t r

private theorem mem_rows_iff {pg : Asyncpg} {events : List ReadingEvent} {ws : List Write}
    (h : List.Forall₂ (Binds pg) events ws) {row : ReadingRow} :
    row ∈ ws.flatMap Write.rows ↔ ∃ event ∈ events, Proposes pg event row := by
  have hinst := instants_of_binds h
  constructor
  · intro hrow
    obtain ⟨w, hw, hmem⟩ := List.mem_flatMap.mp hrow
    obtain ⟨r, hr, rfl⟩ := List.mem_map.mp hmem
    have hevent : w.event ∈ events := events_of_binds h ▸ List.mem_map_of_mem hw
    exact ⟨w.event, hevent, w.recordedAt, hinst w hw, r, hr, rfl⟩
  · rintro ⟨event, he, t, ht, r, hr, rfl⟩
    obtain ⟨w, hw, hbinds⟩ := exists_of_forall₂ h he
    obtain rfl := hbinds.event_eq
    have htime : w.recordedAt = t := Option.some.inj (hbinds.recordedAt.symm.trans ht)
    exact List.mem_flatMap.mpr ⟨w, hw, htime ▸ List.mem_map_of_mem hr⟩

private theorem proposals_agree {pg : Asyncpg} {events : List ReadingEvent}
    (h : Consistent pg events) {row row' : ReadingRow}
    (hrow : ∃ event ∈ events, Proposes pg event row)
    (hrow' : ∃ event ∈ events, Proposes pg event row') (hkey : row.key = row'.key) :
    row = row' := by
  obtain ⟨e, he, t, ht, r, hr, rfl⟩ := hrow
  obtain ⟨e', he', t', ht', r', hr', rfl⟩ := hrow'
  have hparts := hkey
  simp only [ReadingRow.key, ReadingEvent.readingRow, Prod.mk.injEq] at hparts
  obtain ⟨hd, rfl, hp⟩ := hparts
  obtain ⟨hvalue, hunit⟩ := h e he e' he' t ht ht' r hr r' hr' hkey
  simp only [ReadingEvent.readingRow, hd, hp, hvalue, hunit]

private theorem readings_of_consistent {pg : Asyncpg} {events : List ReadingEvent} {db : PgState}
    (hrun : commitEvents pg events PgState.empty = .ok db) (hcons : Consistent pg events)
    (row : ReadingRow) :
    row ∈ db.readings.rows ↔ ∃ event ∈ events, Proposes pg event row := by
  obtain ⟨ws, hws, rfl⟩ := commitEvents_ok.mp hrun
  rw [← mem_rows_iff hws]
  constructor
  · exact mem_replay_readings
  · intro hrow
    obtain ⟨stored, hstored, hkey⟩ := stored_of_mem hrow
    have hproposed := (mem_rows_iff hws).mp (mem_replay_readings hstored)
    rw [proposals_agree hcons ((mem_rows_iff hws).mp hrow) hproposed hkey.symm]
    exact hstored

/-- Two histories with the same consistent events store the same readings, whatever the order and
however often each event is repeated: the union of the rows of all the events. -/
theorem readings_order_irrelevant {pg : Asyncpg} {events events' : List ReadingEvent}
    {db db' : PgState} (hrun : commitEvents pg events PgState.empty = .ok db)
    (hrun' : commitEvents pg events' PgState.empty = .ok db')
    (hsame : ∀ event, event ∈ events ↔ event ∈ events') (hcons : Consistent pg events) :
    (∀ row, row ∈ db.readings.rows ↔ row ∈ db'.readings.rows) ∧
      ∀ row, row ∈ db.readings.rows ↔ ∃ event ∈ events, Proposes pg event row := by
  have hcons' : Consistent pg events' := by
    intro e he e' he'
    exact hcons e ((hsame e).mpr he) e' ((hsame e').mpr he')
  have hunion := readings_of_consistent hrun hcons
  refine ⟨?_, hunion⟩
  intro row
  rw [hunion, readings_of_consistent hrun' hcons']
  simp only [hsame]

private theorem consistent_temperatures :
    Consistent .utc [temperatureAt 0 20, temperatureAt 60 21] := by
  intro e he e' he' t ht ht' r hr r' hr' _
  simp only [List.mem_cons, List.not_mem_nil, or_false] at he he'
  rcases he with rfl | rfl <;> rcases he' with rfl | rfl <;>
    simp only [temperatureAt, Asyncpg.utc, Option.some.injEq, Option.getD_some,
      List.mem_singleton] at ht ht' hr hr'
  · exact ⟨by rw [hr, hr'], by rw [hr, hr']⟩
  · exact absurd (ht.trans ht'.symm) (by decide)
  · exact absurd (ht.trans ht'.symm) (by decide)
  · exact ⟨by rw [hr, hr'], by rw [hr, hr']⟩

theorem readings_order_irrelevant_swapped : ∃ db db',
    commitEvents .utc [temperatureAt 0 20, temperatureAt 60 21] PgState.empty = .ok db ∧
    commitEvents .utc [temperatureAt 60 21, temperatureAt 0 20, temperatureAt 60 21]
      PgState.empty = .ok db' ∧
    (∀ row, row ∈ db.readings.rows ↔ row ∈ db'.readings.rows) ∧
    ∀ row, row ∈ db.readings.rows ↔
      ∃ event ∈ [temperatureAt 0 20, temperatureAt 60 21], Proposes .utc event row := by
  obtain ⟨db', hrun'⟩ : ∃ db', commitEvents .utc [temperatureAt 60 21, temperatureAt 0 20,
    temperatureAt 60 21] PgState.empty = .ok db' := ⟨_, rfl⟩
  refine ⟨_, db', rfl, hrun', readings_order_irrelevant rfl hrun' ?_ consistent_temperatures⟩
  intro event
  simp only [List.mem_cons, List.not_mem_nil, or_false]
  tauto

end OpenWater.Ingestion
