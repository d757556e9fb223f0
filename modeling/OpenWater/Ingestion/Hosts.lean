import OpenWater.Ingestion.History

/-!
# Hosts in different time zones

Where a timestamp without offset is stored when the service runs on one host or another.
`_write_once` hands the datetime to asyncpg as it is, and asyncpg reads a naive one as local time.
-/

namespace OpenWater.Ingestion

open Framework

/-- A host: its driver, and the UTC offset of its local time at each wall clock. -/
structure Host where
  pg : Asyncpg
  zone : Int → Int
  /-- asyncpg reads a naive datetime as local time. -/
  local_time : ∀ wall t, pg.timestamptz ⟨wall, none⟩ = some t → t = wall - zone wall

def Host.ahead (offset : Int) : Host where
  pg := ⟨fun t => some (t.wall - t.utcoffset.getD offset)⟩
  zone _ := offset
  local_time _ _ h := (Option.some.inj h).symm

variable {event : ReadingEvent} {w w₁ w₂ : Write} {db : PgState}

theorem Write.ext_recordedAt (hevent : w₁.event = w₂.event)
    (hrecorded : w₁.recordedAt = w₂.recordedAt) : w₁ = w₂ := by
  cases w₁
  cases w₂
  obtain rfl : _ = _ := hevent
  obtain rfl : _ = _ := hrecorded
  rfl

private theorem lastSeenAt_apply (w : Write) (db : PgState) :
    ((w.apply db).devices.lookup w.event.deviceId.val).map DeviceRow.lastSeenAt =
      some w.recordedAt := by
  rw [w.lookup_apply_devices, if_pos rfl, Option.map_some, registered_lastSeenAt]
  rfl

theorem apply_eq_iff (hevent : w₁.event = w₂.event) :
    w₁.apply db = w₂.apply db ↔ w₁.recordedAt = w₂.recordedAt := by
  constructor
  · intro h
    have hseen := lastSeenAt_apply w₁ db
    rw [h, hevent, lastSeenAt_apply w₂ db] at hseen
    exact (Option.some.inj hseen).symm
  · intro h
    rw [Write.ext_recordedAt hevent h]

theorem Host.recordedAt (host : Host) (hnaive : event.timestamp.utcoffset = none)
    (hw : Binds host.pg event w) :
    w.recordedAt = event.timestamp.wall - host.zone event.timestamp.wall := by
  apply host.local_time
  rw [← hw.recordedAt, ← hnaive]

private theorem utc_recordedAt (hnaive : event.timestamp.utcoffset = none)
    (hw : Binds .utc event w) :
    w.recordedAt = event.timestamp.wall := by
  have hrecorded := hw.recordedAt
  simp only [Asyncpg.utc, hnaive, Option.getD_none, sub_zero, Option.some.injEq] at hrecorded
  exact hrecorded.symm

private theorem binds_utc (hnaive : event.timestamp.utcoffset = none) {pg : Asyncpg}
    (hw : Binds pg event w) (hwall : w.recordedAt = event.timestamp.wall) :
    Binds .utc event w := by
  refine ⟨hw.event_eq, ?_, hw.texts⟩
  simp only [Asyncpg.utc, hnaive, Option.getD_none, sub_zero, hwall]

private theorem stored_of_returned {database : Database} {host : Host}
    (hpool : database.pool = some host.pg) (hnaive : event.timestamp.utcoffset = none)
    {env : Nat → Fault PyException}
    (hreturned : (database.writeEvent event env db).outcome = .returned) :
    ∃ w, Binds host.pg event w ∧ (database.writeEvent event env db).state = w.apply db ∧
      w.recordedAt = event.timestamp.wall - host.zone event.timestamp.wall := by
  obtain ⟨pg, w, hpg, hw, hstate⟩ := (writeEvent_spec database event env db).applied hreturned
  obtain rfl := Option.some.inj (hpool.symm.trans hpg)
  exact ⟨w, hw, hstate, host.recordedAt hnaive hw⟩

private theorem stored_utc_iff {host : Host} (hnaive : event.timestamp.utcoffset = none)
    (hw : Binds host.pg event w) :
    (∃ v, Binds .utc event v ∧ w.apply db = v.apply db) ↔
      host.zone event.timestamp.wall = 0 := by
  have hrecorded := host.recordedAt hnaive hw
  have hzero : w.recordedAt = event.timestamp.wall ↔ host.zone event.timestamp.wall = 0 := by
    rw [hrecorded]
    exact sub_eq_self
  rw [← hzero]
  constructor
  · rintro ⟨v, hv, happly⟩
    rw [(apply_eq_iff (hw.event_eq.trans hv.event_eq.symm)).mp happly]
    exact utc_recordedAt hnaive hv
  · intro hwall
    exact ⟨w, binds_utc hnaive hw hwall, rfl⟩

/-- A naive timestamp is stored under the same rows on two hosts, and its redelivery to the other
one adds no reading, exactly when their zones agree at that wall clock. The rows are those of the
wall clock read as UTC exactly when both zones are UTC then. -/
theorem naive_time_host_independent_iff (host₁ host₂ : Host) {database₁ database₂ : Database}
    (hpool₁ : database₁.pool = some host₁.pg) (hpool₂ : database₂.pool = some host₂.pg)
    (hnaive : event.timestamp.utcoffset = none) {env₁ env₂ env : Nat → Fault PyException}
    (hreturned₁ : (database₁.writeEvent event env₁ db).outcome = .returned)
    (hreturned₂ : (database₂.writeEvent event env₂ db).outcome = .returned)
    (hreturned : (database₂.writeEvent event env
      (database₁.writeEvent event env₁ db).state).outcome = .returned) :
    let stored₁ := (database₁.writeEvent event env₁ db).state
    let stored₂ := (database₂.writeEvent event env₂ db).state
    let redelivered := (database₂.writeEvent event env stored₁).state
    (stored₁ = stored₂ ∧ redelivered.readings = stored₁.readings ↔
      host₁.zone event.timestamp.wall = host₂.zone event.timestamp.wall) ∧
    ((∃ w, Binds .utc event w ∧ stored₁ = w.apply db) ∧
        (∃ w, Binds .utc event w ∧ stored₂ = w.apply db) ∧
        redelivered.readings = stored₁.readings ↔
      host₁.zone event.timestamp.wall = 0 ∧ host₂.zone event.timestamp.wall = 0) := by
  intro stored₁ stored₂ redelivered
  obtain ⟨w₁, hw₁, hstored₁, hrecorded₁⟩ := stored_of_returned hpool₁ hnaive hreturned₁
  obtain ⟨w₂, hw₂, hstored₂, hrecorded₂⟩ := stored_of_returned hpool₂ hnaive hreturned₂
  obtain ⟨w, hw, hredelivered, _⟩ := stored_of_returned hpool₂ hnaive hreturned
  obtain rfl := hw.unique hw₂
  have hevent : w₁.event = w.event := hw₁.event_eq.trans hw₂.event_eq.symm
  have hzones : w₁.recordedAt = w.recordedAt ↔
      host₁.zone event.timestamp.wall = host₂.zone event.timestamp.wall := by
    rw [hrecorded₁, hrecorded₂]
    exact sub_right_inj
  have hagain : w₁.recordedAt = w.recordedAt → redelivered.readings = stored₁.readings := by
    intro hsame
    calc
      redelivered.readings = (w.apply (w₁.apply db)).readings := by
        rw [← hstored₁]
        exact congrArg PgState.readings hredelivered
      _ = (w₁.apply db).readings := by
        rw [Write.ext_recordedAt hevent hsame, w.apply_apply]
      _ = stored₁.readings := congrArg PgState.readings hstored₁.symm
  simp only [show stored₁ = w₁.apply db from hstored₁, show stored₂ = w.apply db from hstored₂]
    at hagain ⊢
  constructor
  · rw [apply_eq_iff hevent, ← hzones]
    exact ⟨And.left, fun hsame => ⟨hsame, hagain hsame⟩⟩
  · rw [stored_utc_iff hnaive hw₁, stored_utc_iff hnaive hw₂]
    constructor
    · rintro ⟨h₁, h₂, _⟩
      exact ⟨h₁, h₂⟩
    · rintro ⟨h₁, h₂⟩
      exact ⟨h₁, h₂, hagain (hzones.mpr (h₁.trans h₂.symm))⟩

def Database.on (host : Host) : Database := ⟨Settings.default "127.0.0.1", some host.pg⟩

def naiveTemperature : ReadingEvent := { temperatureAt 0 20 with timestamp := ⟨0, none⟩ }

/-- A host whose clocks stand at UTC until they are put an hour ahead, at the given wall clock. -/
def Host.summerFrom (start : Int) : Host where
  pg := ⟨fun t => some (t.wall - t.utcoffset.getD (if t.wall < start then 0 else 3600000000))⟩
  zone wall := if wall < start then 0 else 3600000000
  local_time _ _ h := (Option.some.inj h).symm

/-- On tables that hold an earlier reading, two hosts whose zones differ later on. -/
theorem naive_time_host_independent_iff_utc :
    let utc := Host.ahead 0
    let summer := Host.summerFrom 7200000000
    let db := ((Database.on utc).writeEvent (temperatureAt (-60) 19) (fun _ => .none) .empty).state
    let stored₁ := ((Database.on utc).writeEvent naiveTemperature (fun _ => .none) db).state
    let stored₂ := ((Database.on summer).writeEvent naiveTemperature (fun _ => .none) db).state
    let redelivered := ((Database.on summer).writeEvent naiveTemperature (fun _ => .none)
      stored₁).state
    (stored₁ = stored₂ ∧ redelivered.readings = stored₁.readings) ∧
      ((∃ w, Binds .utc naiveTemperature w ∧ stored₁ = w.apply db) ∧
        (∃ w, Binds .utc naiveTemperature w ∧ stored₂ = w.apply db) ∧
        redelivered.readings = stored₁.readings) ∧
      utc.zone 7200000000 ≠ summer.zone 7200000000 := by
  intro utc summer db
  dsimp only
  have h₁ : ((Database.on utc).writeEvent naiveTemperature (fun _ => .none) db).outcome =
      .returned := rfl
  have h₂ : ((Database.on summer).writeEvent naiveTemperature (fun _ => .none) db).outcome =
      .returned := rfl
  have hagain : ((Database.on summer).writeEvent naiveTemperature (fun _ => .none)
      ((Database.on utc).writeEvent naiveTemperature (fun _ => .none) db).state).outcome =
      .returned := rfl
  have hwinter : summer.zone naiveTemperature.timestamp.wall = 0 := by decide
  obtain ⟨hagree, hutc⟩ :=
    naive_time_host_independent_iff utc summer rfl rfl rfl h₁ h₂ hagain
  exact ⟨hagree.mpr hwinter.symm, hutc.mpr ⟨rfl, hwinter⟩, by decide⟩

/-- A host in UTC and one an hour ahead store the event under two keys; redelivered, it is stored
twice. -/
theorem naive_time_stored_twice :
    let stored₁ := ((Database.on (.ahead 0)).writeEvent naiveTemperature (fun _ => .none)
      PgState.empty).state
    let stored₂ := ((Database.on (.ahead 3600000000)).writeEvent naiveTemperature (fun _ => .none)
      PgState.empty).state
    let redelivered := ((Database.on (.ahead 3600000000)).writeEvent naiveTemperature
      (fun _ => .none) stored₁).state
    stored₁.readings.rows.map ReadingRow.recordedAt = [0] ∧
      stored₂.readings.rows.map ReadingRow.recordedAt = [-3600000000] ∧
      redelivered.readings.rows.map ReadingRow.recordedAt = [0, -3600000000] := by
  decide +kernel

end OpenWater.Ingestion
