import OpenWater.Framework.Double
import OpenWater.Framework.Table

/-!
# The database schema

The two tables of `database/schema.sql` with their primary keys, the range checks on `devices` and
the foreign key of `readings`. A `PgState` cannot be built that breaks one of them.
-/

namespace OpenWater

open Framework

/-- TIMESTAMPTZ: microseconds of UTC time, with PostgreSQL's infinities as the extreme values. -/
abbrev Timestamptz := Int

structure DeviceRow where
  deviceId : String
  firstSeenAt : Timestamptz
  lastSeenAt : Timestamptz
  firmwareVersion : Option String
  locationLat : Option Double
  locationLon : Option Double
  deriving DecidableEq

structure ReadingRow where
  deviceId : String
  recordedAt : Timestamptz
  parameter : String
  value : Double
  unit : String
  deriving DecidableEq

def ReadingRow.key (row : ReadingRow) : String × Timestamptz × String :=
  (row.deviceId, row.recordedAt, row.parameter)

/-- What a statement fails with on a connection that works. -/
inductive SqlError where
  | characterNotInRepertoire (text : String)
  | dataError
  | checkViolation (constraint : String)
  | foreignKeyViolation (constraint : String)
  deriving DecidableEq

/-- The CHECK constraint a row of `devices` breaks, if any. -/
def DeviceRow.violation (row : DeviceRow) : Option String :=
  if !row.locationLat.all (Double.between (-90) 90) then some "location_lat_range"
  else if !row.locationLon.all (Double.between (-180) 180) then some "location_lon_range"
  else none

theorem DeviceRow.violation_eq_none {row : DeviceRow} :
    row.violation = none ↔ row.locationLat.all (Double.between (-90) 90) = true ∧
      row.locationLon.all (Double.between (-180) 180) = true := by
  unfold violation
  cases row.locationLat.all (Double.between (-90) 90) <;>
    cases row.locationLon.all (Double.between (-180) 180) <;> simp

@[ext] structure PgState where
  devices : Table DeviceRow.deviceId
  readings : Table ReadingRow.key
  checks : ∀ row ∈ devices.rows, row.violation = none
  references : ∀ row ∈ readings.rows, devices.lookup row.deviceId ≠ none

namespace PgState

def empty : PgState where
  devices := Table.empty
  readings := Table.empty
  checks := by simp [Table.empty]
  references := by simp [Table.empty]

def withDevice (db : PgState) (row : DeviceRow) (h : row.violation = none) : PgState where
  devices := db.devices.put row
  readings := db.readings
  checks := by
    intro s hs
    rcases Table.mem_put hs with rfl | hs
    · exact h
    · exact db.checks s hs
  references := by
    intro r hr
    rw [Table.lookup_put]
    split
    · simp
    · exact db.references r hr

def withReading (db : PgState) (row : ReadingRow) (hkey : db.readings.lookup row.key = none)
    (hdev : db.devices.lookup row.deviceId ≠ none) : PgState where
  devices := db.devices
  readings := db.readings.insert row hkey
  checks := db.checks
  references := by
    intro r hr
    rcases Table.mem_insert.mp hr with hr | rfl
    · exact db.references r hr
    · exact hdev

def putDevice (db : PgState) (row : DeviceRow) : Except SqlError PgState :=
  match h : row.violation with
  | some name => .error (.checkViolation name)
  | none => .ok (db.withDevice row h)

/-- Insert a row of `readings`; a taken key is `ON CONFLICT DO NOTHING`. -/
def insertReading (db : PgState) (row : ReadingRow) : Except SqlError PgState :=
  if hkey : db.readings.lookup row.key = none then
    if hdev : db.devices.lookup row.deviceId ≠ none then .ok (db.withReading row hkey hdev)
    else .error (.foreignKeyViolation "readings_device_id_fkey")
  else .ok db

theorem putDevice_checked (db : PgState) {row : DeviceRow} (h : row.violation = none) :
    db.putDevice row = .ok (db.withDevice row h) := by
  unfold putDevice
  split
  · rename_i name hn
    simp [h] at hn
  · rfl

theorem insertReading_registered {db : PgState} (row : ReadingRow)
    (hdev : db.devices.lookup row.deviceId ≠ none) :
    ∃ db', db.insertReading row = .ok db' ∧ db'.devices = db.devices ∧
      db'.readings = db.readings.insertIfAbsent row := by
  unfold insertReading
  by_cases hkey : db.readings.lookup row.key = none
  · refine ⟨db.withReading row hkey hdev, by simp [hkey, hdev], rfl, ?_⟩
    simp [withReading, Table.insertIfAbsent, hkey]
  · refine ⟨db, by simp [hkey], rfl, ?_⟩
    simp [Table.insertIfAbsent, hkey]

theorem insertReading_devices {db db' : PgState} {row : ReadingRow}
    (h : db.insertReading row = .ok db') :
    db'.devices = db.devices ∧ db'.readings = db.readings.insertIfAbsent row := by
  unfold insertReading at h
  split at h
  · rename_i hkey
    split at h
    · rw [← Except.ok.inj h]
      simp [withReading, Table.insertIfAbsent, hkey]
    · cases h
  · rename_i hkey
    rw [← Except.ok.inj h]
    simp [Table.insertIfAbsent, hkey]

end PgState

end OpenWater
