import OpenWater.Framework.Transaction
import OpenWater.Ingestion.Models
import OpenWater.Schema

/-!
# The two statements of the ingestion service

`_DEVICE_UPSERT_SQL` and `_READING_INSERT_SQL` on the two tables, the arguments `_write_once`
passes to them, and the effect of the whole script. How asyncpg encodes a datetime is its own; that
function is the parameter `Asyncpg`, and a datetime it cannot encode has no image.
-/

namespace OpenWater.Ingestion

open Framework

structure Asyncpg where
  timestamptz : Datetime → Option Timestamptz

def Asyncpg.utc : Asyncpg where
  timestamptz t := some (t.wall - t.utcoffset.getD 0)

/-- The exceptions an attempt to write can end in. -/
inductive PyException where
  | postgresConnectionError
  | interfaceError
  | connectionError
  | osError
  | timeoutError
  | sql (err : SqlError)
  | runtimeError (message : String)
  | other (name : String)
  | cancelledError
  deriving DecidableEq

/-- `ON CONFLICT (device_id) DO UPDATE SET`: the stored row after a conflict with `excluded`. -/
def onDeviceConflict (stored excluded : DeviceRow) : DeviceRow :=
  { stored with
    lastSeenAt := excluded.lastSeenAt
    firmwareVersion := excluded.firmwareVersion.or stored.firmwareVersion
    locationLat := excluded.locationLat.or stored.locationLat
    locationLon := excluded.locationLon.or stored.locationLon }

/-- `_DEVICE_UPSERT_SQL`. The proposed row is checked before the conflict is looked for. -/
def deviceUpsertSql (excluded : DeviceRow) (db : PgState) : Except SqlError PgState :=
  match excluded.violation with
  | some name => .error (.checkViolation name)
  | none => match db.devices.lookup excluded.deviceId with
    | none => db.putDevice excluded
    | some stored => db.putDevice (onDeviceConflict stored excluded)

def readingInsertSql (row : ReadingRow) (db : PgState) : Except SqlError PgState :=
  db.insertReading row

def bindText (s : String) : Except SqlError String :=
  if '\x00' ∈ s.toList then .error (.characterNotInRepertoire s) else .ok s

def bindNullableText : Option String → Except SqlError (Option String)
  | none => .ok none
  | some s => (bindText s).map some

def bindTimestamptz (pg : Asyncpg) (t : Datetime) : Except SqlError Timestamptz :=
  match pg.timestamptz t with
  | some ts => .ok ts
  | none => .error .dataError

theorem bindText_ok {s t : String} : bindText s = .ok t ↔ '\x00' ∉ s.toList ∧ t = s := by
  unfold bindText
  split <;> simp_all [eq_comm]

theorem bindNullableText_ok {s t : Option String} :
    bindNullableText s = .ok t ↔ (∀ x ∈ s, '\x00' ∉ x.toList) ∧ t = s := by
  cases s with
  | none => simp [bindNullableText, eq_comm]
  | some x =>
    by_cases hx : '\x00' ∈ x.toList <;>
      simp [bindNullableText, bindText, hx, Except.map, eq_comm]

theorem bindTimestamptz_ok {pg : Asyncpg} {t : Datetime} {ts : Timestamptz} :
    bindTimestamptz pg t = .ok ts ↔ pg.timestamptz t = some ts := by
  unfold bindTimestamptz
  split <;> simp_all

def bindDevice (pg : Asyncpg) (event : ReadingEvent) : Except SqlError DeviceRow := do
  let deviceId ← bindText event.deviceId.val
  let timestamp ← bindTimestamptz pg event.timestamp
  let firmwareVersion ← bindNullableText (event.firmwareVersion.map (·.val))
  return ⟨deviceId, timestamp, timestamp, firmwareVersion,
    event.location.map (·.lat.val), event.location.map (·.lon.val)⟩

def bindReading (pg : Asyncpg) (event : ReadingEvent) (reading : Reading) :
    Except SqlError ReadingRow := do
  let deviceId ← bindText event.deviceId.val
  let timestamp ← bindTimestamptz pg event.timestamp
  let parameter ← bindText reading.parameter.val
  let unit ← bindText reading.unit.val
  return ⟨deviceId, timestamp, parameter, reading.value, unit⟩

def executeUpsert (pg : Asyncpg) (event : ReadingEvent) (db : PgState) :
    Except PyException PgState :=
  ((bindDevice pg event).bind fun row => deviceUpsertSql row db).mapError .sql

def executeInsert (pg : Asyncpg) (event : ReadingEvent) (reading : Reading) (db : PgState) :
    Except PyException PgState :=
  ((bindReading pg event reading).bind fun row => readingInsertSql row db).mapError .sql

/-- The body of `_write_once`'s transaction. -/
def writeOnceScript (pg : Asyncpg) (event : ReadingEvent) :
    List (PgState → Except PyException PgState) :=
  executeUpsert pg event :: event.readings.map (executeInsert pg event)

end OpenWater.Ingestion
