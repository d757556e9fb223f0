import OpenWater.Backend.Schemas
import OpenWater.Framework.Paging
import OpenWater.Ingestion.Database

/-!
# Queries of the backend

The read methods of `Database` in `backend/owp_backend/db.py`. Each runs one statement on the
tables as they stand at that moment. The environment may fail it with any exception: those of
`_CONNECT_RETRYABLE_EXCEPTIONS` are reported as `DatabaseUnavailableError`, and any other leaves the
method as it is.
-/

namespace OpenWater.Backend

open Framework Ingestion

/-- What a request can fail with. A `RequestValidationError` is FastAPI's answer to a query
parameter; an error that no handler knows (`exception`, `sql`, `validationError`, `typeError`) ends
in a 500. -/
inductive RequestError where
  | httpException (statusCode : Nat) (detail : String)
  | databaseUnavailable (message : String)
  | exception (exc : PyException)
  | sql (err : SqlError)
  | requestValidationError (errors : List FieldError)
  | validationError (errors : List FieldError)
  | typeError (message : String)
  deriving DecidableEq

/-- How a query fails: `_ensure_pool` is left without a pool, or opening one, taking a connection of
it or running the statement raises. -/
inductive QueryFailure where
  | noPool
  | raised (exc : PyException) (text : String) (exception : exc.isException = true)

abbrev Outage := Option QueryFailure

/-- The `except` clause of the read methods; `_CONNECT_RETRYABLE_EXCEPTIONS` has the members of
`_RETRYABLE_EXCEPTIONS`. -/
def QueryFailure.error : QueryFailure → RequestError
  | .noPool => .databaseUnavailable "postgres pool is not available"
  | .raised exc text _ => if exc.isRetryable then .databaseUnavailable text else .exception exc

def QueryFailure.unavailable : QueryFailure → Bool
  | .noPool => true
  | .raised exc _ _ => exc.isRetryable

def fetch {α : Type} (outage : Outage) (result : Except SqlError α) : Except RequestError α :=
  match outage with
  | some failure => .error failure.error
  | none => result.mapError .sql

def deviceExistsSql (deviceId : String) (db : PgState) : Option Nat :=
  (db.devices.lookup deviceId).map fun _ => 1

def deviceExists (outage : Outage) (deviceId : String) (db : PgState) :
    Except RequestError Bool :=
  fetch outage ((bindText deviceId).map fun deviceId => (deviceExistsSql deviceId db).isSome)

theorem QueryFailure.error_cases (failure : QueryFailure) :
    (failure.unavailable = true ∧ ∃ message, failure.error = .databaseUnavailable message) ∨
      (failure.unavailable = false ∧ ∃ exc, failure.error = .exception exc) := by
  cases failure with
  | noPool => exact .inl ⟨rfl, _, rfl⟩
  | raised exc text exception =>
    cases hretry : exc.isRetryable with
    | true => exact .inl ⟨hretry, text, by simp [QueryFailure.error, hretry]⟩
    | false => exact .inr ⟨hretry, exc, by simp [QueryFailure.error, hretry]⟩

theorem fetch_ok {α : Type} {outage : Outage} {result : Except SqlError α} {a : α} :
    fetch outage result = .ok a ↔ outage = none ∧ result = .ok a := by
  cases outage <;> simp [fetch, mapError_ok]

private theorem bindText_map_ok {α : Type} {s : String} {f : String → α} {a : α} :
    (bindText s).map f = .ok a ↔ '\x00' ∉ s.toList ∧ f s = a := by
  by_cases hnul : '\x00' ∈ s.toList <;> simp [bindText, hnul, Except.map]

theorem deviceExists_ok {outage : Outage} {deviceId : String} {db : PgState} {found : Bool} :
    deviceExists outage deviceId db = .ok found ↔ outage = none ∧ '\x00' ∉ deviceId.toList ∧
      (db.devices.lookup deviceId).isSome = found := by
  simp only [deviceExists, fetch_ok, bindText_map_ok, deviceExistsSql, Option.isSome_map]

/-! ## Readings -/

/-- BIGINT, the type of `LIMIT`, `OFFSET` and `COUNT(*)`. -/
def bigint (n : Nat) : Except SqlError Nat := if n < 2 ^ 63 then .ok n else .error .dataError

theorem bigint_ok {n m : Nat} : bigint n = .ok m ↔ n < 2 ^ 63 ∧ m = n := by
  unfold bigint
  split <;> simp_all [eq_comm]

def bindNullableTimestamptz (pg : Asyncpg) : Option Datetime → Except SqlError (Option Timestamptz)
  | none => .ok none
  | some t => (bindTimestamptz pg t).map some

/-- The first four arguments of `_LIST_READINGS_SQL`, and all of `_COUNT_READINGS_SQL`. -/
structure ReadingsFilter where
  deviceId : String
  recordedFrom : Option Timestamptz
  recordedTo : Option Timestamptz
  parameter : Option String

/-- The `WHERE` clause, word for word the same in both statements. -/
def ReadingsFilter.selects (filter : ReadingsFilter) (row : ReadingRow) : Bool :=
  decide (row.deviceId = filter.deviceId) &&
    filter.recordedFrom.all (fun t => decide (t ≤ row.recordedAt)) &&
    filter.recordedTo.all (fun t => decide (row.recordedAt ≤ t)) &&
    filter.parameter.all (fun p => decide (row.parameter = p))

def bindReadingsFilter (pg : Asyncpg) (deviceId : String)
    (recordedFrom recordedTo : Option Datetime) (parameter : Option String) :
    Except SqlError ReadingsFilter := do
  let deviceId ← bindText deviceId
  let recordedFrom ← bindNullableTimestamptz pg recordedFrom
  let recordedTo ← bindNullableTimestamptz pg recordedTo
  let parameter ← bindNullableText parameter
  return ⟨deviceId, recordedFrom, recordedTo, parameter⟩

def selected (filter : ReadingsFilter) (db : PgState) : List ReadingRow :=
  db.readings.rows.filter filter.selects

def readingsOrder : SortOrder → ReadingRow → ReadingRow → Bool
  | .asc, r, s => decide (r.recordedAt ≤ s.recordedAt)
  | .desc, r, s => decide (s.recordedAt ≤ r.recordedAt)

def listReadingsSql {order : SortOrder} (plan : Arrangement (readingsOrder order))
    (filter : ReadingsFilter) (limit offset : Nat) (db : PgState) : List ReadingRow :=
  window limit offset (plan.sort (selected filter db))

def countReadingsSql (filter : ReadingsFilter) (db : PgState) : Except SqlError Nat :=
  bigint (selected filter db).length

def countReadings (pg : Asyncpg) (outage : Outage) (deviceId : String)
    (recordedFrom recordedTo : Option Datetime) (parameter : Option String) (db : PgState) :
    Except RequestError Nat :=
  fetch outage do
    let filter ← bindReadingsFilter pg deviceId recordedFrom recordedTo parameter
    countReadingsSql filter db

/-- `list_readings`; its check of `order` cannot fail on a `SortOrder`. -/
def listReadings (pg : Asyncpg) {order : SortOrder} (plan : Arrangement (readingsOrder order))
    (outage : Outage) (deviceId : String) (recordedFrom recordedTo : Option Datetime)
    (parameter : Option String) (limit offset : Nat) (db : PgState) :
    Except RequestError (List ReadingRow) :=
  fetch outage do
    let filter ← bindReadingsFilter pg deviceId recordedFrom recordedTo parameter
    let limit ← bigint limit
    let offset ← bigint offset
    return listReadingsSql plan filter limit offset db

theorem readingsOrder_trans (order : SortOrder) (r s t : ReadingRow)
    (hrs : readingsOrder order r s = true) (hst : readingsOrder order s t = true) :
    readingsOrder order r t = true := by
  cases order <;> simp only [readingsOrder, decide_eq_true_eq] at *
  · exact hrs.trans hst
  · exact hst.trans hrs

theorem readingsOrder_total (order : SortOrder) (r s : ReadingRow) :
    (readingsOrder order r s || readingsOrder order s r) = true := by
  cases order <;> simp only [readingsOrder, Bool.or_eq_true, decide_eq_true_eq] <;>
    exact le_total _ _

theorem countReadings_ok {pg : Asyncpg} {outage : Outage} {deviceId : String}
    {recordedFrom recordedTo : Option Datetime} {parameter : Option String} {db : PgState}
    {total : Nat} :
    countReadings pg outage deviceId recordedFrom recordedTo parameter db = .ok total ↔
      outage = none ∧ ∃ filter, bindReadingsFilter pg deviceId recordedFrom recordedTo parameter =
        .ok filter ∧ (selected filter db).length < 2 ^ 63 ∧
          total = (selected filter db).length := by
  simp only [countReadings, fetch_ok, bind, bind_ok, countReadingsSql, bigint_ok]

theorem listReadings_ok {pg : Asyncpg} {order : SortOrder}
    {plan : Arrangement (readingsOrder order)} {outage : Outage} {deviceId : String}
    {recordedFrom recordedTo : Option Datetime} {parameter : Option String} {limit offset : Nat}
    {db : PgState} {rows : List ReadingRow} :
    listReadings pg plan outage deviceId recordedFrom recordedTo parameter limit offset db =
        .ok rows ↔
      outage = none ∧ limit < 2 ^ 63 ∧ offset < 2 ^ 63 ∧
        ∃ filter, bindReadingsFilter pg deviceId recordedFrom recordedTo parameter = .ok filter ∧
          rows = listReadingsSql plan filter limit offset db := by
  simp only [listReadings, fetch_ok, bind, bind_ok, bigint_ok, pure, Except.pure,
    Except.ok.injEq]
  constructor
  · rintro ⟨hout, filter, hfilter, _, ⟨hlimit, rfl⟩, _, ⟨hoffset, rfl⟩, rfl⟩
    exact ⟨hout, hlimit, hoffset, filter, hfilter, rfl⟩
  · rintro ⟨hout, hlimit, hoffset, filter, hfilter, rfl⟩
    exact ⟨hout, filter, hfilter, _, ⟨hlimit, rfl⟩, _, ⟨hoffset, rfl⟩, rfl⟩

/-! ## The latest readings -/

def latestOrder (collation : Collation) (r s : ReadingRow) : Bool :=
  if r.parameter = s.parameter then decide (s.recordedAt ≤ r.recordedAt)
  else collation.le r.parameter s.parameter

def latestReadingsSql {collation : Collation} (plan : Arrangement (latestOrder collation))
    (deviceId : String) (parameter : Option String) (db : PgState) : List ReadingRow :=
  distinctOn ReadingRow.parameter (plan.sort (db.readings.rows.filter fun row =>
    row.deviceId = deviceId && parameter.all (row.parameter = ·)))

def listLatestReadings {collation : Collation} (plan : Arrangement (latestOrder collation))
    (outage : Outage) (deviceId : String) (parameter : Option String) (db : PgState) :
    Except RequestError (List ReadingRow) :=
  fetch outage do
    let deviceId ← bindText deviceId
    let parameter ← bindNullableText parameter
    return latestReadingsSql plan deviceId parameter db

theorem latestOrder_trans (collation : Collation) (r s t : ReadingRow)
    (hrs : latestOrder collation r s = true) (hst : latestOrder collation s t = true) :
    latestOrder collation r t = true := by
  unfold latestOrder at *
  by_cases hp : r.parameter = s.parameter
  · by_cases hq : s.parameter = t.parameter
    · simp only [hp, hq, if_true, decide_eq_true_eq] at hrs hst ⊢
      exact le_trans hst hrs
    · simpa [hp, hq] using hst
  · by_cases hq : s.parameter = t.parameter
    · rw [if_neg hp] at hrs
      rw [if_neg (hq ▸ hp)]
      exact hq ▸ hrs
    · rw [if_neg hp] at hrs
      rw [if_neg hq] at hst
      by_cases hr : r.parameter = t.parameter
      · exact absurd (collation.antisymm _ _ hrs (hr ▸ hst)) hp
      · rw [if_neg hr]
        exact collation.trans _ _ _ hrs hst

theorem latestOrder_total (collation : Collation) (r s : ReadingRow) :
    (latestOrder collation r s || latestOrder collation s r) = true := by
  unfold latestOrder
  by_cases hp : r.parameter = s.parameter
  · simp only [hp, if_true, Bool.or_eq_true, decide_eq_true_eq]
    exact le_total _ _
  · rw [if_neg hp, if_neg (Ne.symm hp)]
    exact collation.total _ _

def sortPlan (collation : Collation) : Arrangement (latestOrder collation) :=
  .stable _ (latestOrder_trans collation) (latestOrder_total collation)

theorem listLatestReadings_ok {collation : Collation}
    (plan : Arrangement (latestOrder collation)) {deviceId : String}
    (hnul : '\x00' ∉ deviceId.toList) (db : PgState) :
    listLatestReadings plan none deviceId none db =
      .ok (latestReadingsSql plan deviceId none db) := by
  simp only [listLatestReadings, fetch, bindText, if_neg hnul]
  rfl

theorem latestReadingsSql_ne_nil {collation : Collation}
    (plan : Arrangement (latestOrder collation)) {db : PgState} {row : ReadingRow}
    (h : row ∈ db.readings.rows) : latestReadingsSql plan row.deviceId none db ≠ [] := by
  rw [latestReadingsSql, ne_eq, distinctOn_eq_nil, plan.sort_eq_nil]
  apply List.ne_nil_of_mem
  exact List.mem_filter.mpr ⟨h, by simp⟩

/-! ## Devices -/

def devicesOrder (r s : DeviceRow) : Bool := decide (s.lastSeenAt ≤ r.lastSeenAt)

def listDevicesSql (plan : Arrangement devicesOrder) (limit offset : Nat) (db : PgState) :
    List DeviceRow :=
  window limit offset (plan.sort db.devices.rows)

def countDevicesSql (db : PgState) : Except SqlError Nat := bigint db.devices.rows.length

def getDeviceSql (deviceId : String) (db : PgState) : Option DeviceRow :=
  db.devices.lookup deviceId

def countDevices (outage : Outage) (db : PgState) : Except RequestError Nat :=
  fetch outage (countDevicesSql db)

def listDevices (plan : Arrangement devicesOrder) (outage : Outage) (limit offset : Nat)
    (db : PgState) : Except RequestError (List DeviceRow) :=
  fetch outage do
    let limit ← bigint limit
    let offset ← bigint offset
    return listDevicesSql plan limit offset db

def getDevice (outage : Outage) (deviceId : String) (db : PgState) :
    Except RequestError (Option DeviceRow) :=
  fetch outage ((bindText deviceId).map fun deviceId => getDeviceSql deviceId db)

theorem devicesOrder_trans (r s t : DeviceRow) (hrs : devicesOrder r s = true)
    (hst : devicesOrder s t = true) : devicesOrder r t = true := by
  simp only [devicesOrder, decide_eq_true_eq] at *
  exact hst.trans hrs

theorem devicesOrder_total (r s : DeviceRow) : (devicesOrder r s || devicesOrder s r) = true := by
  simp only [devicesOrder, Bool.or_eq_true, decide_eq_true_eq]
  exact le_total _ _

theorem listDevices_ok {plan : Arrangement devicesOrder} {outage : Outage} {limit offset : Nat}
    {db : PgState} {rows : List DeviceRow} :
    listDevices plan outage limit offset db = .ok rows ↔
      outage = none ∧ limit < 2 ^ 63 ∧ offset < 2 ^ 63 ∧
        rows = listDevicesSql plan limit offset db := by
  simp only [listDevices, fetch_ok, bind, bind_ok, bigint_ok, pure, Except.pure, Except.ok.injEq]
  constructor
  · rintro ⟨hout, _, ⟨hlimit, rfl⟩, _, ⟨hoffset, rfl⟩, rfl⟩
    exact ⟨hout, hlimit, hoffset, rfl⟩
  · rintro ⟨hout, hlimit, hoffset, rfl⟩
    exact ⟨hout, _, ⟨hlimit, rfl⟩, _, ⟨hoffset, rfl⟩, rfl⟩

theorem getDevice_ok {outage : Outage} {deviceId : String} {db : PgState}
    {found : Option DeviceRow} :
    getDevice outage deviceId db = .ok found ↔ outage = none ∧ '\x00' ∉ deviceId.toList ∧
      db.devices.lookup deviceId = found := by
  simp only [getDevice, fetch_ok, bindText_map_ok, getDeviceSql]

end OpenWater.Backend
