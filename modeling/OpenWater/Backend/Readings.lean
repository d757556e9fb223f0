import OpenWater.Backend.Config
import OpenWater.Backend.Database
import OpenWater.Ingestion.History

/-!
# Routes for readings

`GET /devices/{device_id}/readings` and `GET /devices/{device_id}/readings/latest` of
`backend/owp_backend/routes/readings.py`. The queries of a request see the tables at different
moments, with writes of the ingestion service in between.
-/

namespace OpenWater.Backend

open Framework Ingestion

def deviceNotFound (deviceId : String) : RequestError :=
  .httpException 404 ("Device not found: " ++ deviceId)

def readingNotFound (deviceId : String) : Option String → RequestError
  | none => .httpException 404 ("No readings found for device: " ++ deviceId)
  | some parameter => .httpException 404
      ("No readings found for device " ++ deviceId ++ " with parameter: " ++ parameter)

def readingToOut (row : ReadingRow) : ReadingOut :=
  ⟨row.deviceId, row.recordedAt, row.parameter, row.value, row.unit⟩

def ensureDeviceExists (outage : Outage) (deviceId : String) (db : PgState) :
    Except RequestError Unit := do
  if !(← deviceExists outage deviceId db) then
    throw (deviceNotFound deviceId)

theorem ensureDeviceExists_ok {outage : Outage} {deviceId : String} {db : PgState} {u : Unit} :
    ensureDeviceExists outage deviceId db = .ok u ↔ outage = none ∧
      '\x00' ∉ deviceId.toList ∧ db.devices.lookup deviceId ≠ none := by
  unfold ensureDeviceExists
  constructor
  · intro h
    obtain ⟨found, hfound, hrest⟩ := bind_ok.mp h
    obtain ⟨hout, hnul, rfl⟩ := deviceExists_ok.mp hfound
    refine ⟨hout, hnul, ?_⟩
    intro hnone
    rw [hnone] at hrest
    cases hrest
  · rintro ⟨hout, hnul, hsome⟩
    obtain ⟨row, hrow⟩ := Option.ne_none_iff_exists'.mp hsome
    have hfound : deviceExists outage deviceId db = .ok true :=
      deviceExists_ok.mpr ⟨hout, hnul, by rw [hrow]; rfl⟩
    rw [hfound]
    rfl

/-- `latest_readings`; its two queries find the tables in the states `db` and `db'`. -/
def latestReadings {collation : Collation} (plan : Arrangement (latestOrder collation))
    (outage outage' : Outage) (deviceId : String) (parameter : Option String)
    (db db' : PgState) : Except RequestError (List ReadingOut) := do
  ensureDeviceExists outage deviceId db
  let rows ← listLatestReadings plan outage' deviceId parameter db'
  if rows.isEmpty then
    throw (readingNotFound deviceId parameter)
  return rows.map readingToOut

def resolvePageLimit (requested : Option Nat) (default maximum : Nat) : Nat :=
  min (match requested with
    | none | some 0 => default
    | some (n + 1) => n + 1) maximum

private theorem resolvePageLimit_pos {requested : Option Nat} {default maximum : Nat}
    (hd : 1 ≤ default)
    (hm : 1 ≤ maximum) : 1 ≤ resolvePageLimit requested default maximum := by
  unfold resolvePageLimit
  split <;> omega

/-- `limit: int | None = Query(ge=1)` and `offset: int = Query(ge=0)`, as FastAPI checks them. -/
def validatePage (limit : Option Int) (offset : Int) :
    Except RequestError (Option { n : Nat // 1 ≤ n } × { n : Nat // 0 ≤ n }) :=
  match atField "query" (atField "limit" (nullable (validateInt 1) limit)),
      atField "query" (atField "offset" (validateInt 0 offset)) with
  | .ok limit, .ok offset => .ok (limit, offset)
  | limit, offset => .error (.requestValidationError (errorsOf limit ++ errorsOf offset))

theorem validatePage_ok {limit : Option Int} {offset : Int}
    {page : Option { n : Nat // 1 ≤ n } × { n : Nat // 0 ≤ n }} :
    validatePage limit offset = .ok page ↔
      nullable (validateInt 1) limit = .ok page.1 ∧ validateInt 0 offset = .ok page.2 := by
  unfold validatePage
  cases hl : nullable (validateInt 1) limit <;> cases ho : validateInt 0 offset <;>
    simp [atField, Except.mapError, Prod.ext_iff]

structure Api where
  settings : Settings
  decoder : QueryDecoder
  pg : Asyncpg

structure ReadingsRequest where
  deviceId : String
  recordedFrom : Option String := none
  recordedTo : Option String := none
  parameter : Option String := none
  limit : Option Int := none
  offset : Int := 0
  order : SortOrder := .desc

def ReadingsRequest.at (request : ReadingsRequest) (offset : Nat) : ReadingsRequest :=
  { request with offset := offset }

/-- How PostgreSQL sorts for one request, and what happens to its three queries. -/
structure ReadingsQueries where
  sort : ∀ order, Arrangement (readingsOrder order)
  outageExists : Outage := none
  outageCount : Outage := none
  outageList : Outage := none

/-- The route's `except ValueError`; a `TypeError` passes it. -/
def queryFailed (decoder : QueryDecoder) : QueryError → RequestError
  | .typeError message => .typeError message
  | err => .httpException 422 (decoder.describe err)

namespace Api

def query (api : Api) (request : ReadingsRequest) : Except RequestError ReadingsQueryParams := do
  let _ ← validatePage request.limit request.offset
  (ReadingsQueryParams.modelValidate api.decoder request.recordedFrom request.recordedTo
    request.parameter request.limit request.offset request.order).mapError
      (queryFailed api.decoder)

def pageLimit (api : Api) (query : ReadingsQueryParams) : Nat :=
  resolvePageLimit (query.limit.map Subtype.val) api.settings.readingsDefaultLimit
    api.settings.readingsMaxLimit

theorem pageLimit_pos (api : Api) (query : ReadingsQueryParams) : 1 ≤ api.pageLimit query :=
  resolvePageLimit_pos api.settings.readingsDefaultLimit_ge api.settings.readingsMaxLimit_ge

end Api

/-- `list_readings`; its three queries find the tables in the states `db`, `db₁` and `db₂`. -/
def Routes.listReadings (api : Api) (queries : ReadingsQueries) (request : ReadingsRequest)
    (db db₁ db₂ : PgState) : Except RequestError (PaginatedResponse ReadingOut) := do
  let query ← api.query request
  ensureDeviceExists queries.outageExists request.deviceId db
  let pageLimit := api.pageLimit query
  let total ← countReadings api.pg queries.outageCount request.deviceId query.recordedFrom
    query.recordedTo query.parameter db₁
  let rows ← Backend.listReadings api.pg (queries.sort query.order) queries.outageList
    request.deviceId query.recordedFrom query.recordedTo query.parameter pageLimit
    query.offset.val db₂
  return ⟨rows.map readingToOut, pageLimit, query.offset.val, total⟩

namespace Api

theorem query_ok {api : Api} {request : ReadingsRequest} {query : ReadingsQueryParams} :
    api.query request = .ok query ↔
      nullable api.decoder.validateText request.recordedFrom = .ok query.recordedFrom ∧
        nullable api.decoder.validateText request.recordedTo = .ok query.recordedTo ∧
        query.parameter = request.parameter ∧
        nullable (validateInt 1) request.limit = .ok query.limit ∧
        validateInt 0 request.offset = .ok query.offset ∧ query.order = request.order := by
  refine Iff.trans ?_ ReadingsQueryParams.modelValidate_ok
  constructor
  · intro h
    obtain ⟨_, _, hmodel⟩ := bind_ok.mp h
    exact mapError_ok.mp hmodel
  · intro h
    obtain ⟨_, _, _, hlimit, hoffset, _⟩ := ReadingsQueryParams.modelValidate_ok.mp h
    have hpage : validatePage request.limit request.offset = .ok (query.limit, query.offset) :=
      validatePage_ok.mpr ⟨hlimit, hoffset⟩
    exact bind_ok.mpr ⟨_, hpage, mapError_ok.mpr h⟩

theorem query_at {api : Api} {request : ReadingsRequest} {query : ReadingsQueryParams}
    (h : api.query request = .ok query) (offset : Nat) :
    api.query (request.at offset) = .ok { query with offset := ⟨offset, Nat.zero_le offset⟩ } := by
  obtain ⟨hfrom, hto, hparameter, hlimit, _, horder⟩ := query_ok.mp h
  refine query_ok.mpr ⟨hfrom, hto, hparameter, hlimit, ?_, horder⟩
  simp [ReadingsRequest.at, validateInt]

theorem query_offset {api : Api} {request : ReadingsRequest} {query : ReadingsQueryParams}
    (h : api.query request = .ok query) : (query.offset.val : Int) = request.offset := by
  obtain ⟨_, _, _, _, hoffset, _⟩ := query_ok.mp h
  exact validateInt_val hoffset

def bound (api : Api) (request : ReadingsRequest) (query : ReadingsQueryParams) :
    Except SqlError ReadingsFilter :=
  bindReadingsFilter api.pg request.deviceId query.recordedFrom query.recordedTo query.parameter

def page (api : Api) (queries : ReadingsQueries) (query : ReadingsQueryParams)
    (filter : ReadingsFilter) (db₁ db₂ : PgState) : PaginatedResponse ReadingOut where
  items := (listReadingsSql (queries.sort query.order) filter (api.pageLimit query)
    query.offset.val db₂).map readingToOut
  limit := api.pageLimit query
  offset := query.offset.val
  total := (selected filter db₁).length

end Api

def ReadingsQueries.Undisturbed (queries : ReadingsQueries) : Prop :=
  queries.outageExists = none ∧ queries.outageCount = none ∧ queries.outageList = none

/-- When `list_readings` answers with a page, and with which. -/
theorem Routes.listReadings_ok {api : Api} {queries : ReadingsQueries} {request : ReadingsRequest}
    {db db₁ db₂ : PgState} {page : PaginatedResponse ReadingOut} :
    Routes.listReadings api queries request db db₁ db₂ = .ok page ↔
      queries.Undisturbed ∧ ∃ query filter, api.query request = .ok query ∧
        api.bound request query = .ok filter ∧ db.devices.lookup request.deviceId ≠ none ∧
        api.pageLimit query < 2 ^ 63 ∧ query.offset.val < 2 ^ 63 ∧
        (selected filter db₁).length < 2 ^ 63 ∧ page = api.page queries query filter db₁ db₂ := by
  simp only [Routes.listReadings, bind, bind_ok, ensureDeviceExists_ok, countReadings_ok,
    Backend.listReadings_ok, pure, Except.pure, Except.ok.injEq]
  constructor
  · rintro ⟨query, hquery, _, ⟨hexists, _, hdev⟩, total, ⟨hcount, filter, hfilter, htotal, rfl⟩,
      rows, ⟨hlist, hlimit, hoffset, filter', hfilter', rfl⟩, rfl⟩
    obtain rfl := Except.ok.inj (hfilter.symm.trans hfilter')
    exact ⟨⟨hexists, hcount, hlist⟩, query, filter, hquery, hfilter, hdev, hlimit, hoffset, htotal,
      rfl⟩
  · rintro ⟨⟨hexists, hcount, hlist⟩, query, filter, hquery, hfilter, hdev, hlimit, hoffset,
      htotal, rfl⟩
    have hnul : '\x00' ∉ request.deviceId.toList := by
      obtain ⟨_, htext, _⟩ := bind_ok.mp hfilter
      exact (bindText_ok.mp htext).1
    exact ⟨query, hquery, (), ⟨hexists, hnul, hdev⟩, _, ⟨hcount, filter, hfilter, htotal, rfl⟩, _,
      ⟨hlist, hlimit, hoffset, filter, hfilter, rfl⟩, rfl⟩

/-! ## Registered devices have readings -/

private theorem deviceSummary_eq_none {ws : List Write} : deviceSummary ws = none ↔ ws = [] := by
  rcases List.eq_nil_or_concat' ws with rfl | ⟨vs, v, rfl⟩
  · exact iff_of_true rfl rfl
  · obtain ⟨row, hrow, _⟩ := deviceSummary_append vs v
    simp [hrow]

private theorem registered_iff_has_reading {db : PgState} (h : Reachable db) (d : String) :
    (∃ row ∈ db.devices.rows, row.deviceId = d) ↔ ∃ row ∈ db.readings.rows, row.deviceId = d := by
  constructor
  · rintro ⟨row, hrow, rfl⟩
    obtain ⟨ws, rfl⟩ := h.replay
    have hlookup := Table.lookup_of_mem hrow
    rw [lookup_replay_devices] at hlookup
    obtain ⟨w, hw⟩ := List.exists_mem_of_ne_nil (ws.filter (Write.isOf row.deviceId)) (by
      intro hnil
      rw [deviceSummary_eq_none.mpr hnil] at hlookup
      cases hlookup)
    obtain ⟨reading, hreading, hd, _⟩ := recorded_iff.mpr ⟨w, hw, rfl⟩
    exact ⟨reading, hreading, hd⟩
  · rintro ⟨row, hrow, rfl⟩
    obtain ⟨device, hdevice⟩ := Option.ne_none_iff_exists'.mp (db.references row hrow)
    exact ⟨device, Table.mem_of_lookup hdevice, Table.key_of_lookup hdevice⟩

theorem mem_readings_of_reaches {db db' : PgState} (h : Reaches db db') {row : ReadingRow}
    (hrow : row ∈ db.readings.rows) : row ∈ db'.readings.rows := by
  obtain ⟨ws, rfl⟩ := h.replay
  rw [Table.mem_iff_lookup] at hrow ⊢
  rw [lookup_replay_readings, hrow, Option.some_or]

private theorem latestReadings_of_rows {collation : Collation}
    (plan : Arrangement (latestOrder collation)) {outage : Outage} {deviceId : String}
    {db db' : PgState} (hensure : ensureDeviceExists outage deviceId db = .ok ())
    (hrows : latestReadingsSql plan deviceId none db' ≠ []) :
    latestReadings plan outage none deviceId none db db' =
      .ok ((latestReadingsSql plan deviceId none db').map readingToOut) := by
  have hnul := (ensureDeviceExists_ok.mp hensure).2.1
  have hempty : (latestReadingsSql plan deviceId none db').isEmpty = false := by simpa using hrows
  unfold latestReadings
  rw [hensure, listLatestReadings_ok plan hnul]
  simp only [bind, Except.bind, hempty]
  rfl

/-- A registered device always has data: in every reachable state the same devices are registered
and have readings. So whatever is written between the two queries of `latest_readings`, once the
device check has passed, the unfiltered query finds a reading, and `reading_not_found` is not
raised. -/
theorem registered_device_has_data {db db' : PgState} (h : Reachable db) (hlater : Reaches db db') :
    (∀ d, (∃ row ∈ db.devices.rows, row.deviceId = d) ↔
      ∃ row ∈ db.readings.rows, row.deviceId = d) ∧
    ∀ (collation : Collation) (plan : Arrangement (latestOrder collation)) (outage : Outage)
      (deviceId : String), ensureDeviceExists outage deviceId db = .ok () →
        latestReadingsSql plan deviceId none db' ≠ [] ∧
        (∀ outage', latestReadings plan outage outage' deviceId none db db' ≠
          .error (readingNotFound deviceId none)) ∧
        ∃ items, items ≠ [] ∧
          latestReadings plan outage none deviceId none db db' = .ok items := by
  refine ⟨registered_iff_has_reading h, ?_⟩
  intro collation plan outage deviceId hensure
  have hregistered := Table.lookup_ne_none.mp (ensureDeviceExists_ok.mp hensure).2.2
  obtain ⟨row, hrow, rfl⟩ := (registered_iff_has_reading h deviceId).mp hregistered
  have hrows := latestReadingsSql_ne_nil plan (mem_readings_of_reaches hlater hrow)
  have hok := latestReadings_of_rows plan hensure hrows
  refine ⟨hrows, ?_, _, by simpa using hrows, hok⟩
  intro outage' heq
  cases outage' with
  | some failure =>
    unfold latestReadings at heq
    rw [hensure] at heq
    have herror : failure.error = readingNotFound row.deviceId none := Except.error.inj heq
    rcases failure.error_cases with ⟨_, message, hcase⟩ | ⟨_, exc, hcase⟩ <;>
      rw [hcase] at herror <;> cases herror
  | none =>
    rw [hok] at heq
    cases heq

theorem registered_device_has_data_sample :
    let write := Database.localStack.writeOnce
    let db := (write (otherDeviceAt 30 5) .none (write (temperatureAt 0 20) .none
      (write (temperatureAt 0 20) (.before 1 .connectionError) PgState.empty).state).state).state
    let db' := (write (temperatureAt 60 21) .none db).state
    (∀ d, (∃ row ∈ db.devices.rows, row.deviceId = d) ↔
        ∃ row ∈ db.readings.rows, row.deviceId = d) ∧
      latestReadingsSql (sortPlan .codepoints) "sensor-1" none db' ≠ [] ∧
      ∃ items, items ≠ [] ∧
        latestReadings (sortPlan .codepoints) none none "sensor-1" none db db' = .ok items := by
  intro write db db'
  have hfailed : Reachable (write (temperatureAt 0 20) (.before 1 .connectionError)
    PgState.empty).state := Relation.ReflTransGen.single ⟨.localStack, _, _, rfl⟩
  have hstored := hfailed.tail ⟨.localStack, temperatureAt 0 20, .none, rfl⟩
  have hreach : Reachable db := hstored.tail ⟨.localStack, otherDeviceAt 30 5, .none, rfl⟩
  have hlater : Reaches db db' := Relation.ReflTransGen.single ⟨.localStack, _, .none, rfl⟩
  have hdata := registered_device_has_data hreach hlater
  have hlatest := hdata.2 .codepoints (sortPlan .codepoints) none "sensor-1" rfl
  exact ⟨hdata.1, hlatest.1, hlatest.2.2⟩

end OpenWater.Backend
