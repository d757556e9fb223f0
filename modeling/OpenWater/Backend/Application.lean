import OpenWater.Backend.Routing
import OpenWater.Backend.TimeRange
import OpenWater.Framework.CutShort

/-!
# The application

`create_app` of `backend/owp_backend/main.py` with the routes of `backend/owp_backend/routes/`: from
the target of a `GET` request to the response, with the handler for `DatabaseUnavailableError`. The
environment decides which queries of the request fail, and with which exception.
-/

namespace OpenWater.Backend

open Framework Ingestion

def ping (outage : Outage) : Except RequestError Unit := fetch outage (.ok ())

/-- How PostgreSQL sorts for a request, what happens to its queries, and the tables that each of
them finds. -/
structure Environment where
  readingsSort : ∀ order, Arrangement (readingsOrder order)
  devicesSort : Arrangement devicesOrder
  collation : Collation
  latestSort : Arrangement (latestOrder collation)
  outage : Nat → Outage
  db : Nat → PgState

structure QueryString where
  recordedFrom : Option String := none
  recordedTo : Option String := none
  parameter : Option String := none
  limit : Option Int := none
  offset : Int := 0
  order : SortOrder := .desc

inductive Content where
  | health (status : String)
  | devices (page : PaginatedResponse DeviceOut)
  | device (out : DeviceOut)
  | readings (page : PaginatedResponse ReadingOut)
  | latest (items : List ReadingOut)
  | detail (text : String)
  | errors (errors : List FieldError)
  deriving DecidableEq

/-- A response before it is rendered as JSON, which has no number for NaN. -/
structure Response where
  status : Nat
  content : Content
  deriving DecidableEq

/-- The content of an error's response. Of an error without a handler Starlette says no more than
this, and the handler of `create_app` says nothing of the exception. -/
def RequestError.content : RequestError → Content
  | .httpException _ detail => .detail detail
  | .databaseUnavailable _ => .detail "Database unavailable"
  | .requestValidationError errors => .errors errors
  | .exception _ | .sql _ | .validationError _ | .typeError _ => .detail "Internal Server Error"

def RequestError.response (err : RequestError) : Response := ⟨err.statusCode, err.content⟩

def respond (answer : Except RequestError Content) : Response :=
  match answer with
  | .ok content => ⟨200, content⟩
  | .error err => err.response

def Routes.readiness (outage : Outage) : Response :=
  match ping outage with
  | .ok () => ⟨200, .health "db is ready"⟩
  | .error (.databaseUnavailable _) => ⟨503, .health "db is unavailable"⟩
  | .error err => err.response

namespace Api

variable (api : Api) (env : Environment) (q : QueryString)

def listDevices : Except RequestError Content :=
  (Routes.listDevices api.settings ⟨env.devicesSort, env.outage 0, env.outage 1⟩ q.limit q.offset
    (env.db 0) (env.db 1)).map .devices

def getDevice (env : Environment) (deviceId : String) : Except RequestError Content :=
  (Routes.getDevice (env.outage 0) deviceId (env.db 0)).map .device

def listReadings (deviceId : String) : Except RequestError Content :=
  (Routes.listReadings api ⟨env.readingsSort, env.outage 0, env.outage 1, env.outage 2⟩
    ⟨deviceId, q.recordedFrom, q.recordedTo, q.parameter, q.limit, q.offset, q.order⟩
    (env.db 0) (env.db 1) (env.db 2)).map .readings

def latestReadings (env : Environment) (q : QueryString) (deviceId : String) :
    Except RequestError Content :=
  (Backend.latestReadings env.latestSort (env.outage 0) (env.outage 1) deviceId q.parameter
    (env.db 0) (env.db 1)).map .latest

/-- A `GET` request for `target`. What no endpoint of `api_router` takes is left to FastAPI, which
has pages of its own, redirects from a trailing slash and answers 404 else. -/
def get (target : List UInt8) : Option Response :=
  match serve target with
  | some (.liveness, none) => some ⟨200, .health "backend is running"⟩
  | some (.readiness, none) => some (Routes.readiness (env.outage 0))
  | some (.listDevices, none) => some (respond (api.listDevices env q))
  | some (.getDevice, some deviceId) => some (respond (getDevice env deviceId))
  | some (.listReadings, some deviceId) => some (respond (api.listReadings env q deviceId))
  | some (.latestReadings, some deviceId) => some (respond (latestReadings env q deviceId))
  | _ => none

end Api

/-- How many queries the endpoint makes for a request that succeeds. -/
def Endpoint.queries : Endpoint → Nat
  | .liveness => 0
  | .readiness | .getDevice => 1
  | .listDevices | .latestReadings => 2
  | .listReadings => 3

def Environment.failing (env : Environment) (outage : Nat → Outage) : Environment :=
  { env with outage := outage }

def Environment.calm (env : Environment) : Environment := env.failing fun _ => none

variable {api : Api} {env : Environment} {q : QueryString} {deviceId : String}

/-! ## The queries of a request -/

private theorem fetch_asks {α : Type} (k : Nat) (result : Except SqlError α) :
    Asks QueryFailure.error k 1 fun outage => fetch (outage k) result := by
  refine ⟨1, le_refl 1, ?_, fun _ _ => rfl⟩
  intro outage
  cases hk : outage k <;> simp [fetch, hk]

private theorem ensureDeviceExists_asks (k : Nat) (deviceId : String) (db : PgState) :
    Asks QueryFailure.error k 1 fun outage => ensureDeviceExists (outage k) deviceId db :=
  .bind (fetch_asks k _) fun _ => .const _

private theorem listDevices_asks :
    Asks QueryFailure.error 0 2 fun outage => api.listDevices (env.failing outage) q := by
  unfold Api.listDevices Routes.listDevices Environment.failing
  refine .map (.bind (c := 0) (d := 2) (.const _) fun page => ?_) _
  dsimp only
  refine .bind (c := 1) (d := 1) (fetch_asks 0 _) fun total => ?_
  exact .bind (c := 1) (d := 0) (fetch_asks 1 _) fun rows => .const _

private theorem getDevice_asks :
    Asks QueryFailure.error 0 1 fun outage => Api.getDevice (env.failing outage) deviceId := by
  unfold Api.getDevice Routes.getDevice Environment.failing
  dsimp only
  exact .map (.bind (c := 1) (d := 0) (fetch_asks 0 _) fun _ => .const _) _

private theorem listReadings_asks :
    Asks QueryFailure.error 0 3 fun outage =>
      api.listReadings (env.failing outage) q deviceId := by
  unfold Api.listReadings Routes.listReadings Environment.failing
  dsimp only
  refine .map (.bind (c := 0) (d := 3) (.const _) fun query => ?_) _
  refine .bind (c := 1) (d := 2) (ensureDeviceExists_asks 0 _ _) fun _ => ?_
  refine .bind (c := 1) (d := 1) (fetch_asks 1 _) fun total => ?_
  exact .bind (c := 1) (d := 0) (fetch_asks 2 _) fun rows => .const _

private theorem latestReadings_asks :
    Asks QueryFailure.error 0 2 fun outage =>
      Api.latestReadings (env.failing outage) q deviceId := by
  unfold Api.latestReadings Backend.latestReadings Environment.failing
  dsimp only
  refine .map (.bind (c := 1) (d := 1) (ensureDeviceExists_asks 0 _ _) fun _ => ?_) _
  exact .bind (c := 1) (d := 0) (fetch_asks 1 _) fun rows => .const _

/-! ## Without failures -/

/-- None of the errors that a request meets without failing queries. -/
def RequestError.Unforeseen (err : RequestError) : Prop := err.statusCode ∉ [404, 422, 500]

private theorem mapError_avoids {ε α : Type} {f : ε → RequestError}
    (h : ∀ e, (f e).statusCode ∈ [404, 422, 500]) (x : Except ε α) :
    Avoids RequestError.Unforeseen (x.mapError f) := by
  intro e he hunforeseen
  cases x with
  | ok a => cases he
  | error err =>
    obtain rfl := Except.error.inj he
    exact hunforeseen (h err)

private theorem notFound_avoids {α : Type} (detail : String) :
    Avoids RequestError.Unforeseen
      (.error (.httpException 404 detail) : Except RequestError α) := by
  intro e he hunforeseen
  obtain rfl := Except.error.inj he
  exact hunforeseen (by simp [RequestError.statusCode])

private theorem fetch_avoids {α : Type} (result : Except SqlError α) :
    Avoids RequestError.Unforeseen (fetch none result) :=
  mapError_avoids (fun _ => by simp [RequestError.statusCode]) _

private theorem validatePage_avoids (limit : Option Int) (offset : Int) :
    Avoids RequestError.Unforeseen (validatePage limit offset) := by
  intro e he hunforeseen
  exact hunforeseen (by simp [validatePage_error he])

private theorem query_avoids (api : Api) (request : ReadingsRequest) :
    Avoids RequestError.Unforeseen (api.query request) := by
  refine .bind (validatePage_avoids _ _) fun _ => mapError_avoids ?_ _
  intro e
  cases e <;> simp [queryFailed, RequestError.statusCode]

private theorem ensureDeviceExists_avoids (deviceId : String) (db : PgState) :
    Avoids RequestError.Unforeseen (ensureDeviceExists none deviceId db) := by
  refine .bind (fetch_avoids _) fun found => ?_
  cases found with
  | false => exact notFound_avoids _
  | true => exact .ok ()

private theorem deviceToOut_avoids (row : DeviceRow) :
    Avoids RequestError.Unforeseen ((deviceToOut row).mapError .validationError) :=
  mapError_avoids (fun _ => by simp [RequestError.statusCode]) _

private theorem listDevices_avoids : Avoids RequestError.Unforeseen
    (api.listDevices env.calm q) := by
  refine .map (.bind (validatePage_avoids _ _) fun page => ?_) _
  refine .bind (fetch_avoids _) fun total => .bind (fetch_avoids _) fun rows => ?_
  exact .bind (mapError_avoids (fun _ => by simp [RequestError.statusCode]) _) fun items => .ok _

private theorem getDevice_avoids :
    Avoids RequestError.Unforeseen (Api.getDevice env.calm deviceId) := by
  refine .map (.bind (fetch_avoids _) fun found => ?_) _
  cases found with
  | none => exact notFound_avoids _
  | some row => exact deviceToOut_avoids row

private theorem listReadings_avoids :
    Avoids RequestError.Unforeseen (api.listReadings env.calm q deviceId) := by
  refine .map (.bind (query_avoids _ _) fun query => ?_) _
  refine .bind (ensureDeviceExists_avoids _ _) fun _ => ?_
  exact .bind (fetch_avoids _) fun total => .bind (fetch_avoids _) fun rows => .ok _

private theorem latestReadings_avoids :
    Avoids RequestError.Unforeseen (Api.latestReadings env.calm q deviceId) := by
  refine .map (.bind (ensureDeviceExists_avoids _ _) fun _ => ?_) _
  refine .bind (fetch_avoids _) fun rows => ?_
  cases rows with
  | nil => cases q.parameter <;> exact notFound_avoids _
  | cons row rows => exact .ok _

/-! ## The response -/

/-- The answer to a request that makes at most `count` queries. Without failures its status is one
of four; with failures the first of its queries that fails decides the answer. -/
def Decided (count : Nat) (answer : (Nat → Outage) → Response) : Prop :=
  (answer fun _ => none).status ∈ [200, 404, 422, 500] ∧
    ∃ n ≤ count, ∃ content : Bool → Content,
      ((answer fun _ => none).status = 200 → n = count) ∧
      ∀ outage, answer outage = match (List.range n).findSome? outage with
        | none => answer fun _ => none
        | some failure =>
          ⟨if failure.unavailable then 503 else 500, content failure.unavailable⟩

def failureContent (unavailable : Bool) : Content :=
  .detail (if unavailable then "Database unavailable" else "Internal Server Error")

private theorem respond_failure (failure : QueryFailure) :
    respond (.error failure.error) =
      ⟨if failure.unavailable then 503 else 500, failureContent failure.unavailable⟩ := by
  rcases failure.error_cases with ⟨hun, message, hcase⟩ | ⟨hun, exc, hcase⟩ <;>
    rw [hcase, hun] <;> rfl

private theorem respond_avoids {y : Except RequestError Content}
    (h : Avoids RequestError.Unforeseen y) :
    (respond y).status ∈ [200, 404, 422, 500] ∧
      ((respond y).status = 200 → ∃ content, y = .ok content) := by
  cases y with
  | ok content => exact ⟨by simp [respond], fun _ => ⟨content, rfl⟩⟩
  | error err =>
    have hmem : (respond (.error err)).status ∈ [404, 422, 500] := Classical.not_not.mp (h err rfl)
    refine ⟨List.mem_cons_of_mem 200 hmem, ?_⟩
    intro hstatus
    rw [hstatus] at hmem
    simp at hmem

private theorem respond_decided {count : Nat} {x : (Nat → Outage) → Except RequestError Content}
    (hasks : Asks QueryFailure.error 0 count x)
    (hcalm : Avoids RequestError.Unforeseen (x fun _ => none)) :
    Decided count fun outage => respond (x outage) := by
  obtain ⟨n, hn, hcut, hall⟩ := hasks
  obtain ⟨hstatus, hok⟩ := respond_avoids hcalm
  refine ⟨hstatus, n, hn, failureContent, ?_, ?_⟩
  · intro h200
    obtain ⟨content, hcontent⟩ := hok h200
    exact hall content hcontent
  · intro outage
    simp only [hcut outage, ← List.range_eq_range']
    cases hfirst : (List.range n).findSome? outage with
    | none => rfl
    | some failure => exact respond_failure failure

private theorem readiness_decided : Decided 1 fun outage => Routes.readiness (outage 0) := by
  refine ⟨by decide, 1, le_refl 1, fun unavailable =>
    if unavailable then .health "db is unavailable" else .detail "Internal Server Error",
    fun _ => rfl, ?_⟩
  intro outage
  have hfirst : (List.range 1).findSome? outage = outage 0 := by simp [List.range_succ]
  rw [hfirst]
  cases hzero : outage 0 with
  | none => simp only [hzero]
  | some failure =>
    simp only [hzero, Routes.readiness, ping, fetch]
    rcases failure.error_cases with ⟨hun, message, hcase⟩ | ⟨hun, exc, hcase⟩ <;>
      rw [hcase, hun] <;> rfl

private theorem liveness_decided : Decided 0 fun _ => ⟨200, .health "backend is running"⟩ :=
  ⟨by simp, 0, le_refl 0, failureContent, fun _ => rfl, fun _ => rfl⟩

private theorem get_decided {target : List UInt8} {response : Response}
    (h : api.get env.calm q target = some response) :
    ∃ endpoint deviceId answer, serve target = some (endpoint, deviceId) ∧
      Decided endpoint.queries answer ∧
      ∀ outage, api.get (env.failing outage) q target = some (answer outage) := by
  unfold Api.get at h ⊢
  split at h
  · exact ⟨.liveness, none, _, ‹_›, liveness_decided, fun _ => rfl⟩
  · exact ⟨.readiness, none, _, ‹_›, readiness_decided, fun _ => rfl⟩
  · exact ⟨.listDevices, none, _, ‹_›, respond_decided listDevices_asks listDevices_avoids,
      fun _ => rfl⟩
  · exact ⟨.getDevice, _, _, ‹_›, respond_decided getDevice_asks getDevice_avoids, fun _ => rfl⟩
  · exact ⟨.listReadings, _, _, ‹_›, respond_decided listReadings_asks listReadings_avoids,
      fun _ => rfl⟩
  · exact ⟨.latestReadings, _, _, ‹_›, respond_decided latestReadings_asks latestReadings_avoids,
      fun _ => rfl⟩
  · cases h

/-- Failing queries cut a request short and do nothing else. Without failures an endpoint answers
200, 404, 422 or 500. Whichever queries fail, and with whichever exceptions, the answer is that one
if none of the queries the request makes does; else it is the error of the first that does, 503 if
the `except` clause names its exception and 500 if not, and shows nothing else of the exception. A
request that succeeds makes all the queries of its endpoint. -/
theorem failed_queries_cut_short (api : Api) (env : Environment) (q : QueryString)
    (target : List UInt8) :
    (∀ response ∈ api.get env.calm q target, response.status ∈ [200, 404, 422, 500]) ∧
      ∃ (n : Nat) (content : Bool → Content),
        (∀ response ∈ api.get env.calm q target, ∃ endpoint deviceId,
          serve target = some (endpoint, deviceId) ∧ n ≤ endpoint.queries ∧
            (response.status = 200 → n = endpoint.queries)) ∧
        ∀ outage, api.get (env.failing outage) q target =
          match (List.range n).findSome? outage with
          | none => api.get env.calm q target
          | some failure =>
            some ⟨if failure.unavailable then 503 else 500, content failure.unavailable⟩ := by
  cases hcalm : api.get env.calm q target with
  | none =>
    refine ⟨by simp, 0, failureContent, by simp, ?_⟩
    intro outage
    unfold Api.get at hcalm ⊢
    split at hcalm <;> first | rfl | cases hcalm
  | some response =>
    obtain ⟨endpoint, deviceId, answer, hserve, ⟨hstatus, n, hn, content, h200, hanswer⟩, hget⟩ :=
      get_decided hcalm
    have hresponse : answer (fun _ => none) = response :=
      Option.some.inj ((hget fun _ => none).symm.trans hcalm)
    rw [hresponse] at hstatus h200
    simp only [Option.mem_some_iff, forall_eq']
    refine ⟨hstatus, n, content, ⟨endpoint, deviceId, hserve, hn, h200⟩, ?_⟩
    intro outage
    rw [hget, hanswer, hresponse]
    cases (List.range n).findSome? outage <;> rfl

end OpenWater.Backend
