import OpenWater.Backend.Devices
import OpenWater.Backend.TimeRange

/-!
# Arguments of the queries

What the routes bind to the parameters of their statements. Python's strings and integers are not
bounded, those of PostgreSQL are: the page limits are cut at their maxima, the other values are
passed on as the request has them.
-/

namespace OpenWater.Backend

open Framework Ingestion

/-- An argument of a statement, by the type of its place. -/
inductive SqlArgument where
  | text (value : Option String)
  | timestamptz (value : Option Datetime)
  | bigint (value : Nat)

/-- The driver can encode it and PostgreSQL takes it. -/
def SqlArgument.InDomain (pg : Asyncpg) : SqlArgument → Prop
  | .text value => ∀ s ∈ value, '\x00' ∉ s.toList
  | .timestamptz value => ∀ t ∈ value, pg.timestamptz t ≠ none
  | .bigint value => value < 2 ^ 63

private theorem text_inDomain {pg : Asyncpg} {s : String} :
    (SqlArgument.text (some s)).InDomain pg ↔ '\x00' ∉ s.toList := by
  simp [SqlArgument.InDomain]

/-! ## What each route binds -/

namespace Routes

/-- `list_devices`: the count binds nothing, the list its window. -/
def listDevicesArguments (settings : Settings) (queries : DevicesQueries) (limit : Option Int)
    (offset : Int) (db : PgState) : List SqlArgument :=
  match validatePage limit offset, countDevices queries.outageCount db with
  | .ok (limit, offset), .ok _ =>
    [.bigint (devicesPageLimit settings (limit.map Subtype.val)), .bigint offset.val]
  | _, _ => []

def getDeviceArguments (deviceId : String) : List SqlArgument := [.text (some deviceId)]

/-- The arguments that `_COUNT_READINGS_SQL` and `_LIST_READINGS_SQL` share. -/
def filterArguments (deviceId : String) (query : ReadingsQueryParams) : List SqlArgument :=
  [.text (some deviceId), .timestamptz query.recordedFrom, .timestamptz query.recordedTo,
    .text query.parameter]

/-- `list_readings`: each query is made when the one before has answered. -/
def listReadingsArguments (api : Api) (queries : ReadingsQueries) (request : ReadingsRequest)
    (db db₁ : PgState) : List SqlArgument :=
  match api.query request with
  | .error _ => []
  | .ok query => .text (some request.deviceId) ::
    match ensureDeviceExists queries.outageExists request.deviceId db with
    | .error _ => []
    | .ok () => filterArguments request.deviceId query ++
      match countReadings api.pg queries.outageCount request.deviceId query.recordedFrom
          query.recordedTo query.parameter db₁ with
      | .error _ => []
      | .ok _ => filterArguments request.deviceId query ++
        [.bigint (api.pageLimit query), .bigint query.offset.val]

def latestReadingsArguments (outage : Outage) (deviceId : String) (parameter : Option String)
    (db : PgState) : List SqlArgument :=
  .text (some deviceId) ::
    match ensureDeviceExists outage deviceId db with
    | .error _ => []
    | .ok () => [.text (some deviceId), .text parameter]

end Routes

/-! ## Errors of the arguments -/

private theorem fetch_sql {α : Type} {outage : Outage} {result : Except SqlError α} {err : SqlError}
    (h : fetch outage result = .error (.sql err)) : result = .error err := by
  cases outage with
  | some failure =>
    have herror := Except.error.inj h
    rcases failure.error_cases with ⟨_, message, hcase⟩ | ⟨_, exc, hcase⟩ <;>
      rw [hcase] at herror <;> cases herror
  | none =>
    cases result with
    | ok a => cases h
    | error e => exact congrArg Except.error (RequestError.sql.inj (Except.error.inj h))

section binding

variable {pg : Asyncpg} {err : SqlError}

private theorem bindText_error {s : String} (h : bindText s = .error err) :
    ¬ (SqlArgument.text (some s)).InDomain pg := by
  intro hdomain
  rw [bindText_ok.mpr ⟨hdomain s rfl, rfl⟩] at h
  cases h

private theorem bindNullableText_error {s : Option String} (h : bindNullableText s = .error err) :
    ¬ (SqlArgument.text s).InDomain pg := by
  intro hdomain
  rw [bindNullableText_ok.mpr ⟨hdomain, rfl⟩] at h
  cases h

private theorem bindNullableTimestamptz_error {t : Option Datetime}
    (h : bindNullableTimestamptz pg t = .error err) :
    ¬ (SqlArgument.timestamptz t).InDomain pg := by
  intro hdomain
  cases t with
  | none => cases h
  | some t =>
    obtain ⟨ts, hts⟩ := Option.ne_none_iff_exists'.mp (hdomain t rfl)
    rw [bindNullableTimestamptz, bindTimestamptz_ok.mpr hts] at h
    cases h

private theorem bigint_error {n : Nat} (h : bigint n = .error err) :
    ¬ (SqlArgument.bigint n).InDomain pg := by
  intro hdomain
  rw [bigint_ok.mpr ⟨hdomain, rfl⟩] at h
  cases h

private theorem bindReadingsFilter_error {deviceId : String} {query : ReadingsQueryParams}
    (h : bindReadingsFilter pg deviceId query.recordedFrom query.recordedTo query.parameter =
      .error err) : ∃ a ∈ Routes.filterArguments deviceId query, ¬ a.InDomain pg := by
  rcases bind_error.mp h with h | ⟨_, _, h⟩
  · exact ⟨_, by simp [Routes.filterArguments], bindText_error h⟩
  rcases bind_error.mp h with h | ⟨_, _, h⟩
  · exact ⟨_, by simp [Routes.filterArguments], bindNullableTimestamptz_error h⟩
  rcases bind_error.mp h with h | ⟨_, _, h⟩
  · exact ⟨.timestamptz query.recordedTo, by simp [Routes.filterArguments],
      bindNullableTimestamptz_error h⟩
  rcases bind_error.mp h with h | ⟨_, _, h⟩
  · exact ⟨.text query.parameter, by simp [Routes.filterArguments], bindNullableText_error h⟩
  cases h

end binding

private theorem countDevices_sql {outage : Outage} {db : PgState} {err : SqlError}
    (h : countDevices outage db = .error (.sql err)) : 2 ^ 63 ≤ db.devices.rows.length := by
  have hcount := fetch_sql h
  by_contra hlt
  rw [countDevicesSql, bigint_ok.mpr ⟨not_le.mp hlt, rfl⟩] at hcount
  cases hcount

private theorem countReadings_sql {pg : Asyncpg} {outage : Outage} {deviceId : String}
    {query : ReadingsQueryParams} {db : PgState} {err : SqlError}
    (h : countReadings pg outage deviceId query.recordedFrom query.recordedTo query.parameter db =
      .error (.sql err)) :
    (∃ a ∈ Routes.filterArguments deviceId query, ¬ a.InDomain pg) ∨
      2 ^ 63 ≤ db.readings.rows.length := by
  rcases bind_error.mp (fetch_sql h) with h | ⟨filter, _, h⟩
  · exact .inl (bindReadingsFilter_error h)
  · right
    by_contra hlt
    have hle : (selected filter db).length ≤ db.readings.rows.length := List.length_filter_le _ _
    rw [countReadingsSql, bigint_ok.mpr ⟨by omega, rfl⟩] at h
    cases h

private theorem ensureDeviceExists_sql (pg : Asyncpg) {outage : Outage} {deviceId : String}
    {db : PgState}
    {err : SqlError} (h : ensureDeviceExists outage deviceId db = .error (.sql err)) :
    ¬ (SqlArgument.text (some deviceId)).InDomain pg := by
  rcases bind_error.mp h with h | ⟨found, _, h⟩
  · rcases bind_error.mp (fetch_sql h) with h | ⟨_, _, h⟩
    · exact bindText_error h
    · cases h
  · cases found <;> cases h

/-! ## Errors of the routes -/

/-- The arguments of a request are in their domains, and the request fails in a statement only if a
count of its own leaves BIGINT. -/
structure ArgumentsValid {α : Type} (pg : Asyncpg) (arguments : List SqlArgument)
    (result : Except RequestError α) (overflow : Prop) : Prop where
  domain : ∀ a ∈ arguments, a.InDomain pg
  handled : ∀ err, result = .error (.sql err) → overflow

/-- Valid arguments are enough where a route fails in a statement only on one, or on a count. -/
theorem ArgumentsValid.of_domain {α : Type} {pg : Asyncpg} {arguments : List SqlArgument}
    {result : Except RequestError α} {overflow : Prop}
    (hsql : ∀ err, result = .error (.sql err) →
      (∃ a ∈ arguments, ¬ a.InDomain pg) ∨ overflow)
    (hdomain : ∀ a ∈ arguments, a.InDomain pg) :
    ArgumentsValid pg arguments result overflow := by
  refine ⟨hdomain, fun err herr => ?_⟩
  rcases hsql err herr with ⟨a, ha, hout⟩ | hoverflow
  · exact absurd (hdomain a ha) hout
  · exact hoverflow

private theorem listDevices_sql {settings : Settings} {queries : DevicesQueries}
    {limit : Option Int}
    {offset : Int} {db db' : PgState} {err : SqlError} (pg : Asyncpg)
    (h : Routes.listDevices settings queries limit offset db db' = .error (.sql err)) :
    (∃ a ∈ Routes.listDevicesArguments settings queries limit offset db, ¬ a.InDomain pg) ∨
      2 ^ 63 ≤ db.devices.rows.length := by
  rcases bind_error.mp h with h | ⟨⟨limit', offset'⟩, hpage, h⟩
  · cases validatePage_error h
  rcases bind_error.mp h with h | ⟨total, htotal, h⟩
  · exact .inr (countDevices_sql h)
  left
  have harguments : Routes.listDevicesArguments settings queries limit offset db =
      [.bigint (devicesPageLimit settings (limit'.map Subtype.val)), .bigint offset'.val] := by
    rw [Routes.listDevicesArguments, hpage, htotal]
  rw [harguments]
  rcases bind_error.mp h with h | ⟨rows, _, h⟩
  · rcases bind_error.mp (fetch_sql h) with h | ⟨_, _, h⟩
    · exact ⟨_, by simp, bigint_error h⟩
    rcases bind_error.mp h with h | ⟨_, _, h⟩
    · exact ⟨.bigint offset'.val, by simp, bigint_error h⟩
    cases h
  · rcases bind_error.mp h with h | ⟨_, _, h⟩
    · cases hmap : rows.mapM deviceToOut with
      | ok items =>
        rw [hmap] at h
        cases h
      | error errors =>
        rw [hmap] at h
        cases h
    · cases h

private theorem getDevice_sql (pg : Asyncpg) {outage : Outage} {deviceId : String} {db : PgState}
    {err : SqlError} (h : Routes.getDevice outage deviceId db = .error (.sql err)) :
    ∃ a ∈ Routes.getDeviceArguments deviceId, ¬ a.InDomain pg := by
  refine ⟨_, List.mem_singleton_self _, ?_⟩
  rcases bind_error.mp h with h | ⟨found, _, h⟩
  · rcases bind_error.mp (fetch_sql h) with h | ⟨_, _, h⟩
    · exact bindText_error h
    · cases h
  · cases found with
    | none => cases h
    | some row =>
      cases hout : deviceToOut row with
      | ok out =>
        simp only [hout] at h
        cases h
      | error errors =>
        simp only [hout] at h
        cases h

private theorem listReadingsArguments_eq {api : Api} {queries : ReadingsQueries}
    {request : ReadingsRequest} {db db₁ : PgState} {query : ReadingsQueryParams} {total : Nat}
    (hquery : api.query request = .ok query)
    (hexists : ensureDeviceExists queries.outageExists request.deviceId db = .ok ())
    (htotal : countReadings api.pg queries.outageCount request.deviceId query.recordedFrom
      query.recordedTo query.parameter db₁ = .ok total) :
    Routes.listReadingsArguments api queries request db db₁ =
      .text (some request.deviceId) :: (Routes.filterArguments request.deviceId query ++
        (Routes.filterArguments request.deviceId query ++
          [.bigint (api.pageLimit query), .bigint query.offset.val])) := by
  simp only [Routes.listReadingsArguments, hquery, hexists, htotal]

private theorem listReadings_sql {api : Api} {queries : ReadingsQueries} {request : ReadingsRequest}
    {db db₁ db₂ : PgState} {query : ReadingsQueryParams} {err : SqlError}
    (hquery : api.query request = .ok query)
    (h : Routes.listReadings api queries request db db₁ db₂ = .error (.sql err)) :
    (∃ a ∈ Routes.listReadingsArguments api queries request db db₁, ¬ a.InDomain api.pg) ∨
      2 ^ 63 ≤ db₁.readings.rows.length := by
  rcases bind_error.mp h with h | ⟨query', hquery', h⟩
  · rw [hquery] at h
    cases h
  obtain rfl := Except.ok.inj (hquery.symm.trans hquery')
  rcases bind_error.mp h with h | ⟨_, hexists, h⟩
  · refine .inl ⟨.text (some request.deviceId), ?_, ensureDeviceExists_sql api.pg h⟩
    simp [Routes.listReadingsArguments, hquery]
  rcases bind_error.mp h with h | ⟨total, htotal, h⟩
  · rcases countReadings_sql h with ⟨a, ha, hdomain⟩ | hrows
    · exact .inl ⟨a, by simp [Routes.listReadingsArguments, hquery, hexists, ha], hdomain⟩
    · exact .inr hrows
  left
  rw [listReadingsArguments_eq hquery hexists htotal]
  rcases bind_error.mp h with h | ⟨_, _, h⟩
  · rcases bind_error.mp (fetch_sql h) with h | ⟨_, _, h⟩
    · obtain ⟨a, ha, hdomain⟩ := bindReadingsFilter_error h
      exact ⟨a, by simp [ha], hdomain⟩
    rcases bind_error.mp h with h | ⟨_, _, h⟩
    · exact ⟨.bigint (api.pageLimit query), by simp, bigint_error h⟩
    rcases bind_error.mp h with h | ⟨_, _, h⟩
    · exact ⟨.bigint query.offset.val, by simp, bigint_error h⟩
    cases h
  · cases h

private theorem latestReadings_sql (pg : Asyncpg) {collation : Collation}
    {plan : Arrangement (latestOrder collation)} {outage outage' : Outage} {deviceId : String}
    {parameter : Option String} {db db' : PgState} {err : SqlError}
    (h : latestReadings plan outage outage' deviceId parameter db db' = .error (.sql err)) :
    ∃ a ∈ Routes.latestReadingsArguments outage deviceId parameter db, ¬ a.InDomain pg := by
  rw [Routes.latestReadingsArguments]
  rcases bind_error.mp h with h | ⟨_, hexists, h⟩
  · exact ⟨_, List.mem_cons_self, ensureDeviceExists_sql pg h⟩
  rw [hexists]
  rcases bind_error.mp h with h | ⟨rows, _, h⟩
  · rcases bind_error.mp (fetch_sql h) with h | ⟨_, _, h⟩
    · exact ⟨.text (some deviceId), by simp, bindText_error h⟩
    rcases bind_error.mp h with h | ⟨_, _, h⟩
    · exact ⟨.text parameter, by simp, bindNullableText_error h⟩
    cases h
  · dsimp only at h
    split at h
    · cases parameter <;> cases h
    · cases h

/-! ## Devices that can be registered -/

private theorem device_length {db : PgState} (h : Reachable db) :
    ∀ row ∈ db.devices.rows, row.deviceId.length ≤ 128 := by
  refine h.invariant (P := fun db => ∀ row ∈ db.devices.rows, row.deviceId.length ≤ 128)
    (by simp [PgState.empty, Table.empty]) ?_
  intro pg w db _ ih row hrow
  rcases Table.mem_put hrow with rfl | hrow
  · rw [registered_deviceId]
    exact w.event.deviceId.max
  · exact ih row hrow

/-- The id has a length that an event's `device_id` can have. -/
def CanRegister (deviceId : String) : Prop := 1 ≤ deviceId.length ∧ deviceId.length ≤ 128

private theorem canRegister_of_exists {outage : Outage} {deviceId : String} {db : PgState}
    (h : Reachable db) (hexists : ensureDeviceExists outage deviceId db = .ok ()) :
    CanRegister deviceId := by
  obtain ⟨row, hrow⟩ := Option.ne_none_iff_exists'.mp (ensureDeviceExists_ok.mp hexists).2.2
  have hmem := Table.mem_of_lookup hrow
  have hkey : row.deviceId = deviceId := Table.key_of_lookup hrow
  exact hkey ▸ ⟨(h.device_text row hmem).1, device_length h row hmem⟩

private theorem exists_registered {deviceId : String} (h : CanRegister deviceId)
    (hnul : '\x00' ∉ deviceId.toList) : ∃ db, Reachable db ∧
      ensureDeviceExists none deviceId db = .ok () ∧ db.readings.rows.length ≤ 1 := by
  let event : ReadingEvent := { temperatureAt 0 20 with deviceId := ⟨deviceId, h.1, h.2⟩ }
  let w : Write := ⟨event, 0, rfl⟩
  have hw : Binds .utc event w := by
    refine ⟨rfl, rfl, ?_⟩
    intro s hs
    have htexts : event.texts = [deviceId, "temperature", "C"] := rfl
    rw [htexts, List.mem_cons, List.mem_cons, List.mem_singleton] at hs
    rcases hs with rfl | rfl | rfl
    · exact hnul
    · decide
    · decide
  have hcommit : (Database.localStack.writeOnce event .none PgState.empty).state =
      w.apply PgState.empty := by
    have hrun : runScript (writeOnceScript .utc event) PgState.empty =
        .ok (w.apply PgState.empty) :=
      writeOnceScript_ok.mpr ⟨w, hw, rfl⟩
    simp only [Database.writeOnce, Database.localStack, transact, hrun]
  have hlookup : (w.apply PgState.empty).devices.lookup deviceId ≠ none := by
    have hkey : w.event.deviceId.val = deviceId := rfl
    simp [w.lookup_apply_devices, hkey]
  refine ⟨w.apply PgState.empty, ?_, ensureDeviceExists_ok.mpr ⟨rfl, hnul, hlookup⟩, le_rfl⟩
  exact Relation.ReflTransGen.single ⟨.localStack, event, .none, hcommit.symm⟩

/-! ## Which requests bind valid arguments -/

private theorem devicesPageLimit_le (settings : Settings) (limit : Option Nat) :
    devicesPageLimit settings limit ≤ settings.devicesMaxLimit := by
  have hcut : ∀ n, (if n > settings.devicesMaxLimit then settings.devicesMaxLimit else n) ≤
      settings.devicesMaxLimit := by
    intro n
    split <;> omega
  exact hcut _

private theorem listDevices_valid_iff (api : Api) (hmax : api.settings.devicesMaxLimit < 2 ^ 63)
    {limit : Option Int} {offset : Int}
    {page : Option { n : Nat // 1 ≤ n } × { n : Nat // 0 ≤ n }}
    (hpage : validatePage limit offset = .ok page) :
    (∀ queries db db', Reachable db → Reaches db db' → ArgumentsValid api.pg
        (Routes.listDevicesArguments api.settings queries limit offset db)
        (Routes.listDevices api.settings queries limit offset db db')
        (2 ^ 63 ≤ db.devices.rows.length)) ↔ offset < 2 ^ 63 := by
  have hval : (page.2.val : Int) = offset := validateInt_val (validatePage_ok.mp hpage).2
  constructor
  · intro h
    have hvalid := h { sort := .stable _ devicesOrder_trans devicesOrder_total } PgState.empty
      PgState.empty .refl .refl
    have hdomain : page.2.val < 2 ^ 63 := by
      apply hvalid.domain (.bigint page.2.val)
      rw [Routes.listDevicesArguments, hpage]
      exact List.mem_cons_of_mem _ (List.mem_singleton_self _)
    omega
  · intro hoffset queries db db' _ _
    apply ArgumentsValid.of_domain fun err => listDevices_sql api.pg
    intro a ha
    rw [Routes.listDevicesArguments, hpage] at ha
    split at ha
    · rename_i limit' offset' _ heq _
      obtain rfl := Except.ok.inj heq
      simp only [List.mem_cons, List.not_mem_nil, or_false] at ha
      rcases ha with rfl | rfl
      · exact lt_of_le_of_lt (devicesPageLimit_le _ _) hmax
      · show offset'.val < 2 ^ 63
        dsimp only at hval
        omega
    · cases ha

private theorem getDevice_valid_iff (pg : Asyncpg) (deviceId : String) :
    (∀ outage db, Reachable db → ArgumentsValid pg (Routes.getDeviceArguments deviceId)
      (Routes.getDevice outage deviceId db) False) ↔ '\x00' ∉ deviceId.toList := by
  constructor
  · intro h
    exact (h none PgState.empty .refl).domain _ (List.mem_singleton_self _) deviceId rfl
  · intro hnul outage db _
    apply ArgumentsValid.of_domain fun err herr => .inl (getDevice_sql pg herr)
    intro a ha
    obtain rfl := List.mem_singleton.mp ha
    exact text_inDomain.mpr hnul

private theorem latestReadings_valid_iff (pg : Asyncpg) (deviceId : String)
    (parameter : Option String) :
    (∀ collation (plan : Arrangement (latestOrder collation)) outage outage' db db',
      Reachable db → Reaches db db' → ArgumentsValid pg
        (Routes.latestReadingsArguments outage deviceId parameter db)
        (latestReadings plan outage outage' deviceId parameter db db') False) ↔
      '\x00' ∉ deviceId.toList ∧
        (CanRegister deviceId → ∀ p ∈ parameter, '\x00' ∉ p.toList) := by
  constructor
  · intro h
    have hnul : '\x00' ∉ deviceId.toList :=
      (h .codepoints (sortPlan .codepoints) none none PgState.empty PgState.empty .refl
        .refl).domain (.text (some deviceId)) List.mem_cons_self deviceId rfl
    refine ⟨hnul, fun hregister => ?_⟩
    obtain ⟨db, hdb, hexists, _⟩ := exists_registered hregister hnul
    have hvalid := h .codepoints (sortPlan .codepoints) none none db db hdb .refl
    apply hvalid.domain (.text parameter)
    simp [Routes.latestReadingsArguments, hexists]
  · rintro ⟨hnul, hparameter⟩ collation plan outage outage' db db' hdb _
    have hid : (SqlArgument.text (some deviceId)).InDomain pg := text_inDomain.mpr hnul
    apply ArgumentsValid.of_domain fun err herr => .inl (latestReadings_sql pg herr)
    intro a ha
    rcases List.mem_cons.mp ha with rfl | ha
    · exact hid
    · cases hexists : ensureDeviceExists outage deviceId db with
      | error err => simp [hexists] at ha
      | ok u =>
        simp only [hexists, List.mem_cons, List.not_mem_nil, or_false] at ha
        rcases ha with rfl | rfl
        · exact hid
        · exact hparameter (canRegister_of_exists hdb hexists)

private theorem filterArguments_inDomain {pg : Asyncpg} {deviceId : String}
    {query : ReadingsQueryParams} :
    (∀ a ∈ Routes.filterArguments deviceId query, a.InDomain pg) ↔
      '\x00' ∉ deviceId.toList ∧ (∀ t ∈ query.recordedFrom, pg.timestamptz t ≠ none) ∧
        (∀ t ∈ query.recordedTo, pg.timestamptz t ≠ none) ∧
        ∀ p ∈ query.parameter, '\x00' ∉ p.toList := by
  simp only [Routes.filterArguments, List.forall_mem_cons, text_inDomain, List.not_mem_nil,
    false_implies, implies_true, and_true]
  rfl

private theorem countReadings_of_inDomain {pg : Asyncpg} {deviceId : String}
    {query : ReadingsQueryParams}
    {db : PgState} (h : ∀ a ∈ Routes.filterArguments deviceId query, a.InDomain pg)
    (hrows : db.readings.rows.length < 2 ^ 63) : ∃ total,
      countReadings pg none deviceId query.recordedFrom query.recordedTo query.parameter db =
        .ok total := by
  cases hfilter : bindReadingsFilter pg deviceId query.recordedFrom query.recordedTo
      query.parameter with
  | error err =>
    obtain ⟨a, ha, hout⟩ := bindReadingsFilter_error hfilter
    exact absurd (h a ha) hout
  | ok filter =>
    have hle : (selected filter db).length ≤ db.readings.rows.length := List.length_filter_le _ _
    exact ⟨_, countReadings_ok.mpr ⟨rfl, filter, hfilter, by omega, rfl⟩⟩

private theorem listReadings_valid_iff (api : Api) (hmax : api.settings.readingsMaxLimit < 2 ^ 63)
    {request : ReadingsRequest} {query : ReadingsQueryParams}
    (hquery : api.query request = .ok query) :
    (∀ queries db db₁ db₂, Reachable db → Reaches db db₁ → Reaches db₁ db₂ →
      ArgumentsValid api.pg (Routes.listReadingsArguments api queries request db db₁)
        (Routes.listReadings api queries request db db₁ db₂)
        (2 ^ 63 ≤ db₁.readings.rows.length)) ↔
      '\x00' ∉ request.deviceId.toList ∧ (CanRegister request.deviceId →
        (∀ t ∈ query.recordedFrom, api.pg.timestamptz t ≠ none) ∧
          (∀ t ∈ query.recordedTo, api.pg.timestamptz t ≠ none) ∧
          (∀ p ∈ request.parameter, '\x00' ∉ p.toList) ∧ request.offset < 2 ^ 63) := by
  have hoffset := Api.query_offset hquery
  have hparameter : query.parameter = request.parameter := (Api.query_ok.mp hquery).2.2.1
  constructor
  · intro h
    let queries : ReadingsQueries :=
      { sort := fun o => .stable _ (readingsOrder_trans o) (readingsOrder_total o) }
    have hnul : '\x00' ∉ request.deviceId.toList := by
      apply text_inDomain.mp
      apply (h queries PgState.empty PgState.empty PgState.empty .refl .refl .refl).domain
      simp [Routes.listReadingsArguments, hquery]
    refine ⟨hnul, fun hregister => ?_⟩
    obtain ⟨db, hdb, hexists, hrows⟩ := exists_registered hregister hnul
    have hdomain := (h queries db db db hdb .refl .refl).domain
    have hfilter : ∀ a ∈ Routes.filterArguments request.deviceId query, a.InDomain api.pg := by
      intro a ha
      apply hdomain
      simp [Routes.listReadingsArguments, hquery, queries, hexists, ha]
    obtain ⟨total, htotal⟩ := countReadings_of_inDomain hfilter
      (lt_of_le_of_lt hrows (by decide))
    have hbound : query.offset.val < 2 ^ 63 := by
      apply hdomain (.bigint query.offset.val)
      rw [listReadingsArguments_eq hquery hexists htotal]
      simp
    obtain ⟨_, hfrom, hto, htext⟩ := filterArguments_inDomain.mp hfilter
    exact ⟨hfrom, hto, hparameter ▸ htext, by omega⟩
  · rintro ⟨hnul, hcond⟩ queries db db₁ db₂ hdb _ _
    apply ArgumentsValid.of_domain fun err => listReadings_sql hquery
    intro a ha
    simp only [Routes.listReadingsArguments, hquery] at ha
    rcases List.mem_cons.mp ha with rfl | ha
    · exact text_inDomain.mpr hnul
    cases hexists : ensureDeviceExists queries.outageExists request.deviceId db with
    | error err => simp [hexists] at ha
    | ok u =>
      obtain ⟨hfrom, hto, htext, hbound⟩ := hcond (canRegister_of_exists hdb hexists)
      have hfilter := filterArguments_inDomain.mpr ⟨hnul, hfrom, hto, hparameter ▸ htext⟩
      simp only [hexists] at ha
      rcases List.mem_append.mp ha with ha | ha
      · exact hfilter a ha
      split at ha
      · cases ha
      · rcases List.mem_append.mp ha with ha | ha
        · exact hfilter a ha
        · simp only [List.mem_cons, List.not_mem_nil, or_false] at ha
          rcases ha with rfl | rfl
          · exact lt_of_le_of_lt (min_le_right _ _) hmax
          · show query.offset.val < 2 ^ 63
            omega

/-- For a request that passes the validation of its route: on all reachable tables its queries are
given valid arguments, and no statement ends it in an error, exactly when its texts hold no U+0000,
its offset is a BIGINT and its datetimes can be encoded. What is bound for registered devices only
counts for ids that can be registered. -/
theorem bound_arguments_valid_iff (api : Api) (hreadings : api.settings.readingsMaxLimit < 2 ^ 63)
    (hdevices : api.settings.devicesMaxLimit < 2 ^ 63) :
    (∀ limit offset page, validatePage limit offset = .ok page →
      ((∀ queries db db', Reachable db → Reaches db db' → ArgumentsValid api.pg
          (Routes.listDevicesArguments api.settings queries limit offset db)
          (Routes.listDevices api.settings queries limit offset db db')
          (2 ^ 63 ≤ db.devices.rows.length)) ↔ offset < 2 ^ 63)) ∧
    (∀ deviceId, (∀ outage db, Reachable db → ArgumentsValid api.pg
        (Routes.getDeviceArguments deviceId) (Routes.getDevice outage deviceId db) False) ↔
      '\x00' ∉ deviceId.toList) ∧
    (∀ request query, api.query request = .ok query →
      ((∀ queries db db₁ db₂, Reachable db → Reaches db db₁ → Reaches db₁ db₂ →
          ArgumentsValid api.pg (Routes.listReadingsArguments api queries request db db₁)
            (Routes.listReadings api queries request db db₁ db₂)
            (2 ^ 63 ≤ db₁.readings.rows.length)) ↔
        '\x00' ∉ request.deviceId.toList ∧ (CanRegister request.deviceId →
          (∀ t ∈ query.recordedFrom, api.pg.timestamptz t ≠ none) ∧
            (∀ t ∈ query.recordedTo, api.pg.timestamptz t ≠ none) ∧
            (∀ p ∈ request.parameter, '\x00' ∉ p.toList) ∧ request.offset < 2 ^ 63))) ∧
    (∀ deviceId parameter, (∀ collation (plan : Arrangement (latestOrder collation)) outage outage'
        db db', Reachable db → Reaches db db' → ArgumentsValid api.pg
          (Routes.latestReadingsArguments outage deviceId parameter db)
          (latestReadings plan outage outage' deviceId parameter db db') False) ↔
      '\x00' ∉ deviceId.toList ∧
        (CanRegister deviceId → ∀ p ∈ parameter, '\x00' ∉ p.toList)) := by
  refine ⟨?_, getDevice_valid_iff api.pg, ?_, latestReadings_valid_iff api.pg⟩
  · intro limit offset page hpage
    exact listDevices_valid_iff api hdevices hpage
  · intro request query hquery
    exact listReadings_valid_iff api hreadings hquery

def filteredRequest : ReadingsRequest where
  deviceId := "sensor-1"
  recordedFrom := some "2026-05-24T00:00:00"
  parameter := some "ph"
  limit := some 10
  offset := 20

theorem bound_arguments_valid_iff_default :
    (∀ queries db db', Reachable db → Reaches db db' → ArgumentsValid twoMidnights.pg
      (Routes.listDevicesArguments twoMidnights.settings queries (some 50) 100 db)
      (Routes.listDevices twoMidnights.settings queries (some 50) 100 db db')
      (2 ^ 63 ≤ db.devices.rows.length)) ∧
    (∀ outage db, Reachable db → ArgumentsValid twoMidnights.pg
      (Routes.getDeviceArguments "sensor-1") (Routes.getDevice outage "sensor-1" db) False) ∧
    (∀ queries db db₁ db₂, Reachable db → Reaches db db₁ → Reaches db₁ db₂ →
      ArgumentsValid twoMidnights.pg
        (Routes.listReadingsArguments twoMidnights queries filteredRequest db db₁)
        (Routes.listReadings twoMidnights queries filteredRequest db db₁ db₂)
        (2 ^ 63 ≤ db₁.readings.rows.length)) ∧
    ∀ collation (plan : Arrangement (latestOrder collation)) outage outage' db db',
      Reachable db → Reaches db db' → ArgumentsValid twoMidnights.pg
        (Routes.latestReadingsArguments outage "sensor-1" (some "ph") db)
        (latestReadings plan outage outage' "sensor-1" (some "ph") db db') False := by
  obtain ⟨hlist, hdevice, hreadings, hlatest⟩ :=
    bound_arguments_valid_iff twoMidnights (by decide) (by decide)
  refine ⟨(hlist (some 50) 100 _ rfl).mpr (by decide), (hdevice "sensor-1").mpr (by decide), ?_,
    (hlatest "sensor-1" (some "ph")).mpr ⟨by decide, fun _ => by decide⟩⟩
  refine (hreadings filteredRequest _ rfl).mpr ⟨by decide, fun _ => ⟨?_, ?_, by decide, by decide⟩⟩
  · exact fun t _ => Option.some_ne_none _
  · exact fun t _ => Option.some_ne_none _

/-- An offset above BIGINT and an id with U+0000 pass the validation, and the query fails. -/
theorem valid_request_fails_in_query :
    (∃ page, validatePage none (2 ^ 63) = .ok page) ∧
    Routes.listDevices .default { sort := .stable _ devicesOrder_trans devicesOrder_total } none
      (2 ^ 63) PgState.empty PgState.empty = .error (.sql .dataError) ∧
    Routes.getDevice none "\x00" PgState.empty =
      .error (.sql (.characterNotInRepertoire "\x00")) ∧
    (¬ ∀ queries db db', Reachable db → Reaches db db' → ArgumentsValid .utc
      (Routes.listDevicesArguments .default queries none (2 ^ 63) db)
      (Routes.listDevices .default queries none (2 ^ 63) db db')
      (2 ^ 63 ≤ db.devices.rows.length)) ∧
    ¬ ∀ outage db, Reachable db → ArgumentsValid .utc (Routes.getDeviceArguments "\x00")
      (Routes.getDevice outage "\x00" db) False := by
  refine ⟨⟨_, rfl⟩, rfl, rfl, ?_, ?_⟩
  · intro h
    have hvalid := h { sort := .stable _ devicesOrder_trans devicesOrder_total } PgState.empty
      PgState.empty .refl .refl
    have hrows := hvalid.handled .dataError rfl
    revert hrows
    decide
  · intro h
    exact (h none PgState.empty .refl).handled _ rfl

end OpenWater.Backend
