import OpenWater.Backend.Readings

/-!
# The time range of a query

What `list_readings` answers to the bounds `from` and `to`. Each is parsed on its own, so one can
be naive and the other aware; Python then refuses to compare them, with an error that neither
pydantic nor the route turns into a 422.
-/

namespace OpenWater.Backend

open Framework Ingestion

/-- The status code of a failed request. FastAPI answers its own validation with 422, and an error
that has no handler with 500. -/
def RequestError.statusCode : RequestError → Nat
  | .httpException statusCode _ => statusCode
  | .databaseUnavailable _ => 503
  | .requestValidationError _ => 422
  | .exception _ | .sql _ | .validationError _ | .typeError _ => 500

/-- The route answers 422, whatever is stored and whatever happens to its queries. -/
def Answers422 (api : Api) (request : ReadingsRequest) : Prop :=
  ∀ queries db db₁ db₂, ∃ err,
    Routes.listReadings api queries request db db₁ db₂ = .error err ∧ err.statusCode = 422

def Unparsable (decoder : QueryDecoder) (value : Option String) : Prop :=
  value.isSome = true ∧ value.bind decoder.datetime = none

/-- The validation of the request answers it or hands a query on whose range is in order; and it
answers when a bound does not parse or the range is not in order. -/
structure TimeRangeChecked (api : Api) (request : ReadingsRequest) : Prop where
  total : Answers422 api request ∨ ∃ query, api.query request = .ok query ∧
    ∀ f ∈ query.recordedFrom, ∀ t ∈ query.recordedTo, datetimeGt f t = .ok false
  unparsable : Unparsable api.decoder request.recordedFrom ∨
    Unparsable api.decoder request.recordedTo → Answers422 api request
  after : ∀ f ∈ request.recordedFrom.bind api.decoder.datetime,
    ∀ t ∈ request.recordedTo.bind api.decoder.datetime,
      datetimeGt f t = .ok true → Answers422 api request

/-- The other parameters are in order, both bounds parse, and one of the two only has an offset. -/
structure MixedRange (api : Api) (request : ReadingsRequest) : Prop where
  limit : ∀ limit ∈ request.limit, 1 ≤ limit
  offset : 0 ≤ request.offset
  bounds : ∃ f ∈ request.recordedFrom.bind api.decoder.datetime,
    ∃ t ∈ request.recordedTo.bind api.decoder.datetime,
      f.utcoffset.isSome ≠ t.utcoffset.isSome

variable {api : Api} {request : ReadingsRequest}

private theorem datetimeGt_mixed {f t : Datetime} (h : f.utcoffset.isSome ≠ t.utcoffset.isSome) :
    ∃ message, datetimeGt f t = .error message := by
  unfold datetimeGt
  cases hf : f.utcoffset <;> cases ht : t.utcoffset
  · simp [hf, ht] at h
  · exact ⟨_, rfl⟩
  · exact ⟨_, rfl⟩
  · simp [hf, ht] at h

private theorem datetimeGt_same {f t : Datetime} (h : f.utcoffset.isSome = t.utcoffset.isSome) :
    ∃ after, datetimeGt f t = .ok after := by
  unfold datetimeGt
  cases hf : f.utcoffset <;> cases ht : t.utcoffset
  · exact ⟨_, rfl⟩
  · simp [hf, ht] at h
  · simp [hf, ht] at h
  · exact ⟨_, rfl⟩

private theorem validateTimeRange_ok {f t : Datetime}
    (h : validateTimeRange (some f) (some t) = .ok ()) :
    datetimeGt f t = .ok false := by
  simp only [validateTimeRange] at h
  split at h
  · cases h
  · cases h
  · assumption

private theorem validateTimeRange_error {recordedFrom recordedTo : Option Datetime}
    {err : QueryError}
    (h : validateTimeRange recordedFrom recordedTo = .error err) :
    (∃ message, err = .valueError message) ∨ ∃ f ∈ recordedFrom, ∃ t ∈ recordedTo,
      f.utcoffset.isSome ≠ t.utcoffset.isSome := by
  cases recordedFrom with
  | none => cases h
  | some f =>
    cases recordedTo with
    | none => cases h
    | some t =>
      by_cases hsame : f.utcoffset.isSome = t.utcoffset.isSome
      · obtain ⟨after, hgt⟩ := datetimeGt_same hsame
        simp only [validateTimeRange, hgt] at h
        cases after
        · cases h
        · exact .inl ⟨_, (Except.error.inj h).symm⟩
      · exact .inr ⟨f, rfl, t, rfl, hsame⟩

private theorem answers422_of_error {err : RequestError} (h : api.query request = .error err)
    (hstatus : err.statusCode = 422) : Answers422 api request := by
  intro queries db db₁ db₂
  refine ⟨err, ?_, hstatus⟩
  rw [Routes.listReadings, h]
  rfl

private theorem not_checked_of_typeError {message : String}
    (h : api.query request = .error (.typeError message)) : ¬ TimeRangeChecked api request := by
  intro hchecked
  rcases hchecked.total with hanswers | ⟨query, hok, _⟩
  · obtain ⟨err, herr, hstatus⟩ := hanswers
      { sort := fun o => .stable _ (readingsOrder_trans o) (readingsOrder_total o) }
      PgState.empty PgState.empty PgState.empty
    rw [Routes.listReadings, h] at herr
    obtain rfl := Except.error.inj herr
    cases hstatus
  · rw [h] at hok
    cases hok

private theorem nullable_validateText (decoder : QueryDecoder) (value : Option String) :
    nullable decoder.validateText value = .ok (value.bind decoder.datetime) ∨
      Unparsable decoder value ∧ ∃ errors, nullable decoder.validateText value = .error errors := by
  cases value with
  | none => exact .inl rfl
  | some text =>
    simp only [Unparsable, nullable, QueryDecoder.validateText, Option.bind_some]
    cases decoder.datetime text with
    | none => exact .inr ⟨⟨rfl, rfl⟩, _, rfl⟩
    | some t => exact .inl rfl

private theorem nullable_of_parsable {decoder : QueryDecoder} {value : Option String}
    (h : ¬ Unparsable decoder value) :
    nullable decoder.validateText value = .ok (value.bind decoder.datetime) :=
  (nullable_validateText decoder value).resolve_right fun hun => h hun.1

private theorem nullable_of_unparsable {decoder : QueryDecoder} {value : Option String}
    (h : Unparsable decoder value) (t : Option Datetime) :
    nullable decoder.validateText value ≠ .ok t := by
  obtain ⟨hsome, hnone⟩ := h
  obtain ⟨text, rfl⟩ := Option.isSome_iff_exists.mp hsome
  simp only [Option.bind_some] at hnone
  simp [nullable, QueryDecoder.validateText, hnone, Except.map]

theorem validatePage_error {limit : Option Int} {offset : Int} {err : RequestError}
    (h : validatePage limit offset = .error err) : err.statusCode = 422 := by
  unfold validatePage at h
  split at h
  · cases h
  · obtain rfl := Except.error.inj h
    rfl

private theorem validatePage_of {limit : Option Int} {offset : Int} (hlimit : ∀ l ∈ limit, 1 ≤ l)
    (hoffset : 0 ≤ offset) : ∃ page, validatePage limit offset = .ok page := by
  have hpage : ∃ l, nullable (validateInt 1) limit = .ok l := by
    cases limit with
    | none => exact ⟨none, rfl⟩
    | some l =>
      refine ⟨some ⟨l.toNat, ?_⟩, ?_⟩
      · have hl := hlimit l rfl
        omega
      · have hl : validateInt 1 l = .ok ⟨l.toNat, _⟩ := dif_pos (hlimit l rfl)
        rw [nullable, hl]
        rfl
  obtain ⟨l, hl⟩ := hpage
  have ho : validateInt 0 offset = .ok ⟨offset.toNat, Nat.zero_le _⟩ := dif_pos hoffset
  exact ⟨(l, ⟨offset.toNat, Nat.zero_le _⟩), validatePage_ok.mpr ⟨hl, ho⟩⟩

private theorem limit_of_validatePage {limit : Option Int} {offset : Int}
    {page : Option { n : Nat // 1 ≤ n } × { n : Nat // 0 ≤ n }}
    (h : validatePage limit offset = .ok page) : (∀ l ∈ limit, 1 ≤ l) ∧ 0 ≤ offset := by
  obtain ⟨hlimit, hoffset⟩ := validatePage_ok.mp h
  constructor
  · rintro l rfl
    simp only [nullable] at hlimit
    cases hl : validateInt 1 l with
    | ok n =>
      have hval := validateInt_val hl
      have hpos := n.property
      omega
    | error e =>
      rw [hl] at hlimit
      cases hlimit
  · have hval := validateInt_val hoffset
    omega

section modelValidate

variable {decoder : QueryDecoder} {recordedFrom recordedTo : Option String} {limit : Option Int}
  {offset : Int} (parameter : Option String) (order : SortOrder)

private theorem modelValidate_unparsable (limit : Option Int) (offset : Int)
    (h : Unparsable decoder recordedFrom ∨ Unparsable decoder recordedTo) :
    ∃ errors, ReadingsQueryParams.modelValidate decoder recordedFrom recordedTo parameter limit
      offset order = .error (.fields errors) := by
  unfold ReadingsQueryParams.modelValidate
  split
  · rename_i hfrom hto _ _
    rcases h with h | h
    · exact absurd (mapError_ok.mp hfrom) (nullable_of_unparsable h _)
    · exact absurd (mapError_ok.mp hto) (nullable_of_unparsable h _)
  · exact ⟨_, rfl⟩

private theorem modelValidate_range {l : Option { n : Nat // 1 ≤ n }} {o : { n : Nat // 0 ≤ n }}
    (hfrom : ¬ Unparsable decoder recordedFrom) (hto : ¬ Unparsable decoder recordedTo)
    (hlimit : nullable (validateInt 1) limit = .ok l) (hoffset : validateInt 0 offset = .ok o) :
    match validateTimeRange (recordedFrom.bind decoder.datetime)
        (recordedTo.bind decoder.datetime) with
    | .error err => ReadingsQueryParams.modelValidate decoder recordedFrom recordedTo parameter
        limit offset order = .error err
    | .ok () => ∃ query, ReadingsQueryParams.modelValidate decoder recordedFrom recordedTo
        parameter limit offset order = .ok query := by
  have hf := nullable_of_parsable hfrom
  have ht := nullable_of_parsable hto
  split
  · rename_i err herr
    unfold ReadingsQueryParams.modelValidate
    simp only [hf, ht, hlimit, hoffset, atField, Except.mapError]
    split
    · rename_i hok
      rw [herr] at hok
      cases hok
    · rename_i err' herr'
      rw [herr] at herr'
      exact congrArg Except.error (Except.error.inj herr').symm
  · rename_i hok
    exact ⟨⟨_, _, parameter, l, o, order, hok⟩,
      ReadingsQueryParams.modelValidate_ok.mpr ⟨hf, ht, rfl, hlimit, hoffset, rfl⟩⟩

end modelValidate

section query

variable {page : Option { n : Nat // 1 ≤ n } × { n : Nat // 0 ≤ n }}

private theorem query_of_page (h : validatePage request.limit request.offset = .ok page) :
    api.query request = (ReadingsQueryParams.modelValidate api.decoder request.recordedFrom
      request.recordedTo request.parameter request.limit request.offset request.order).mapError
        (queryFailed api.decoder) := by
  rw [Api.query, h]
  rfl

private theorem answers422_of_page {err : RequestError}
    (h : validatePage request.limit request.offset = .error err) : Answers422 api request := by
  have hquery : api.query request = .error err := by
    rw [Api.query, h]
    rfl
  exact answers422_of_error hquery (validatePage_error h)

private theorem answers422_of_unparsable (h : Unparsable api.decoder request.recordedFrom ∨
    Unparsable api.decoder request.recordedTo) : Answers422 api request := by
  cases hpage : validatePage request.limit request.offset with
  | error err => exact answers422_of_page hpage
  | ok page =>
    obtain ⟨errors, herrors⟩ := modelValidate_unparsable request.parameter request.order
      request.limit request.offset h
    have hquery : api.query request =
        .error (.httpException 422 (api.decoder.describe (.fields errors))) := by
      rw [query_of_page hpage, herrors]
      rfl
    exact answers422_of_error hquery rfl

private theorem query_of_range (hpage : validatePage request.limit request.offset = .ok page)
    (hfrom : ¬ Unparsable api.decoder request.recordedFrom)
    (hto : ¬ Unparsable api.decoder request.recordedTo) :
    match validateTimeRange (request.recordedFrom.bind api.decoder.datetime)
        (request.recordedTo.bind api.decoder.datetime) with
    | .error err => api.query request = .error (queryFailed api.decoder err)
    | .ok () => ∃ query, api.query request = .ok query := by
  obtain ⟨hlimit, hoffset⟩ := validatePage_ok.mp hpage
  have hrange := modelValidate_range request.parameter request.order hfrom hto hlimit hoffset
  split
  · rename_i err herr
    rw [herr] at hrange
    rw [query_of_page hpage, hrange]
    rfl
  · rename_i hok
    rw [hok] at hrange
    obtain ⟨query, hquery⟩ := hrange
    exact ⟨query, by rw [query_of_page hpage, hquery]; rfl⟩

end query

private theorem query_mixed (h : MixedRange api request) :
    ∃ message, api.query request = .error (.typeError message) := by
  obtain ⟨f, hf, t, ht, hne⟩ := h.bounds
  obtain ⟨page, hpage⟩ := validatePage_of h.limit h.offset
  have hparsable : ∀ {value : Option String} {d : Datetime},
      d ∈ value.bind api.decoder.datetime → ¬ Unparsable api.decoder value := by
    intro value d hd hun
    rw [hun.2] at hd
    cases hd
  obtain ⟨message, hgt⟩ := datetimeGt_mixed hne
  have hrange := query_of_range hpage (hparsable hf) (hparsable ht)
  rw [hf, ht] at hrange
  simp only [validateTimeRange, hgt] at hrange
  exact ⟨message, hrange⟩

private theorem timeRangeChecked_of_not_mixed (h : ¬ MixedRange api request) :
    TimeRangeChecked api request := by
  cases hpage : validatePage request.limit request.offset with
  | error err =>
    have hanswers : Answers422 api request := answers422_of_page hpage
    exact ⟨.inl hanswers, fun _ => hanswers, fun _ _ _ _ _ => hanswers⟩
  | ok page =>
    by_cases hun : Unparsable api.decoder request.recordedFrom ∨
      Unparsable api.decoder request.recordedTo
    · have hanswers := answers422_of_unparsable hun
      exact ⟨.inl hanswers, fun _ => hanswers, fun _ _ _ _ _ => hanswers⟩
    · obtain ⟨hfrom, hto⟩ := not_or.mp hun
      have hrange := query_of_range hpage hfrom hto
      obtain ⟨hlimit, hoffset⟩ := limit_of_validatePage hpage
      refine ⟨?_, fun h => absurd h hun, ?_⟩
      · cases hvalid : validateTimeRange (request.recordedFrom.bind api.decoder.datetime)
            (request.recordedTo.bind api.decoder.datetime) with
        | error err =>
          rw [hvalid] at hrange
          rcases validateTimeRange_error hvalid with ⟨message, rfl⟩ | hbounds
          · exact .inl (answers422_of_error hrange rfl)
          · exact absurd ⟨hlimit, hoffset, hbounds⟩ h
        | ok u =>
          rw [hvalid] at hrange
          obtain ⟨query, hquery⟩ := hrange
          refine .inr ⟨query, hquery, ?_⟩
          intro f hf t ht
          have hquery := query.validTimeRange
          rw [hf, ht] at hquery
          exact validateTimeRange_ok hquery
      · intro f hf t ht hgt
        rw [hf, ht] at hrange
        simp only [validateTimeRange, hgt] at hrange
        exact answers422_of_error hrange rfl

/-- The time-range check answers 422 or hands on a range in order, exactly when it is not given a
naive and an aware bound to compare. -/
theorem time_range_total_iff (api : Api) (request : ReadingsRequest) :
    TimeRangeChecked api request ↔ ¬ MixedRange api request := by
  constructor
  · intro h hmixed
    obtain ⟨message, hquery⟩ := query_mixed hmixed
    exact not_checked_of_typeError hquery h
  · exact timeRangeChecked_of_not_mixed

def twoMidnights : Api where
  settings := .default
  decoder := ⟨fun text =>
    if text = "2026-05-24T00:00:00" then some ⟨1779580800000000, none⟩
    else if text = "2026-05-25T00:00:00Z" then some ⟨1779667200000000, some 0⟩
    else none, fun _ => .datetimeFromDateParsing,
    fun _ => "1 validation error for ReadingsQueryParams"⟩
  pg := .utc

/-- The later bound has an offset, the earlier one has not: the route raises. -/
theorem time_range_type_error :
    (∀ queries db db₁ db₂, Routes.listReadings twoMidnights queries
      { deviceId := "sensor-1", recordedFrom := some "2026-05-24T00:00:00",
        recordedTo := some "2026-05-25T00:00:00Z" } db db₁ db₂ =
        .error (.typeError "can't compare offset-naive and offset-aware datetimes")) ∧
    ¬ TimeRangeChecked twoMidnights
      { deviceId := "sensor-1", recordedFrom := some "2026-05-24T00:00:00",
        recordedTo := some "2026-05-25T00:00:00Z" } := by
  constructor
  · intro queries db db₁ db₂
    rfl
  · exact not_checked_of_typeError rfl

end OpenWater.Backend
