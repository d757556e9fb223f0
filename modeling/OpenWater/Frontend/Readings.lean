import OpenWater.Backend.Pages

/-!
# Readings of the mock API

The readings that `frontend/src/api/readings.ts` gives the dashboard until it calls the backend, and
the series of `frontend/src/data/mock/readings.ts` they come from. An instant is in milliseconds, as
in JavaScript's `Date`, and `date` is `new Date(text).getTime()`, without a value where that is
`NaN`.
-/

namespace OpenWater.Frontend

open Framework Ingestion Backend

structure Reading where
  deviceId : String
  recordedAt : Int
  parameter : String
  value : Double
  unit : String
  deriving DecidableEq

structure Paginated (α : Type*) where
  items : List α
  limit : Nat
  offset : Nat
  total : Nat
  deriving DecidableEq

structure ReadingsQuery where
  recordedFrom : Option String := none
  recordedTo : Option String := none
  parameter : Option String := none
  limit : Option Nat := none
  offset : Option Nat := none
  order : Option SortOrder := none

def dayMs : Int := 24 * 60 * 60 * 1000

/-! ## The mock series -/

def mockParameters : List (String × String) :=
  [("ph", "pH"), ("temperature", "°C"), ("turbidity", "NTU"), ("flow_rate", "L/min")]

/-- The readings of one device and parameter, the oldest first. -/
structure Series (deviceId parameter : String) where
  readings : List Reading
  own : ∀ reading ∈ readings, reading.deviceId = deviceId ∧ reading.parameter = parameter
  ascending : readings.Pairwise fun r s => r.recordedAt ≤ s.recordedAt

/-- The map `mockSeriesByDevice`, as `getDeviceSeries` fills it. -/
abbrev MockData := ∀ deviceId parameter, Series deviceId parameter

section buildSeries

variable (noon : Int → Int) (clock : Nat → Int) (seededValue : String → String → Nat → Double)
  (deviceId parameter : String)

def mockReading (unit : String) (day : Nat) : Reading :=
  ⟨deviceId, noon (clock day - day * dayMs), parameter, seededValue deviceId parameter day, unit⟩

/-- The loop of `buildSeries` from `days` down to 0. Each turn reads the clock, and `noon` is
`setHours(12, 0, 0, 0)`. -/
def buildSeries : Nat → List Reading
  | 0 => (mockParameters.lookup parameter).toList.map fun unit =>
      mockReading noon clock seededValue deviceId parameter unit 0
  | days + 1 => ((mockParameters.lookup parameter).toList.map fun unit =>
      mockReading noon clock seededValue deviceId parameter unit (days + 1)) ++ buildSeries days

variable {noon clock seededValue deviceId parameter}

private theorem mem_buildSeries {days : Nat} {reading : Reading}
    (h : reading ∈ buildSeries noon clock seededValue deviceId parameter days) :
    ∃ unit, ∃ day ≤ days,
      reading = mockReading noon clock seededValue deviceId parameter unit day := by
  induction days with
  | zero =>
    obtain ⟨unit, _, rfl⟩ := List.mem_map.mp h
    exact ⟨unit, 0, le_rfl, rfl⟩
  | succ days ih =>
    rcases List.mem_append.mp h with hnew | hold
    · obtain ⟨unit, _, rfl⟩ := List.mem_map.mp hnew
      exact ⟨unit, days + 1, le_rfl, rfl⟩
    · obtain ⟨unit, day, hday, rfl⟩ := ih hold
      exact ⟨unit, day, by omega, rfl⟩

private theorem noon_le (hnoon : ∀ s t, s ≤ t → noon s ≤ noon t)
    (hclock : ∀ day, clock (day + 1) ≤ clock day + dayMs) {day days : Nat} (h : day ≤ days) :
    noon (clock days - days * dayMs) ≤ noon (clock day - day * dayMs) := by
  apply hnoon
  induction h with
  | refl => exact le_rfl
  | @step days _ ih =>
    have hturn := hclock days
    have hday : ((days + 1 : Nat) : Int) * dayMs = days * dayMs + dayMs := by
      rw [Nat.cast_add, Nat.cast_one, Int.add_mul, Int.one_mul]
    rw [Nat.succ_eq_add_one, hday]
    omega

private theorem buildSeries_ascending (hnoon : ∀ s t, s ≤ t → noon s ≤ noon t)
    (hclock : ∀ day, clock (day + 1) ≤ clock day + dayMs) (days : Nat) :
    (buildSeries noon clock seededValue deviceId parameter days).Pairwise
      fun r s => r.recordedAt ≤ s.recordedAt := by
  have hone : ∀ (units : Option String) (f : String → Reading),
      (units.toList.map f).Pairwise fun r s => r.recordedAt ≤ s.recordedAt := by
    intro units f
    cases units <;> simp
  induction days with
  | zero => exact hone _ _
  | succ days ih =>
    refine List.pairwise_append.mpr ⟨hone _ _, ih, fun r hr s hs => ?_⟩
    obtain ⟨unit, _, rfl⟩ := List.mem_map.mp hr
    obtain ⟨_, day, hday, rfl⟩ := mem_buildSeries hs
    exact noon_le hnoon hclock (by omega)

end buildSeries

/-- Each series is built at its first use, by the clock of that time. -/
def getDeviceSeries (noon : Int → Int) (clock : String → String → Nat → Int)
    (seededValue : String → String → Nat → Double) (hnoon : ∀ s t, s ≤ t → noon s ≤ noon t)
    (hclock : ∀ deviceId parameter day,
      clock deviceId parameter (day + 1) ≤ clock deviceId parameter day + dayMs) : MockData :=
  fun deviceId parameter =>
    { readings := buildSeries noon (clock deviceId parameter) seededValue deviceId parameter 90
      own := by
        intro reading h
        obtain ⟨_, _, _, rfl⟩ := mem_buildSeries h
        exact ⟨rfl, rfl⟩
      ascending := buildSeries_ascending hnoon (hclock deviceId parameter) 90 }

/-! ## The API layer -/

section listReadings

variable (date : String → Option Int) (data : MockData) (deviceId : String) (query : ReadingsQuery)

def ceilDays (ms : Int) : Int := -(-ms / dayMs)

/-- No reading is at or after a cutoff that is `NaN`. -/
def getMockReadings (parameter : String) (days : Option Int) (now : Int) : List Reading :=
  (data deviceId parameter).readings.filter fun reading =>
    days.any fun days => now - days * dayMs ≤ reading.recordedAt

def ReadingsQuery.days (now : Int) : Option Int :=
  match query.recordedFrom with
  | some text => (date text).map fun t => ceilDays (now - t)
  | none => some 90

/-- `if (query.to)`: the empty text is no bound. -/
def ReadingsQuery.filterTo (items : List Reading) : List Reading :=
  match query.recordedTo with
  | none => items
  | some text =>
    if text = "" then items
    else items.filter fun reading => (date text).any (reading.recordedAt ≤ ·)

/-- `listReadings` and `getMockReadings` read the clock one after the other, `now` and `now'`. -/
def listReadings (now now' : Int) : Paginated Reading :=
  let parameter := query.parameter.getD "ph"
  let days := query.days date now
  let items := query.filterTo date (getMockReadings data deviceId parameter days now')
  let items := if query.order = some .desc then items.reverse else items
  let offset := query.offset.getD 0
  let limit := query.limit.getD items.length
  ⟨window limit offset items, limit, offset, items.length⟩

/-! ## The contract -/

/-- `from <= recorded_at`, for the text of a given `from`. -/
def notBefore (text : String) (reading : Reading) : Bool :=
  (date text).any (· ≤ reading.recordedAt)

/-- `recorded_at <= to`. Without `to`, or with an empty one, there is no bound. -/
def ReadingsQuery.notAfter (reading : Reading) : Bool :=
  query.recordedTo.all fun text => text = "" || (date text).any (reading.recordedAt ≤ ·)

/-- The readings that the query asks for by its `from`, `text`. -/
def ReadingsQuery.wanted (text : String) : List Reading :=
  (data deviceId (query.parameter.getD "ph")).readings.filter fun reading =>
    notBefore date text reading && query.notAfter date reading

def inOrder : SortOrder → Reading → Reading → Prop
  | .asc, r, s => r.recordedAt ≤ s.recordedAt
  | .desc, r, s => s.recordedAt ≤ r.recordedAt

/-- The total counts `rows`, and the items are a window of them in the order asked for. -/
structure ReadingsQuery.IsPage (rows : List Reading) (page : Paginated Reading) : Prop where
  total : page.total = rows.length
  items : ∃ sorted : List Reading, sorted.Perm rows ∧
    sorted.Pairwise (inOrder (query.order.getD .asc)) ∧
      page.items = window (query.limit.getD rows.length) (query.offset.getD 0) sorted

/-- No reading that `to` lets through lies between `from` and the instant that many whole days,
rounded up, before the second reading of the clock. -/
def ReadingsQuery.Unrounded (now now' : Int) (series : List Reading) : Prop :=
  ∀ text ∈ query.recordedFrom, ∀ t ∈ date text, ∀ reading ∈ series,
    query.notAfter date reading = true →
      (t ≤ reading.recordedAt ↔ t ≤ reading.recordedAt + ((t - now) % dayMs - (now' - now)))

def Reading.toRow (reading : Reading) : ReadingRow :=
  ⟨reading.deviceId, reading.recordedAt * 1000, reading.parameter, reading.value, reading.unit⟩

/-- A timestamp of the query, as the backend takes it. -/
def Stamp (text : String) (t : Timestamptz) : Prop :=
  text ≠ "" ∧ ∃ ms, date text = some ms ∧ t = ms * 1000

/-- `query` as a request to the backend, over the rows of the series. -/
structure ReadingsQuery.SentAs (filter : ReadingsFilter) (order : SortOrder) (limit : Nat)
    (db : PgState) : Prop where
  device : filter.deviceId = deviceId
  parameter : filter.parameter = some (query.parameter.getD "ph")
  recordedFrom : ∃ text t, query.recordedFrom = some text ∧ filter.recordedFrom = some t ∧
    Stamp date text t
  recordedTo : Option.Rel (Stamp date) query.recordedTo filter.recordedTo
  order : query.order = some order
  limit : query.limit = some limit
  rows : (db.readings.rows.filter fun row =>
      row.deviceId = deviceId ∧ row.parameter = query.parameter.getD "ph").Perm
    ((data deviceId (query.parameter.getD "ph")).readings.map Reading.toRow)

end listReadings

section

variable {date : String → Option Int} {data : MockData} {deviceId : String} {query : ReadingsQuery}

/-- Which readings `getMockReadings` keeps for the days of the query. -/
def ReadingsQuery.starts (date : String → Option Int) (query : ReadingsQuery) (now now' : Int)
    (reading : Reading) : Bool :=
  (query.days date now).any fun days => now' - days * dayMs ≤ reading.recordedAt

theorem filterTo_eq (items : List Reading) :
    query.filterTo date items = items.filter (query.notAfter date) := by
  unfold ReadingsQuery.filterTo ReadingsQuery.notAfter
  split
  · rename_i hto
    simp [hto]
  · rename_i text hto
    split
    · rename_i hempty
      simp [hto, hempty]
    · rename_i hempty
      simp [hto, hempty]

/-- What `listReadings` selects, before it is put into order. -/
def ReadingsQuery.selection (date : String → Option Int) (data : MockData) (deviceId : String)
    (query : ReadingsQuery) (now now' : Int) : List Reading :=
  (data deviceId (query.parameter.getD "ph")).readings.filter fun reading =>
    query.starts date now now' reading && query.notAfter date reading

private theorem selection_eq_filterTo (now now' : Int) :
    query.selection date data deviceId now now' = query.filterTo date
      (getMockReadings data deviceId (query.parameter.getD "ph") (query.days date now) now') := by
  rw [ReadingsQuery.selection, filterTo_eq, getMockReadings, List.filter_filter]
  congr 1
  funext reading
  rw [Bool.and_comm]
  rfl

private theorem ceilDays_cutoff (t now now' : Int) :
    now' - ceilDays (now - t) * dayMs = t - ((t - now) % dayMs - (now' - now)) := by
  have hdiv := Int.mul_ediv_add_emod (t - now) dayMs
  have hdays : ceilDays (now - t) * dayMs = -(dayMs * ((t - now) / dayMs)) := by
    rw [ceilDays, Int.neg_sub, Int.neg_mul, Int.mul_comm]
  rw [hdays]
  omega

private theorem starts_eq {text : String} (hfrom : query.recordedFrom = some text) (now now' : Int)
    (reading : Reading) : query.starts date now now' reading =
      (date text).any fun t =>
        t ≤ reading.recordedAt + ((t - now) % dayMs - (now' - now)) := by
  simp only [ReadingsQuery.starts, ReadingsQuery.days, hfrom]
  cases date text with
  | none => rfl
  | some t =>
    rw [Option.map_some, Option.any_some, Option.any_some, ceilDays_cutoff]
    exact decide_eq_decide.mpr sub_le_iff_le_add

private theorem unrounded_iff {text : String} (hfrom : query.recordedFrom = some text)
    {now now' : Int}
    {series : List Reading} : query.Unrounded date now now' series ↔
      ∀ reading ∈ series, (query.starts date now now' reading && query.notAfter date reading) =
        (notBefore date text reading && query.notAfter date reading) := by
  cases hdate : date text with
  | none => simp [ReadingsQuery.Unrounded, starts_eq hfrom, notBefore, hfrom, hdate]
  | some t =>
    simp only [ReadingsQuery.Unrounded, starts_eq hfrom, notBefore, hfrom, hdate,
      Option.mem_some_iff, forall_eq', Option.any_some]
    refine forall₂_congr fun reading _ => ?_
    cases query.notAfter date reading with
    | false => simp
    | true => simp only [Bool.and_true, decide_eq_decide, forall_const, iff_comm]

private theorem starts_nested {text : String} (hfrom : query.recordedFrom = some text)
    (now now' : Int) :
    (∀ reading, query.starts date now now' reading = true → notBefore date text reading = true) ∨
      ∀ reading, notBefore date text reading = true →
        query.starts date now now' reading = true := by
  cases hdate : date text with
  | none => simp [starts_eq hfrom, hdate]
  | some t =>
    simp only [starts_eq hfrom, notBefore, hdate, Option.any_some, decide_eq_true_eq]
    rcases Int.le_total 0 ((t - now) % dayMs - (now' - now)) with hearlier | hlater
    · right
      intro reading h
      omega
    · left
      intro reading h
      omega

def ReadingsQuery.arrange (query : ReadingsQuery) (rows : List Reading) : List Reading :=
  if query.order = some .desc then rows.reverse else rows

theorem arrange_perm (rows : List Reading) : (query.arrange rows).Perm rows := by
  unfold ReadingsQuery.arrange
  split
  · exact List.reverse_perm rows
  · exact .refl rows

private theorem arrange_inOrder {rows : List Reading}
    (h : rows.Pairwise fun r s => r.recordedAt ≤ s.recordedAt) :
    (query.arrange rows).Pairwise (inOrder (query.order.getD .asc)) := by
  unfold ReadingsQuery.arrange
  split
  · rename_i hdesc
    rw [hdesc]
    exact List.pairwise_reverse.mpr h
  · rename_i hasc
    have horder : query.order.getD .asc = .asc := by
      cases horder : query.order with
      | none => rfl
      | some order =>
        cases order with
        | asc => rfl
        | desc => exact absurd horder hasc
    rw [horder]
    exact h

private theorem total_eq (now now' : Int) : (listReadings date data deviceId query now now').total =
    (query.selection date data deviceId now now').length := by
  rw [selection_eq_filterTo]
  exact (arrange_perm _).length_eq

private theorem items_eq (now now' : Int) :
    (listReadings date data deviceId query now now').items =
      window (query.limit.getD (query.selection date data deviceId now now').length)
        (query.offset.getD 0) (query.arrange (query.selection date data deviceId now now')) := by
  rw [← (arrange_perm (query.selection date data deviceId now now')).length_eq,
    selection_eq_filterTo]
  rfl

private theorem selection_page (now now' : Int) :
    query.IsPage (query.selection date data deviceId now now')
      (listReadings date data deviceId query now now') := by
  have hascending : (query.selection date data deviceId now now').Pairwise
      fun r s => r.recordedAt ≤ s.recordedAt :=
    (data deviceId (query.parameter.getD "ph")).ascending.filter _
  exact ⟨total_eq now now', _, arrange_perm _, arrange_inOrder hascending, items_eq now now'⟩

private theorem total_eq_iff {text : String} (hfrom : query.recordedFrom = some text)
    (now now' : Int) :
    (listReadings date data deviceId query now now').total =
        (query.wanted date data deviceId text).length ↔
      query.Unrounded date now now' (data deviceId (query.parameter.getD "ph")).readings := by
  rw [total_eq, ReadingsQuery.selection, ReadingsQuery.wanted, unrounded_iff hfrom]
  rcases starts_nested hfrom now now' with hlate | hearly
  · exact length_filter_eq_iff fun reading h => by
      simp only [Bool.and_eq_true] at h ⊢
      exact ⟨hlate reading h.1, h.2⟩
  · rw [eq_comm, length_filter_eq_iff fun reading h => by
      simp only [Bool.and_eq_true] at h ⊢
      exact ⟨hearly reading h.1, h.2⟩]
    exact forall₂_congr fun _ _ => eq_comm

private theorem selection_eq {text : String} (hfrom : query.recordedFrom = some text)
    {now now' : Int}
    (h : query.Unrounded date now now' (data deviceId (query.parameter.getD "ph")).readings) :
    query.selection date data deviceId now now' = query.wanted date data deviceId text :=
  List.filter_congr ((unrounded_iff hfrom).mp h)

private theorem wanted_ascending (text : String) :
    (query.wanted date data deviceId text).Pairwise fun r s => r.recordedAt ≤ s.recordedAt :=
  (data deviceId (query.parameter.getD "ph")).ascending.filter _

/-! ## The rows of the backend -/

private theorem readingsOrder_toRow {order : SortOrder} {r s : Reading} :
    readingsOrder order r.toRow s.toRow = true ↔ inOrder order r s := by
  cases order with
  | asc =>
    have hrows : readingsOrder .asc r.toRow s.toRow = true ↔
        r.recordedAt * 1000 ≤ s.recordedAt * 1000 := decide_eq_true_iff
    rw [hrows, inOrder]
    omega
  | desc =>
    have hrows : readingsOrder .desc r.toRow s.toRow = true ↔
        s.recordedAt * 1000 ≤ r.recordedAt * 1000 := decide_eq_true_iff
    rw [hrows, inOrder]
    omega

section SentAs

variable {filter : ReadingsFilter} {order : SortOrder} {limit : Nat} {db : PgState} {text : String}

theorem ReadingsQuery.SentAs.selects (h : query.SentAs date data deviceId filter order limit db)
    (hfrom : query.recordedFrom = some text) (reading : Reading) :
    (filter.recordedFrom.all (· ≤ reading.toRow.recordedAt) &&
        filter.recordedTo.all (reading.toRow.recordedAt ≤ ·)) =
      (notBefore date text reading && query.notAfter date reading) := by
  have hscale : ∀ a b : Int, decide (a * 1000 ≤ b * 1000) = decide (a ≤ b) := by
    intro a b
    exact decide_eq_decide.mpr (by omega)
  obtain ⟨text', t, hquery, hfilter, _, ms, hdate, rfl⟩ := h.recordedFrom
  obtain rfl := Option.some.inj (hquery.symm.trans hfrom)
  have hlower : filter.recordedFrom.all (· ≤ reading.toRow.recordedAt) =
      notBefore date text' reading := by
    simp only [notBefore, hfilter, hdate, Option.all_some, Option.any_some]
    exact hscale ms reading.recordedAt
  have hto : filter.recordedTo.all (reading.toRow.recordedAt ≤ ·) =
      query.notAfter date reading := by
    have hstamps := h.recordedTo
    rw [ReadingsQuery.notAfter]
    generalize query.recordedTo = asked, filter.recordedTo = sent at hstamps ⊢
    cases hstamps with
    | none => rfl
    | some hstamp =>
      obtain ⟨hnonempty, ms, hdate, rfl⟩ := hstamp
      rw [Option.all_some, Option.all_some, hdate, decide_eq_false hnonempty, Bool.false_or]
      exact hscale reading.recordedAt ms
  rw [hlower, hto]

theorem ReadingsQuery.SentAs.selected_perm
    (h : query.SentAs date data deviceId filter order limit db)
    (hfrom : query.recordedFrom = some text) :
    (selected filter db).Perm ((query.wanted date data deviceId text).map Reading.toRow) := by
  have hsplit : filter.selects = fun row =>
      (filter.recordedFrom.all (· ≤ row.recordedAt) &&
        filter.recordedTo.all (row.recordedAt ≤ ·)) &&
      decide (row.deviceId = deviceId ∧ row.parameter = query.parameter.getD "ph") := by
    funext row
    rw [ReadingsFilter.selects, h.device, h.parameter, Option.all_some, Bool.decide_and]
    grind
  have hrows := h.rows.filter fun row =>
    filter.recordedFrom.all (· ≤ row.recordedAt) && filter.recordedTo.all (row.recordedAt ≤ ·)
  rw [List.filter_filter, List.filter_map] at hrows
  have hwanted : query.wanted date data deviceId text =
      (data deviceId (query.parameter.getD "ph")).readings.filter
        ((fun row : ReadingRow => filter.recordedFrom.all (· ≤ row.recordedAt) &&
          filter.recordedTo.all (row.recordedAt ≤ ·)) ∘ Reading.toRow) :=
    List.filter_congr fun reading _ => (h.selects hfrom reading).symm
  rw [selected, hsplit, hwanted]
  exact hrows

theorem ReadingsQuery.SentAs.page_eq (h : query.SentAs date data deviceId filter order limit db)
    (hfrom : query.recordedFrom = some text) (plan : Arrangement (readingsOrder order))
    (offset : Nat) : listReadingsSql plan filter limit offset db = (window limit offset
      (query.arrange (query.wanted date data deviceId text))).map Reading.toRow := by
  let rows := query.arrange (query.wanted date data deviceId text)
  have hperm : (plan.sort (selected filter db)).Perm (rows.map Reading.toRow) :=
    (plan.perm _).trans ((h.selected_perm hfrom).trans ((arrange_perm _).symm.map _))
  have hsorted : (rows.map Reading.toRow).Pairwise fun r s => readingsOrder order r s = true := by
    have hrows : rows.Pairwise (inOrder (query.order.getD .asc)) :=
      arrange_inOrder (wanted_ascending text)
    rw [h.order] at hrows
    exact List.pairwise_map.mpr (hrows.imp readingsOrder_toRow.mpr)
  have hsame : plan.sort (selected filter db) = rows.map Reading.toRow := by
    refine hperm.eq_of_pairwise (fun r s hr hs hrs hsr => ?_) (plan.sorted _) hsorted
    have hr' := (plan.perm _).mem_iff.mp hr
    have hs' := (plan.perm _).mem_iff.mp (hperm.mem_iff.mpr hs)
    refine eq_of_recordedAt h.parameter hr' hs' ?_
    cases order with
    | asc => exact le_antisymm (of_decide_eq_true hrs) (of_decide_eq_true hsr)
    | desc => exact le_antisymm (of_decide_eq_true hsr) (of_decide_eq_true hrs)
  rw [listReadingsSql, hsame, window, window, List.map_take, List.map_drop]

end SentAs

/-- `listReadings` gives the page that the contract of the backend asks for, and what the two
statements give for the same rows, exactly when no reading lies where `from` was rounded. Without
`from` it gives a page of the last 90 days. -/
theorem listReadings_contract_iff (date : String → Option Int) (data : MockData)
    (deviceId : String) (query : ReadingsQuery) (now now' : Int) :
    let page := listReadings date data deviceId query now now'
    let unrounded :=
      query.Unrounded date now now' (data deviceId (query.parameter.getD "ph")).readings
    (∀ text ∈ query.recordedFrom,
      (query.IsPage (query.wanted date data deviceId text) page ↔ unrounded)) ∧
    (∀ filter order limit db, query.SentAs date data deviceId filter order limit db →
      ∀ plan : Arrangement (readingsOrder order),
        (page.total = (selected filter db).length ∧
            page.items.map Reading.toRow =
              listReadingsSql plan filter limit (query.offset.getD 0) db ↔ unrounded)) ∧
    (query.recordedFrom = none → query.IsPage
      ((data deviceId (query.parameter.getD "ph")).readings.filter fun reading =>
        decide (now' - 90 * dayMs ≤ reading.recordedAt) && query.notAfter date reading) page) := by
  intro page unrounded
  have htotal : ∀ text, query.recordedFrom = some text →
      (page.total = (query.wanted date data deviceId text).length ↔ unrounded) :=
    fun _ hfrom => total_eq_iff hfrom now now'
  have hpage : query.IsPage (query.selection date data deviceId now now') page :=
    selection_page now now'
  refine ⟨?_, ?_, ?_⟩
  · intro text hfrom
    constructor
    · intro hwanted
      exact (htotal text hfrom).mp hwanted.total
    · intro h
      rw [← selection_eq hfrom h]
      exact hpage
  · intro filter order limit db hsent plan
    obtain ⟨text, _, hfrom, _⟩ := hsent.recordedFrom
    have hcount : (selected filter db).length = (query.wanted date data deviceId text).length := by
      rw [(hsent.selected_perm hfrom).length_eq, List.length_map]
    rw [hcount, hsent.page_eq hfrom plan]
    constructor
    · intro hrows
      exact (htotal text hfrom).mp hrows.1
    · intro h
      have hitems : page.items = _ := items_eq now now'
      rw [selection_eq hfrom h, hsent.limit, Option.getD_some] at hitems
      exact ⟨(htotal text hfrom).mpr h, congrArg _ hitems⟩
  · intro hfrom
    have hrecent : query.selection date data deviceId now now' =
        (data deviceId (query.parameter.getD "ph")).readings.filter fun reading =>
          decide (now' - 90 * dayMs ≤ reading.recordedAt) && query.notAfter date reading := by
      simp only [ReadingsQuery.selection, ReadingsQuery.starts, ReadingsQuery.days, hfrom,
        Option.any_some]
    rw [← hrecent]
    exact hpage

end

/-! ## A range of seven days -/

def MockData.single (reading : Reading) : MockData := fun deviceId parameter =>
  { readings :=
      if reading.deviceId = deviceId ∧ reading.parameter = parameter then [reading] else []
    own := by
      intro r hr
      split at hr
      · rename_i hown
        obtain rfl := List.mem_singleton.mp hr
        exact hown
      · cases hr
    ascending := by split <;> simp }

def julyFirst : String := "2026-07-01T00:00:00.000Z"

def dateJulyFirst (text : String) : Option Int :=
  if text = julyFirst then some 1782864000000 else none

/-- Seven days and the delay of the mock API after `from`, the days are eight: the reading of
half a day before `from` is on the page. -/
theorem listReadings_adds_day :
    let noon : Reading := ⟨"sensor-1", 1782864000000 - 12 * 60 * 60 * 1000, "ph", .finite 7, "pH"⟩
    let query : ReadingsQuery :=
      { parameter := some "ph", recordedFrom := some julyFirst, order := some .asc }
    let now := 1782864000000 + 7 * dayMs + 250
    let page := listReadings dateJulyFirst (.single noon) "sensor-1" query now now
    page = ⟨[noon], 1, 0, 1⟩ ∧
      ¬ query.IsPage (query.wanted dateJulyFirst (.single noon) "sensor-1" julyFirst) page := by
  intro noon query now page
  have hpage : page = ⟨[noon], 1, 0, 1⟩ := by decide +kernel
  refine ⟨hpage, fun h => ?_⟩
  have htotal := h.total
  rw [hpage] at htotal
  revert htotal
  decide +kernel

/-- The same range and a reading at noon of its first day. -/
theorem listReadings_contract_first_day : ∃ db,
    commitEvents .utc [temperatureAt 1782907200000000 20] PgState.empty = .ok db ∧
      let noon : Reading := ⟨"sensor-1", 1782907200000, "temperature", .finite 20, "C"⟩
      let query : ReadingsQuery :=
        { parameter := some "temperature"
          recordedFrom := some julyFirst
          order := some .asc
          limit := some 10 }
      let filter : ReadingsFilter :=
        ⟨"sensor-1", some 1782864000000000, none, some "temperature"⟩
      let now := 1782864000000 + 7 * dayMs + 250
      let page := listReadings dateJulyFirst (.single noon) "sensor-1" query now now
      query.IsPage (query.wanted dateJulyFirst (.single noon) "sensor-1" julyFirst) page ∧
        ∀ plan : Arrangement (readingsOrder .asc), page.total = (selected filter db).length ∧
          page.items.map Reading.toRow = listReadingsSql plan filter 10 0 db := by
  refine ⟨_, rfl, ?_⟩
  intro noon query filter now page
  have hiff := listReadings_contract_iff dateJulyFirst (.single noon) "sensor-1" query now now
  have h : query.Unrounded dateJulyFirst now now (MockData.single noon "sensor-1"
      "temperature").readings := by
    intro text htext t ht reading hreading _
    obtain rfl := Option.some.inj htext
    obtain rfl := Option.some.inj ht
    obtain rfl := List.mem_singleton.mp hreading
    decide +kernel
  refine ⟨(hiff.1 julyFirst rfl).mpr h, fun plan => (hiff.2.1 filter .asc 10 _ ?_ plan).mpr h⟩
  exact {
    device := rfl
    parameter := rfl
    recordedFrom := ⟨julyFirst, _, rfl, rfl, (by decide), 1782864000000, rfl, rfl⟩
    recordedTo := .none
    order := rfl
    limit := rfl
    rows := by decide +kernel }

end OpenWater.Frontend
