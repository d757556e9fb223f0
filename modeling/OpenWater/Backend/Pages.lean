import OpenWater.Backend.Devices

/-!
# Pages and totals

What the pages of a list endpoint are worth together: whether paging through the readings of a
device at rest returns each of them once, and whether a page is as long as its total says while the
ingestion service writes.
-/

namespace OpenWater.Backend

open Framework Ingestion

/-- The stored readings that a request asks for. -/
def Api.matching (api : Api) (request : ReadingsRequest) (db : PgState) : List ReadingRow :=
  match api.query request with
  | .error _ => []
  | .ok query => match api.bound request query with
    | .error _ => []
    | .ok filter => selected filter db

theorem Api.matching_eq {api : Api} {request : ReadingsRequest} {query : ReadingsQueryParams}
    {filter : ReadingsFilter} (hquery : api.query request = .ok query)
    (hfilter : api.bound request query = .ok filter) (db : PgState) :
    api.matching request db = selected filter db := by
  simp only [Api.matching, hquery, hfilter]

theorem Api.mem_matching {api : Api} {request : ReadingsRequest} {db : PgState} {row : ReadingRow} :
    row ∈ api.matching request db ↔ ∃ query filter, api.query request = .ok query ∧
      api.bound request query = .ok filter ∧ row ∈ selected filter db := by
  constructor
  · intro h
    unfold Api.matching at h
    split at h
    · cases h
    · rename_i query hquery
      split at h
      · cases h
      · rename_i filter hfilter
        exact ⟨query, filter, hquery, hfilter, h⟩
  · rintro ⟨query, filter, hquery, hfilter, h⟩
    rwa [Api.matching_eq hquery hfilter]

theorem selected_nodup (filter : ReadingsFilter) (db : PgState) : (selected filter db).Nodup :=
  (List.Nodup.of_map _ db.readings.nodup).filter _

private theorem readingToOut_injective : Function.Injective readingToOut := by
  intro r s h
  cases r
  cases s
  simpa [readingToOut] using h

theorem mem_selected {filter : ReadingsFilter} {db : PgState} {row : ReadingRow} :
    row ∈ selected filter db ↔ row ∈ db.readings.rows ∧ filter.selects row = true :=
  List.mem_filter

theorem ReadingsFilter.selects_iff {filter : ReadingsFilter} {row : ReadingRow} :
    filter.selects row = true ↔ row.deviceId = filter.deviceId ∧
      (∀ t ∈ filter.recordedFrom, t ≤ row.recordedAt) ∧
      (∀ t ∈ filter.recordedTo, row.recordedAt ≤ t) ∧
      ∀ p ∈ filter.parameter, row.parameter = p := by
  simp only [ReadingsFilter.selects, Bool.and_eq_true, decide_eq_true_eq, Option.all_eq_true,
    and_assoc]
  rfl

theorem eq_of_recordedAt {filter : ReadingsFilter} {p : String} (hp : filter.parameter = some p)
    {db : PgState} {r s : ReadingRow} (hr : r ∈ selected filter db) (hs : s ∈ selected filter db)
    (h : r.recordedAt = s.recordedAt) : r = s := by
  obtain ⟨hrmem, hrsel⟩ := mem_selected.mp hr
  obtain ⟨hsmem, hssel⟩ := mem_selected.mp hs
  obtain ⟨hrd, _, _, hrp⟩ := ReadingsFilter.selects_iff.mp hrsel
  obtain ⟨hsd, _, _, hsp⟩ := ReadingsFilter.selects_iff.mp hssel
  have hparameter := (hrp p hp).trans (hsp p hp).symm
  refine Table.eq_of_key hrmem hsmem ?_
  simp only [ReadingRow.key, hrd, hsd, h, hparameter]

theorem ties_selected {filter : ReadingsFilter} {p : String} (hp : filter.parameter = some p)
    (order : SortOrder) {db : PgState} {r : ReadingRow} (hr : r ∈ selected filter db) :
    ties (readingsOrder order) r (selected filter db) = 1 := by
  refine ties_eq_one (selected_nodup filter db) hr fun s hs => ?_
  have htied : tied (readingsOrder order) s r = true ↔ s.recordedAt = r.recordedAt := by
    cases order <;> simp only [tied, readingsOrder, Bool.and_eq_true, decide_eq_true_eq]
    · exact le_antisymm_iff.symm
    · exact and_comm.trans le_antisymm_iff.symm
  rw [htied]
  exact ⟨eq_of_recordedAt hp hs hr, fun h => h ▸ rfl⟩

/-! ## Pages of readings at rest -/

def ReadingsQueries.sortedBy {order : SortOrder} (plan : Arrangement (readingsOrder order)) :
    ReadingsQueries where
  sort o := if h : order = o then h ▸ plan
    else .stable _ (readingsOrder_trans o) (readingsOrder_total o)

@[simp] theorem ReadingsQueries.sortedBy_sort {order : SortOrder}
    (plan : Arrangement (readingsOrder order)) :
    (ReadingsQueries.sortedBy plan).sort order = plan := by
  simp [sortedBy]

private theorem pages_items {api : Api} {request : ReadingsRequest} {db : PgState}
    {query : ReadingsQueryParams} {filter : ReadingsFilter}
    (hquery : api.query request = .ok query) (hfilter : api.bound request query = .ok filter)
    {offset : Nat} {queries : ReadingsQueries} {page : PaginatedResponse ReadingOut}
    (hpage : Routes.listReadings api queries (request.at offset) db db db = .ok page) :
    page.items = (window (api.pageLimit query) offset
      ((queries.sort query.order).sort (selected filter db))).map readingToOut := by
  obtain ⟨_, query', filter', hquery', hfilter', _, _, _, _, rfl⟩ := Routes.listReadings_ok.mp hpage
  obtain rfl := Except.ok.inj ((Api.query_at hquery offset).symm.trans hquery')
  obtain rfl := Except.ok.inj (hfilter.symm.trans hfilter')
  rfl

private theorem flatMap_pages {api : Api} {request : ReadingsRequest} {db : PgState}
    {query : ReadingsQueryParams} {filter : ReadingsFilter}
    (hquery : api.query request = .ok query) (hfilter : api.bound request query = .ok filter)
    {n : Nat} {run : Nat → ReadingsQueries} {pages : Nat → PaginatedResponse ReadingOut}
    (hrun : ∀ k < n, Routes.listReadings api (run k) (request.at (k * api.pageLimit query)) db db
      db = .ok (pages k)) :
    ((List.range n).flatMap fun k => (pages k).items) =
      (pagesOf (fun k => (run k).sort query.order) (api.pageLimit query) n
        (selected filter db)).map readingToOut := by
  rw [pagesOf, List.map_flatMap]
  apply List.flatMap_congr
  intro k hk
  exact pages_items hquery hfilter (hrun k (List.mem_range.mp hk))

/-- Paging through readings at rest returns each matching reading exactly once, whatever order
PostgreSQL gives readings of one instant in each query, exactly when no page boundary falls among
matching readings of one instant. -/
theorem listReadings_lossless_iff {api : Api} {queries : ReadingsQueries}
    {request : ReadingsRequest} {db : PgState} {first : PaginatedResponse ReadingOut}
    (hfirst : Routes.listReadings api queries request db db db = .ok first) :
    (∀ (n : Nat) (run : Nat → ReadingsQueries) (pages : Nat → PaginatedResponse ReadingOut),
        first.total ≤ n * first.limit →
        (∀ k < n, Routes.listReadings api (run k) (request.at (k * first.limit)) db db db =
          .ok (pages k)) →
        ((List.range n).flatMap fun k => (pages k).items).Perm
          ((api.matching request db).map readingToOut)) ↔
      Unsplit (readingsOrder request.order) first.limit (api.matching request db) := by
  obtain ⟨_, query, filter, hquery, hfilter, hdev, hlimit, _, htotal, rfl⟩ :=
    Routes.listReadings_ok.mp hfirst
  have horder : query.order = request.order := (Api.query_ok.mp hquery).2.2.2.2.2
  have hpos := api.pageLimit_pos query
  have hnodup := selected_nodup filter db
  rw [Api.matching_eq hquery hfilter, ← horder]
  change _ ↔ Unsplit _ (api.pageLimit query) _
  have hiff := fun n hn => pagesOf_perm_iff (readingsOrder_trans query.order)
    (readingsOrder_total query.order) hpos hnodup (n := n) hn
  constructor
  · intro hall
    -- The last page begins at or before the end of the rows, so that its offset is a BIGINT.
    let n := (selected filter db).length / api.pageLimit query + 1
    have hlast := Nat.div_mul_le_self (selected filter db).length (api.pageLimit query)
    have hn : (selected filter db).length ≤ n * api.pageLimit query := by
      have := Nat.lt_div_mul_add hpos (a := (selected filter db).length)
      rw [Nat.succ_mul]
      omega
    refine (hiff n hn).mp fun plans => ?_
    have hanswer : ∀ k < n, Routes.listReadings api (.sortedBy (plans k))
        (request.at (k * api.pageLimit query)) db db db =
          .ok (api.page (.sortedBy (plans k))
            { query with offset := ⟨k * api.pageLimit query, Nat.zero_le _⟩ } filter db db) := by
      intro k hk
      have hoffset := Nat.mul_le_mul_right (api.pageLimit query) (Nat.le_of_lt_succ hk)
      refine Routes.listReadings_ok.mpr ⟨⟨rfl, rfl, rfl⟩, _, filter, Api.query_at hquery _, hfilter,
        hdev, hlimit, ?_, htotal, rfl⟩
      exact (hoffset.trans hlast).trans_lt htotal
    have hperm := hall n _ _ hn hanswer
    rw [flatMap_pages hquery hfilter hanswer] at hperm
    simpa using (List.map_perm_map_iff readingToOut_injective).mp hperm
  · intro hunsplit n run pages hn hrun
    rw [flatMap_pages hquery hfilter hrun]
    exact ((hiff n hn).mpr hunsplit _).map _

private theorem unsplit_of_parameter {filter : ReadingsFilter} {p : String}
    (hp : filter.parameter = some p) (order : SortOrder) (limit : Nat) (db : PgState) :
    Unsplit (readingsOrder order) limit (selected filter db) := by
  intro r hr k
  have hties := ties_selected hp order hr
  omega

/-! ## A page boundary inside an event -/

def Api.localStack : Api where
  settings := .default
  decoder := ⟨fun _ => none, fun _ => .datetimeParsing, fun _ => ""⟩
  pg := .utc

def stationEvent : ReadingEvent :=
  { temperatureAt 0 20 with
    readings := ⟨⟨"volume", by decide, by decide⟩, .finite 3, ⟨"L", by decide, by decide⟩⟩ ::
      (temperatureAt 0 20).readings
    nonempty := List.cons_ne_nil _ _ }

def ReadingsQueries.preferring (p : ReadingRow → Bool) : ReadingsQueries where
  sort o := .preferring (readingsOrder_trans o) (readingsOrder_total o) p

/-- The second query puts the event's readings the other way round: its page repeats the first one,
and the other reading is on no page. -/
theorem split_instant_repeats_reading : ∃ db,
    commitEvents .utc [stationEvent] PgState.empty = .ok db ∧
      let request : ReadingsRequest := { deviceId := "sensor-1", limit := some 1 }
      let page : Nat → PaginatedResponse ReadingOut := fun offset =>
        ⟨[⟨"sensor-1", 0, "volume", .finite 3, "L"⟩], 1, offset, 2⟩
      (∀ k < 2, Routes.listReadings .localStack
        (.preferring fun row => decide (row.parameter = "volume") == decide (k = 0))
          (request.at (k * 1)) db db db = .ok (page k)) ∧
      ¬ ((List.range 2).flatMap fun k => (page k).items).Perm
        ((Api.localStack.matching request db).map readingToOut) := by
  refine ⟨_, rfl, ?_, ?_⟩
  · decide +kernel
  · decide +kernel

/-- Paging through one of the two parameters is lossless. -/
theorem listReadings_lossless_iff_parameter : ∃ db,
    commitEvents .utc [stationEvent] PgState.empty = .ok db ∧
      let request : ReadingsRequest :=
        { deviceId := "sensor-1", parameter := some "volume", limit := some 1 }
      ∀ (n : Nat) (run : Nat → ReadingsQueries) (pages : Nat → PaginatedResponse ReadingOut),
        1 ≤ n * 1 →
        (∀ k < n, Routes.listReadings .localStack (run k) (request.at (k * 1)) db db db =
          .ok (pages k)) →
        ((List.range n).flatMap fun k => (pages k).items).Perm
          ((Api.localStack.matching request db).map readingToOut) := by
  let request : ReadingsRequest :=
    { deviceId := "sensor-1", parameter := some "volume", limit := some 1 }
  obtain ⟨db, hcommit, hfirst⟩ : ∃ db, commitEvents .utc [stationEvent] PgState.empty = .ok db ∧
      Routes.listReadings .localStack (.preferring fun _ => true) request db db db =
        .ok ⟨[⟨"sensor-1", 0, "volume", .finite 3, "L"⟩], 1, 0, 1⟩ :=
    ⟨_, rfl, by decide +kernel⟩
  refine ⟨db, hcommit, (listReadings_lossless_iff hfirst).mpr ?_⟩
  have hquery : Api.localStack.query request =
      .ok ⟨none, none, some "volume", some ⟨1, le_rfl⟩, ⟨0, le_rfl⟩, .desc, rfl⟩ := rfl
  have hbound : Api.localStack.bound request
      ⟨none, none, some "volume", some ⟨1, le_rfl⟩, ⟨0, le_rfl⟩, .desc, rfl⟩ =
        .ok ⟨"sensor-1", none, none, some "volume"⟩ := by
    simp [Api.bound, bindReadingsFilter, bindText, bindNullableText, bindNullableTimestamptz,
      request, bind, Except.bind, pure, Except.pure, Except.map]
  rw [Api.matching_eq hquery hbound]
  exact unsplit_of_parameter rfl _ _ _

/-! ## Pages against totals -/

theorem selected_of_reaches {db db' : PgState} (h : Reaches db db') {filter : ReadingsFilter}
    {row : ReadingRow} (hrow : row ∈ selected filter db) : row ∈ selected filter db' := by
  obtain ⟨hmem, hsel⟩ := mem_selected.mp hrow
  exact mem_selected.mpr ⟨mem_readings_of_reaches h hmem, hsel⟩

theorem registered_of_reaches {db db' : PgState} (h : Reaches db db') {d : String}
    (hd : db.devices.lookup d ≠ none) : db'.devices.lookup d ≠ none := by
  obtain ⟨ws, rfl⟩ := h.replay
  clear h
  induction ws generalizing db with
  | nil => exact hd
  | cons w ws ih =>
    apply ih
    rw [w.lookup_apply_devices]
    split
    · simp
    · exact hd

private theorem page_length {limit offset total found n : Nat} (hle : total ≤ found)
    (hn : n = min limit (found - offset)) :
    min limit (total - offset) ≤ n ∧ n ≤ limit ∧
      (found ≤ total → n = min limit (total - offset)) := by
  refine ⟨?_, ?_, fun hge => ?_⟩ <;> omega

theorem length_le_of_subset {α : Type} {xs ys : List α} (hnodup : xs.Nodup)
    (hsub : ∀ x ∈ xs, x ∈ ys) : xs.length ≤ ys.length :=
  (hnodup.subperm hsub).length_le

private theorem readings_page_length {db₁ db₂ : PgState} (h : Reaches db₁ db₂) {api : Api}
    {queries : ReadingsQueries} {request : ReadingsRequest} {db : PgState}
    {page : PaginatedResponse ReadingOut}
    (hpage : Routes.listReadings api queries request db db₁ db₂ = .ok page) :
    min page.limit (page.total - page.offset) ≤ page.items.length ∧
      page.items.length ≤ page.limit ∧
      ((∀ row ∈ api.matching request db₂, row ∈ api.matching request db₁) →
        page.items.length = min page.limit (page.total - page.offset)) := by
  obtain ⟨_, query, filter, hquery, hfilter, _, _, _, _, rfl⟩ := Routes.listReadings_ok.mp hpage
  rw [Api.matching_eq hquery hfilter, Api.matching_eq hquery hfilter]
  have hkept : (selected filter db₁).length ≤ (selected filter db₂).length :=
    length_le_of_subset (selected_nodup filter db₁) fun _ => selected_of_reaches h
  have hitems : (api.page queries query filter db₁ db₂).items.length =
      min (api.pageLimit query) ((selected filter db₂).length - query.offset.val) := by
    rw [Api.page, List.length_map, listReadingsSql, length_window,
      ((queries.sort query.order).perm _).length_eq]
  obtain ⟨hlow, hhigh, hexact⟩ := page_length hkept hitems
  refine ⟨hlow, hhigh, fun hnone => hexact ?_⟩
  exact length_le_of_subset (selected_nodup filter db₂) hnone

private theorem devices_page_length {db₁ db₂ : PgState} (h : Reaches db₁ db₂)
    {settings : Settings} {queries : DevicesQueries} {limit : Option Int} {offset : Int}
    {page : PaginatedResponse DeviceOut}
    (hpage : Routes.listDevices settings queries limit offset db₁ db₂ = .ok page) :
    min page.limit (page.total - page.offset) ≤ page.items.length ∧
      page.items.length ≤ page.limit ∧
      ((∀ row ∈ db₂.devices.rows, db₁.devices.lookup row.deviceId ≠ none) →
        page.items.length = min page.limit (page.total - page.offset)) := by
  obtain ⟨_, _, htotal, hids⟩ := Routes.listDevices_ok hpage
  have hregistered : ∀ {db : PgState} {d : String},
      d ∈ db.devices.rows.map DeviceRow.deviceId ↔ db.devices.lookup d ≠ none := by
    intro db d
    rw [Table.lookup_ne_none, List.mem_map]
  -- The tables are compared by their keys, since an event changes the row of a device.
  have hlength : ∀ {db db' : PgState},
      (∀ row ∈ db.devices.rows, db'.devices.lookup row.deviceId ≠ none) →
        db.devices.rows.length ≤ db'.devices.rows.length := by
    intro db db' hsub
    have hids : (db.devices.rows.map DeviceRow.deviceId).Nodup := db.devices.nodup
    have hle := length_le_of_subset hids fun d hd => by
      obtain ⟨row, hrow, rfl⟩ := List.mem_map.mp hd
      exact hregistered.mpr (hsub row hrow)
    simpa using hle
  have hkept := hlength fun row hrow =>
    registered_of_reaches h (hregistered.mp (List.mem_map_of_mem hrow))
  have hitems : page.items.length =
      min page.limit (db₂.devices.rows.length - page.offset) := by
    rw [← List.length_map (f := DeviceOut.deviceId), hids, List.length_map, listDevicesSql,
      length_window, (queries.sort.perm _).length_eq]
  rw [htotal]
  obtain ⟨hlow, hhigh, hexact⟩ := page_length hkept hitems
  exact ⟨hlow, hhigh, fun hnone => hexact (hlength hnone)⟩

/-- A page is never shorter than its total promises, whatever the ingestion service writes between
the count and the page query, and has exactly that length if no matching row is added there. -/
theorem page_meets_total {db₁ db₂ : PgState} (h : Reaches db₁ db₂) :
    (∀ (api : Api) (queries : ReadingsQueries) (request : ReadingsRequest) (db : PgState)
      (page : PaginatedResponse ReadingOut),
      Routes.listReadings api queries request db db₁ db₂ = .ok page →
        min page.limit (page.total - page.offset) ≤ page.items.length ∧
        page.items.length ≤ page.limit ∧
        ((∀ row ∈ api.matching request db₂, row ∈ api.matching request db₁) →
          page.items.length = min page.limit (page.total - page.offset))) ∧
    ∀ (settings : Settings) (queries : DevicesQueries) (limit : Option Int) (offset : Int)
      (page : PaginatedResponse DeviceOut),
      Routes.listDevices settings queries limit offset db₁ db₂ = .ok page →
        min page.limit (page.total - page.offset) ≤ page.items.length ∧
        page.items.length ≤ page.limit ∧
        ((∀ row ∈ db₂.devices.rows, db₁.devices.lookup row.deviceId ≠ none) →
          page.items.length = min page.limit (page.total - page.offset)) := by
  constructor
  · intro api queries request db page hpage
    exact readings_page_length h hpage
  · intro settings queries limit offset page hpage
    exact devices_page_length h hpage

/-- A second event arrives between the count and the page query. -/
theorem page_meets_total_growing :
    let db₁ := (Database.localStack.writeOnce (temperatureAt 0 20) .none PgState.empty).state
    let db₂ := (Database.localStack.writeOnce (temperatureAt 60 21) .none db₁).state
    let request : ReadingsRequest := { deviceId := "sensor-1", limit := some 10 }
    ∃ page, Routes.listReadings .localStack (.preferring fun _ => true) request db₁ db₁ db₂ =
      .ok page ∧ page.total = 1 ∧
        min page.limit (page.total - page.offset) ≤ page.items.length := by
  intro db₁ db₂ request
  have hreach : Reaches db₁ db₂ := Relation.ReflTransGen.single ⟨.localStack, _, .none, rfl⟩
  have hpage : Routes.listReadings .localStack (.preferring fun _ => true) request db₁ db₁ db₂ =
      .ok ⟨[⟨"sensor-1", 60, "temperature", .finite 21, "C"⟩,
        ⟨"sensor-1", 0, "temperature", .finite 20, "C"⟩], 10, 0, 1⟩ := by
    decide +kernel
  exact ⟨_, hpage, rfl, ((page_meets_total hreach).1 _ _ _ _ _ hpage).1⟩

end OpenWater.Backend
