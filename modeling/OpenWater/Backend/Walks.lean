import OpenWater.Backend.Pages
import OpenWater.Framework.Walk

/-!
# Walks through a list

A client walks `list_readings` or `list_devices` from offset 0, advancing by the limit of each
response, until a page is short. The ingestion service writes between the requests, and between
the queries of one request.
-/

namespace OpenWater.Backend

open Framework Ingestion

structure WriteAttempt where
  database : Database
  event : ReadingEvent
  fault : Fault PyException

def WriteAttempt.apply (attempt : WriteAttempt) (db : PgState) : PgState :=
  (attempt.database.writeOnce attempt.event attempt.fault db).state

def writes (attempts : List WriteAttempt) (db : PgState) : PgState :=
  attempts.foldl (fun db attempt => attempt.apply db) db

private theorem reaches_apply (attempt : WriteAttempt) (db : PgState) : Reaches db
    (attempt.apply db) :=
  .single ⟨attempt.database, attempt.event, attempt.fault, rfl⟩

private theorem reaches_writes (attempts : List WriteAttempt) (db : PgState) :
    Reaches db (writes attempts db) := by
  induction attempts generalizing db with
  | nil => exact .refl
  | cons attempt attempts ih => exact (reaches_apply attempt db).trans (ih (attempt.apply db))

/-! ## The history of one parameter -/

/-- One request of a walk through readings: its limit, how PostgreSQL runs its queries, and what is
written before the second and before the third of them. -/
structure ReadingsTurn where
  limit : Option Int := none
  queries : ReadingsQueries
  beforeCount : List WriteAttempt := []
  beforeList : List WriteAttempt := []

def ReadingsRequest.turn (request : ReadingsRequest) (limit : Option Int) (offset : Nat) :
    ReadingsRequest :=
  { request with limit := limit, offset := offset }

def readingsServer (api : Api) (request : ReadingsRequest) :
    Server PgState WriteAttempt ReadingsTurn (PaginatedResponse ReadingOut) ReadingOut where
  write := WriteAttempt.apply
  respond turn offset db :=
    let db₁ := writes turn.beforeCount db
    let db₂ := writes turn.beforeList db₁
    (db₂, (Routes.listReadings api turn.queries (request.turn turn.limit offset) db db₁
      db₂).toOption)
  items page := page.items
  limit page := page.limit

def SortOrder.before : SortOrder → Timestamptz → Timestamptz → Prop
  | .asc, t, u => t < u
  | .desc, t, u => u < t

private theorem toOption_eq_some {ε α : Type} {x : Except ε α} {a : α} :
    x.toOption = some a ↔ x = .ok a := by
  cases x <;> simp [Except.toOption]

private theorem bindReadingsFilter_parameter {pg : Asyncpg} {deviceId : String}
    {recordedFrom recordedTo : Option Datetime} {parameter : Option String}
    {filter : ReadingsFilter}
    (h : bindReadingsFilter pg deviceId recordedFrom recordedTo parameter = .ok filter) :
    filter.parameter = parameter := by
  simp only [bindReadingsFilter, bind, bind_ok, pure, Except.pure, Except.ok.injEq] at h
  obtain ⟨_, _, _, _, _, _, _, hparameter, rfl⟩ := h
  exact (bindNullableText_ok.mp hparameter).2

private theorem bound_turn {api : Api} {request : ReadingsRequest} {limit limit' : Option Int}
    {offset offset' : Nat} {query query' : ReadingsQueryParams}
    (h : api.query (request.turn limit offset) = .ok query)
    (h' : api.query (request.turn limit' offset') = .ok query') :
    api.bound (request.turn limit offset) query =
        api.bound (request.turn limit' offset') query' ∧ query.order = request.order := by
  obtain ⟨hfrom, hto, hparameter, _, _, horder⟩ := Api.query_ok.mp h
  obtain ⟨hfrom', hto', hparameter', _, _, _⟩ := Api.query_ok.mp h'
  have hfromEq := Except.ok.inj (hfrom.symm.trans hfrom')
  have htoEq := Except.ok.inj (hto.symm.trans hto')
  refine ⟨?_, horder⟩
  rw [Api.bound, Api.bound, hfromEq, htoEq, hparameter, hparameter']
  rfl

private theorem pairwise_before {filter : ReadingsFilter} {p : String}
    (hp : filter.parameter = some p) {order : SortOrder} (plan : Arrangement (readingsOrder order))
    (limit offset : Nat) (db : PgState) :
    (listReadingsSql plan filter limit offset db).Pairwise fun r s =>
      order.before r.recordedAt s.recordedAt := by
  have hperm := plan.perm (selected filter db)
  have hnodup : (plan.sort (selected filter db)).Nodup :=
    hperm.nodup_iff.mpr (selected_nodup filter db)
  refine List.Pairwise.sublist (window_sublist limit offset _) ?_
  apply ((plan.sorted _).and hnodup).imp_of_mem
  rintro r s hr hs ⟨hsorted, hne⟩
  have hinstant : r.recordedAt ≠ s.recordedAt := fun h =>
    hne (eq_of_recordedAt hp (hperm.mem_iff.mp hr) (hperm.mem_iff.mp hs) h)
  cases order <;> simp only [readingsOrder, decide_eq_true_eq] at hsorted
  · exact lt_of_le_of_ne hsorted hinstant
  · exact lt_of_le_of_ne hsorted hinstant.symm

private theorem readings_answer {api : Api} {request : ReadingsRequest} {turn : ReadingsTurn}
    {offset : Nat} {db : PgState} {page : PaginatedResponse ReadingOut}
    (h : ((readingsServer api request).respond turn offset db).2 = some page) :
    ∃ query filter, api.query (request.turn turn.limit offset) = .ok query ∧
      api.bound (request.turn turn.limit offset) query = .ok filter ∧
      1 ≤ page.limit ∧ page.items = (listReadingsSql (turn.queries.sort query.order) filter
        page.limit offset ((readingsServer api request).respond turn offset db).1).map
          readingToOut := by
  obtain ⟨_, query, filter, hquery, hfilter, _, _, _, _, rfl⟩ :=
    Routes.listReadings_ok.mp (toOption_eq_some.mp h)
  have hoffset : query.offset.val = offset := Int.ofNat.inj (Api.query_offset hquery)
  refine ⟨query, filter, hquery, hfilter, api.pageLimit_pos query, ?_⟩
  rw [Api.page, hoffset]
  rfl

/-- A reading that a walk has still to come to: it is stored, and its place is not before the
offset. -/
def Upcoming (filter : ReadingsFilter) (order : SortOrder) (row : ReadingRow) (db : PgState)
    (offset : Nat) : Prop :=
  row ∈ selected filter db ∧ offset ≤ rank (readingsOrder order) row (selected filter db)

theorem Upcoming.of_reaches {filter : ReadingsFilter} {order : SortOrder} {row : ReadingRow}
    {db db' : PgState} {offset : Nat} (h : Upcoming filter order row db offset)
    (hreach : Reaches db db') : Upcoming filter order row db' offset := by
  refine ⟨selected_of_reaches hreach h.1, h.2.trans ?_⟩
  exact rank_mono (selected_nodup filter db) fun _ => selected_of_reaches hreach

private theorem upcoming_answer {api : Api} {request : ReadingsRequest} {filter : ReadingsFilter}
    {query : ReadingsQueryParams} (hquery : api.query (request.turn none 0) = .ok query)
    (hfilter : api.bound (request.turn none 0) query = .ok filter) {p : String}
    (hp : filter.parameter = some p) {row : ReadingRow} {turn : ReadingsTurn} {db : PgState}
    {offset : Nat} {page : PaginatedResponse ReadingOut}
    (hpage : ((readingsServer api request).respond turn offset db).2 = some page)
    (h : Upcoming filter request.order row ((readingsServer api request).respond turn offset db).1
      offset) :
    readingToOut row ∈ page.items ∨ (page.limit ≤ page.items.length ∧
      Upcoming filter request.order row ((readingsServer api request).respond turn offset db).1
        (offset + page.limit)) := by
  obtain ⟨query', filter', hquery', hfilter', _, hitems⟩ := readings_answer hpage
  obtain ⟨hbound, horder⟩ := bound_turn hquery' hquery
  obtain rfl := Except.ok.inj ((hfilter'.symm.trans hbound).trans hfilter)
  obtain ⟨hmem, hoffset⟩ := h
  rw [← horder] at hoffset
  have hties := ties_selected hp query'.order hmem
  rw [hitems, List.length_map]
  rcases shown_or_later (refl_of_total (readingsOrder_total query'.order))
    (turn.queries.sort query'.order) hmem hties page.limit hoffset with
    hshown | ⟨hfull, hrest⟩
  · exact .inl (List.mem_map_of_mem hshown)
  · exact .inr ⟨hfull.ge, hmem, horder ▸ hrest⟩

private theorem readings_shown {api : Api} {request : ReadingsRequest} {filter : ReadingsFilter}
    {query : ReadingsQueryParams} (hquery : api.query (request.turn none 0) = .ok query)
    (hfilter : api.bound (request.turn none 0) query = .ok filter) {p : String}
    (hp : filter.parameter = some p) {db : PgState} {row : ReadingRow}
    (hrow : row ∈ selected filter db) {walk : Walk PgState (PaginatedResponse ReadingOut)}
    {moves : List (Move WriteAttempt ReadingsTurn)}
    (hrun : run (readingsServer api request).step (.start db) moves = some walk)
    (hfinished : walk.finished = true) :
    (readingsServer api request).Shown (· = readingToOut row) walk := by
  have hturn : ∀ (turn : ReadingsTurn) (offset : Nat) (st : PgState),
      Reaches st ((readingsServer api request).respond turn offset st).1 :=
    fun turn _ st => (reaches_writes turn.beforeCount st).trans (reaches_writes _ _)
  refine Server.walk_shows (Upcoming filter request.order row) ?_ ?_ ?_ ⟨hrow, Nat.zero_le _⟩
    (along_of_forall (fun _ _ => trivial) _ _) hrun hfinished
  · intro s attempt _ _ hahead
    exact hahead.of_reaches (reaches_apply attempt s.store)
  · intro s turn _ _ hahead _
    exact hahead.of_reaches (hturn turn s.offset s.store)
  · intro s turn page _ _ hahead hpage
    rcases upcoming_answer hquery hfilter hp hpage
      (hahead.of_reaches (hturn turn s.offset s.store)) with hshown | hlater
    · exact .inl ⟨_, hshown, rfl⟩
    · exact .inr hlater

/-- Walking through the readings of one parameter shows every reading that was stored at the start,
as it was then, whatever is written on the way, and the instants on each page are strictly
monotone. -/
theorem parameter_walk_complete {api : Api} {request : ReadingsRequest} {p : String}
    (hp : request.parameter = some p) {db : PgState}
    {walk : Walk PgState (PaginatedResponse ReadingOut)}
    {moves : List (Move WriteAttempt ReadingsTurn)}
    (hrun : run (readingsServer api request).step (.start db) moves = some walk) :
    (walk.finished = true → ∀ row ∈ api.matching (request.turn none 0) db,
        (readingsServer api request).Shown (· = readingToOut row) walk) ∧
      ∀ page ∈ walk.pages, 1 ≤ page.limit ∧
        page.items.Pairwise fun r s => request.order.before r.recordedAt s.recordedAt := by
  have hparameter : ∀ {limit offset query filter},
      api.query (request.turn limit offset) = .ok query →
      api.bound (request.turn limit offset) query = .ok filter → filter.parameter = some p := by
    intro _ _ _ _ hquery hfilter
    rw [bindReadingsFilter_parameter hfilter, (Api.query_ok.mp hquery).2.2.1]
    exact hp
  constructor
  · intro hfinished row hrow
    obtain ⟨query, filter, hquery, hfilter, hrow⟩ := Api.mem_matching.mp hrow
    exact readings_shown hquery hfilter (hparameter hquery hfilter) hrow hrun hfinished
  · refine Server.walk_pages ?_ hrun
    intro turn offset st page hpage
    obtain ⟨query, filter, hquery, hfilter, hlimit, hitems⟩ := readings_answer hpage
    refine ⟨hlimit, ?_⟩
    rw [hitems, List.pairwise_map, ← (bound_turn hquery hquery).2]
    exact pairwise_before (hparameter hquery hfilter) _ _ _ _

def WriteAttempt.localStack (event : ReadingEvent) : WriteAttempt := ⟨.localStack, event, .none⟩

/-- A late event lands between two pages. -/
theorem parameter_walk_complete_late :
    let db := writes [.localStack (temperatureAt 0 20), .localStack (temperatureAt 60 21)] .empty
    let request : ReadingsRequest := { deviceId := "sensor-1", parameter := some "temperature" }
    let page : Move WriteAttempt ReadingsTurn :=
      .request { limit := some 1, queries := .preferring fun _ => true }
    ∃ walk, run (readingsServer .localStack request).step (.start db)
        [page, .write (.localStack (temperatureAt 30 25)), page, page, page] = some walk ∧
      walk.finished = true ∧ (readingsServer .localStack request).Shown
        (· = ⟨"sensor-1", 0, "temperature", .finite 20, "C"⟩) walk := by
  intro db request page
  have hend : (run (readingsServer .localStack request).step (.start db)
      [page, .write (.localStack (temperatureAt 30 25)), page, page, page]).map Walk.finished =
        some true := by
    decide +kernel
  obtain ⟨walk, hrun, hfinished⟩ := Option.map_eq_some_iff.mp hend
  refine ⟨walk, hrun, hfinished, (parameter_walk_complete rfl hrun).1 hfinished
    ⟨"sensor-1", 0, "temperature", .finite 20, "C"⟩ ?_⟩
  decide +kernel

/-! ## The devices -/

structure DevicesTurn where
  limit : Option Int := none
  queries : DevicesQueries
  beforeList : List WriteAttempt := []

def devicesServer (settings : Settings) :
    Server PgState WriteAttempt DevicesTurn (PaginatedResponse DeviceOut) DeviceOut where
  write := WriteAttempt.apply
  respond turn offset db :=
    let db' := writes turn.beforeList db
    (db', (Routes.listDevices settings turn.queries turn.limit offset db db').toOption)
  items page := page.items
  limit page := page.limit

def seenAfter (d : String) (db : PgState) : Nat :=
  match db.devices.lookup d with
  | none => 0
  | some row => rank devicesOrder row db.devices.rows

def Untied (d : String) (db : PgState) : Prop :=
  ∀ row ∈ db.devices.rows, ∀ other ∈ db.devices.rows, row.deviceId = d →
    other.lastSeenAt = row.lastSeenAt → other.deviceId = d

instance (d : String) (db : PgState) : Decidable (Untied d db) :=
  inferInstanceAs (Decidable (∀ row ∈ db.devices.rows, ∀ other ∈ db.devices.rows, _ → _ → _))

/-- No event takes `d` from the part of the list that is still to be read to the part that has been
read. -/
def KeepsAhead (d : String) (offset : Nat) (db db' : PgState) : Prop :=
  offset ≤ seenAfter d db → offset ≤ seenAfter d db'

instance (d : String) (offset : Nat) (db db' : PgState) :
    Decidable (KeepsAhead d offset db db') :=
  inferInstanceAs (Decidable (_ → _))

/-- What a step must not do to a device that is not shown yet. -/
def SparesDevice (d : String) (walk : Walk PgState (PaginatedResponse DeviceOut)) :
    Move WriteAttempt DevicesTurn → Prop
  | .write attempt => KeepsAhead d walk.offset walk.store (attempt.apply walk.store)
  | .request turn =>
    KeepsAhead d walk.offset walk.store (writes turn.beforeList walk.store) ∧
      Untied d (writes turn.beforeList walk.store)

instance (d : String) (walk : Walk PgState (PaginatedResponse DeviceOut)) :
    ∀ move, Decidable (SparesDevice d walk move)
  | .write _ => inferInstanceAs (Decidable (KeepsAhead _ _ _ _))
  | .request _ => inferInstanceAs (Decidable (_ ∧ _))

private theorem ties_devices {d : String} {db : PgState} (huntied : Untied d db) {row : DeviceRow}
    (hrow : db.devices.lookup d = some row) : ties devicesOrder row db.devices.rows = 1 := by
  have hmem := Table.mem_of_lookup hrow
  have hid : row.deviceId = d := Table.key_of_lookup hrow
  refine ties_eq_one (List.Nodup.of_map _ db.devices.nodup) hmem fun other hother => ?_
  have htied : tied devicesOrder other row = true ↔ other.lastSeenAt = row.lastSeenAt := by
    simp only [tied, devicesOrder, Bool.and_eq_true, decide_eq_true_eq]
    exact and_comm.trans le_antisymm_iff.symm
  rw [htied]
  refine ⟨fun h => Table.eq_of_key hother hmem ?_, fun h => h ▸ rfl⟩
  exact (huntied row hmem other hother hid h).trans hid.symm

private theorem devices_answer {settings : Settings} {d : String} {turn : DevicesTurn}
    {db : PgState} {offset : Nat} {page : PaginatedResponse DeviceOut}
    (hpage : ((devicesServer settings).respond turn offset db).2 = some page)
    (hd : (writes turn.beforeList db).devices.lookup d ≠ none)
    (huntied : Untied d (writes turn.beforeList db))
    (hahead : offset ≤ seenAfter d (writes turn.beforeList db)) :
    (∃ item ∈ page.items, item.deviceId = d) ∨ (page.limit ≤ page.items.length ∧
      offset + page.limit ≤ seenAfter d (writes turn.beforeList db)) := by
  obtain ⟨_, hoffset, _, hids⟩ := Routes.listDevices_ok (toOption_eq_some.mp hpage)
  rw [Int.ofNat.inj hoffset] at hids
  obtain ⟨row, hrow⟩ := Option.ne_none_iff_exists'.mp hd
  simp only [seenAfter, hrow] at hahead ⊢
  rcases shown_or_later (refl_of_total devicesOrder_total) turn.queries.sort
    (Table.mem_of_lookup hrow) (ties_devices huntied hrow) page.limit hahead with
    hshown | ⟨hfull, hlater⟩
  · left
    have hitem : d ∈ page.items.map DeviceOut.deviceId := by
      rw [hids]
      exact List.mem_map.mpr ⟨row, hshown, Table.key_of_lookup hrow⟩
    exact List.mem_map.mp hitem
  · refine .inr ⟨?_, hlater⟩
    rw [← List.length_map (f := DeviceOut.deviceId), hids, List.length_map]
    exact hfull.ge

/-- An event of another device that is newer than all `d` has sent leaves `d` where it is, or moves
it back. -/
theorem keepsAhead_of_newer {d : String} {offset : Nat} {db : PgState} {row : DeviceRow}
    (hrow : db.devices.lookup d = some row) {w : Write} (hother : w.event.deviceId.val ≠ d)
    (hnewer : row.lastSeenAt < w.recordedAt) : KeepsAhead d offset db (w.apply db) := by
  have hrow' : (w.apply db).devices.lookup d = some row := by
    rw [w.lookup_apply_devices, if_neg hother, hrow]
  have hlater : ∀ r : DeviceRow, precedes devicesOrder r row = true ↔
      row.lastSeenAt < r.lastSeenAt := by
    intro r
    simp only [precedes, devicesOrder, Bool.and_eq_true, Bool.not_eq_true', decide_eq_true_eq,
      decide_eq_false_iff_not, not_le]
    exact and_iff_right_of_imp le_of_lt
  have hcount : ∀ st : PgState, rank devicesOrder row st.devices.rows =
      ((st.devices.rows.filter (precedes devicesOrder · row)).map DeviceRow.deviceId).length := by
    intro st
    rw [List.length_map, ← List.countP_eq_length_filter]
    rfl
  have hnodup : ((db.devices.rows.filter (precedes devicesOrder · row)).map
      DeviceRow.deviceId).Nodup :=
    List.Nodup.sublist (List.filter_sublist.map _) db.devices.nodup
  have hmono : rank devicesOrder row db.devices.rows ≤
      rank devicesOrder row (w.apply db).devices.rows := by
    rw [hcount, hcount]
    refine length_le_of_subset hnodup fun e he => ?_
    obtain ⟨r, hr, rfl⟩ := List.mem_map.mp he
    obtain ⟨hmem, hr⟩ := List.mem_filter.mp hr
    have hlookup := w.lookup_apply_devices db r.deviceId
    by_cases hid : w.event.deviceId.val = r.deviceId
    · rw [if_pos hid] at hlookup
      refine List.mem_map.mpr ⟨_, List.mem_filter.mpr ⟨Table.mem_of_lookup hlookup, ?_⟩,
        Table.key_of_lookup hlookup⟩
      rw [hlater, registered_lastSeenAt]
      exact hnewer
    · rw [if_neg hid, Table.lookup_of_mem hmem] at hlookup
      exact List.mem_map_of_mem (List.mem_filter.mpr ⟨Table.mem_of_lookup hlookup, hr⟩)
  intro hahead
  simp only [seenAfter, hrow, hrow'] at hahead ⊢
  exact hahead.trans hmono

/-- Walking through the devices, in the order of how recently they were seen, shows every device
that was registered at the start and which, until it is shown, no event takes from the part of the
list still to be read to the part that has been read; reading a page, no other device has its
`last_seen_at`. -/
theorem devices_walk_shows {settings : Settings} {db : PgState}
    {walk : Walk PgState (PaginatedResponse DeviceOut)}
    {moves : List (Move WriteAttempt DevicesTurn)}
    (hrun : run (devicesServer settings).step (.start db) moves = some walk)
    (hfinished : walk.finished = true) {d : String} (hd : db.devices.lookup d ≠ none)
    (hspared : Along (devicesServer settings).step
      (fun s move => ¬ (devicesServer settings).Shown (·.deviceId = d) s → SparesDevice d s move)
      (.start db) moves) :
    (devicesServer settings).Shown (·.deviceId = d) walk := by
  have hregistered : ∀ attempts {st : PgState}, st.devices.lookup d ≠ none →
      (writes attempts st).devices.lookup d ≠ none :=
    fun attempts st h => registered_of_reaches (reaches_writes attempts st) h
  refine Server.walk_shows (fun st offset => st.devices.lookup d ≠ none ∧
    offset ≤ seenAfter d st) ?_ ?_ ?_ ⟨hd, Nat.zero_le _⟩ hspared hrun hfinished
  · intro s attempt hok hshown hahead
    exact ⟨registered_of_reaches (reaches_apply attempt s.store) hahead.1, hok hshown hahead.2⟩
  · intro s turn hok hshown hahead _
    exact ⟨hregistered turn.beforeList hahead.1, (hok hshown).1 hahead.2⟩
  · intro s turn page hok hshown hahead hpage
    obtain ⟨hkeeps, huntied⟩ := hok hshown
    rcases devices_answer hpage (hregistered _ hahead.1) huntied (hkeeps hahead.2) with
      hitem | ⟨hfull, hlater⟩
    · exact .inl hitem
    · exact .inr ⟨hfull, hregistered _ hahead.1, hlater⟩

def secondDeviceAt (wall : Int) : ReadingEvent :=
  { temperatureAt wall 20 with deviceId := ⟨"sensor-2", by decide, by decide⟩ }

/-- While the first device is shown, the second one sends a fresh event. It is now first in the
list, and the walk does not meet it. -/
theorem fresh_event_hides_device :
    let db := writes [.localStack (secondDeviceAt 0), .localStack (temperatureAt 60 21)] .empty
    let page : Move WriteAttempt DevicesTurn :=
      .request { limit := some 1, queries :=
        ⟨.preferring devicesOrder_trans devicesOrder_total fun _ => true, none, none⟩ }
    db.devices.lookup "sensor-2" ≠ none ∧ ∃ walk, run (devicesServer .default).step (.start db)
        [page, .write (.localStack (secondDeviceAt 120)), page, page] = some walk ∧
      walk.finished = true ∧ ¬ (devicesServer .default).Shown (·.deviceId = "sensor-2") walk := by
  intro db page
  have hend : (run (devicesServer .default).step (.start db)
      [page, .write (.localStack (secondDeviceAt 120)), page, page]).map
        (fun walk => (walk.finished,
          decide ((devicesServer .default).Shown (·.deviceId = "sensor-2") walk))) =
      some (true, false) := by
    decide +kernel
  obtain ⟨walk, hrun, hwalk⟩ := Option.map_eq_some_iff.mp hend
  obtain ⟨hfinished, hshown⟩ := Prod.mk.inj hwalk
  exact ⟨by decide +kernel, walk, hrun, hfinished, of_decide_eq_false hshown⟩

/-- A fresh event of a device that has been shown hides nothing. -/
theorem devices_walk_shows_second :
    let db := writes [.localStack (secondDeviceAt 0), .localStack (temperatureAt 60 21)] .empty
    let page : Move WriteAttempt DevicesTurn :=
      .request { limit := some 1, queries :=
        ⟨.preferring devicesOrder_trans devicesOrder_total fun _ => true, none, none⟩ }
    ∃ walk, run (devicesServer .default).step (.start db)
        [page, .write (.localStack (temperatureAt 120 21)), page, page] = some walk ∧
      (devicesServer .default).Shown (·.deviceId = "sensor-2") walk := by
  intro db page
  have hend : (run (devicesServer .default).step (.start db)
      [page, .write (.localStack (temperatureAt 120 21)), page, page]).map Walk.finished =
        some true := by
    decide +kernel
  obtain ⟨walk, hrun, hfinished⟩ := Option.map_eq_some_iff.mp hend
  refine ⟨walk, hrun, devices_walk_shows hrun hfinished (by decide +kernel) ?_⟩
  decide +kernel

end OpenWater.Backend
