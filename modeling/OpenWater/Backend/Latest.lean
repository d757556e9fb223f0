import OpenWater.Backend.Pages

/-!
# Latest readings and history

`list_latest_readings` sorts by parameter and instant and keeps one row of each parameter;
`list_readings` selects one parameter, sorts by instant and keeps one row. Both rows are the same
one, because no two readings of a device and a parameter have the same instant.
-/

namespace OpenWater.Backend

open Framework Ingestion

def ReadingsFilter.history (deviceId : String) (parameter : Option String) : ReadingsFilter :=
  ⟨deviceId, none, none, parameter⟩

theorem latestReadingsSql_eq {collation : Collation} (plan : Arrangement (latestOrder collation))
    (deviceId : String) (parameter : Option String) (db : PgState) :
    latestReadingsSql plan deviceId parameter db =
      distinctOn ReadingRow.parameter (plan.sort (selected (.history deviceId parameter) db)) := by
  have hfilter : selected (.history deviceId parameter) db = db.readings.rows.filter fun row =>
      row.deviceId = deviceId && parameter.all (row.parameter = ·) := by
    refine List.filter_congr fun row _ => ?_
    rw [ReadingsFilter.selects, ReadingsFilter.history, Option.all_none, Option.all_none,
      Bool.and_true, Bool.and_true]
  rw [hfilter, latestReadingsSql]

theorem latestReadingsSql_sublist {collation : Collation}
    (plan : Arrangement (latestOrder collation)) (deviceId : String) (parameter : Option String)
    (db : PgState) : (latestReadingsSql plan deviceId parameter db).Sublist
      (plan.sort (selected (.history deviceId parameter) db)) := by
  rw [latestReadingsSql_eq]
  exact List.destutter_sublist _ _

theorem mem_history {deviceId : String} {parameter : Option String} {db : PgState}
    {row : ReadingRow} : row ∈ selected (.history deviceId parameter) db ↔
      row ∈ db.readings.rows ∧ row.deviceId = deviceId ∧ ∀ q ∈ parameter, row.parameter = q := by
  simp [mem_selected, ReadingsFilter.selects_iff, ReadingsFilter.history]

theorem latestOrder_grouped (collation : Collation) (r s t : ReadingRow)
    (hrs : latestOrder collation r s = true) (hst : latestOrder collation s t = true)
    (h : r.parameter = t.parameter) : s.parameter = t.parameter := by
  by_contra hne
  have hne' : r.parameter ≠ s.parameter := fun hr => hne (hr.symm.trans h)
  rw [latestOrder, if_neg hne'] at hrs
  rw [latestOrder, if_neg hne] at hst
  exact hne (collation.antisymm _ _ hst (h ▸ hrs))

private theorem first_of_latest {collation : Collation} {plan : Arrangement (latestOrder collation)}
    {deviceId : String} {parameter : Option String} {db : PgState} {row : ReadingRow}
    (hrow : row ∈ latestReadingsSql plan deviceId parameter db)
    (history : Arrangement (readingsOrder .desc)) :
    listReadingsSql history (.history deviceId (some row.parameter)) 1 0 db = [row] := by
  rw [latestReadingsSql_eq] at hrow
  have hsorted := plan.sorted (selected (.history deviceId parameter) db)
  have hperm := plan.perm (selected (.history deviceId parameter) db)
  have hfind := (mem_distinctOn (latestOrder_grouped collation) hsorted).mp hrow
  obtain ⟨hmem, hid, hparameter⟩ :=
    mem_history.mp (hperm.mem_iff.mp (List.mem_of_find?_eq_some hfind))
  have hown : row ∈ selected (.history deviceId (some row.parameter)) db :=
    mem_history.mpr ⟨hmem, hid, fun q hq => Option.some.inj hq⟩
  refine window_first (refl_of_total (readingsOrder_total .desc)) history hown
    (ties_selected rfl .desc hown) fun s hs => ?_
  obtain ⟨hsmem, hsid, hsparameter⟩ := mem_history.mp hs
  have hs' : s ∈ selected (.history deviceId parameter) db :=
    mem_history.mpr ⟨hsmem, hsid, fun q hq => (hsparameter _ rfl).trans (hparameter q hq)⟩
  have hle := le_of_find (refl_of_total (latestOrder_total collation)) hsorted hfind
    (hperm.mem_iff.mpr hs') (by simpa using hsparameter _ rfl)
  rwa [latestOrder, if_pos (hsparameter _ rfl).symm] at hle

private theorem listReadings_history (pg : Asyncpg) (history : Arrangement (readingsOrder .desc))
    {deviceId : String} (hd : '\x00' ∉ deviceId.toList) {parameter : Option String}
    (hp : ∀ q ∈ parameter, '\x00' ∉ q.toList) (db : PgState) :
    listReadings pg history none deviceId none none parameter 1 0 db =
      .ok (listReadingsSql history (.history deviceId parameter) 1 0 db) := by
  refine listReadings_ok.mpr ⟨rfl, by norm_num, by norm_num, _, ?_, rfl⟩
  simp only [bindReadingsFilter, bindNullableTimestamptz, bindText_ok.mpr ⟨hd, rfl⟩,
    bindNullableText_ok.mpr ⟨hp, rfl⟩, bind, Except.bind]
  rfl

private theorem bound_alike (pg : Asyncpg) {collation : Collation}
    (plan : Arrangement (latestOrder collation)) (history : Arrangement (readingsOrder .desc))
    (deviceId : String) (parameter : Option String) (db : PgState) :
    ('\x00' ∉ deviceId.toList ∧ listLatestReadings plan none deviceId parameter db =
        .ok (latestReadingsSql plan deviceId parameter db) ∧
      listReadings pg history none deviceId none none parameter 1 0 db =
        .ok (listReadingsSql history (.history deviceId parameter) 1 0 db)) ∨
    ∃ err, listLatestReadings plan none deviceId parameter db = .error (.sql err) ∧
      listReadings pg history none deviceId none none parameter 1 0 db = .error (.sql err) := by
  cases hd : bindText deviceId with
  | error err =>
    exact .inr ⟨err, by simp [listLatestReadings, hd, fetch, Except.mapError, bind, Except.bind],
      by simp [listReadings, bindReadingsFilter, hd, fetch, Except.mapError, bind, Except.bind]⟩
  | ok d =>
    obtain ⟨hdevice, rfl⟩ := bindText_ok.mp hd
    cases hp : bindNullableText parameter with
    | error err =>
      exact .inr ⟨err,
        by simp [listLatestReadings, hd, hp, fetch, Except.mapError, bind, Except.bind],
        by simp [listReadings, bindReadingsFilter, bindNullableTimestamptz, hd, hp, fetch,
          Except.mapError, bind, Except.bind]⟩
    | ok p =>
      obtain ⟨hparameter, rfl⟩ := bindNullableText_ok.mp hp
      refine .inl ⟨hdevice, ?_, listReadings_history pg history hdevice hparameter db⟩
      simp [listLatestReadings, hd, hp, fetch, Except.mapError, bind, Except.bind, pure,
        Except.pure]

private theorem latestReadings_notFound_iff {collation : Collation}
    {plan : Arrangement (latestOrder collation)} {deviceId : String} {parameter : Option String}
    {db db' : PgState} (hexists : ensureDeviceExists none deviceId db = .ok ()) :
    latestReadings plan none none deviceId parameter db db' =
        .error (readingNotFound deviceId parameter) ↔
      listLatestReadings plan none deviceId parameter db' = .ok [] := by
  have hsql : ∀ err, readingNotFound deviceId parameter ≠ .sql err := by
    intro err
    cases parameter <;> simp [readingNotFound]
  unfold latestReadings
  rw [hexists]
  rcases bound_alike .utc plan (.stable _ (readingsOrder_trans .desc) (readingsOrder_total .desc))
    deviceId parameter db' with
      ⟨_, hlatest, _⟩ | ⟨err, hlatest, _⟩
  · rw [hlatest]
    cases hrows : latestReadingsSql plan deviceId parameter db' with
    | nil => exact iff_of_true rfl rfl
    | cons row rows => simp [bind, Except.bind, pure, Except.pure]
  · rw [hlatest]
    simpa [bind, Except.bind] using (hsql err).symm

private theorem latest_parameters {collation : Collation}
    (plan : Arrangement (latestOrder collation)) (deviceId : String) (parameter : Option String)
    (db : PgState) :
    ((latestReadingsSql plan deviceId parameter db).map ReadingRow.parameter).Nodup ∧
      ∀ p, p ∈ (latestReadingsSql plan deviceId parameter db).map ReadingRow.parameter ↔
        (∀ q ∈ parameter, p = q) ∧
          ∃ row ∈ db.readings.rows, row.deviceId = deviceId ∧ row.parameter = p := by
  have hgroup := latestOrder_grouped collation
  have hsorted := plan.sorted (selected (.history deviceId parameter) db)
  have hperm := plan.perm (selected (.history deviceId parameter) db)
  rw [latestReadingsSql_eq]
  refine ⟨nodup_distinctOn hgroup hsorted (hperm.nodup_iff.mpr (selected_nodup _ _)), ?_⟩
  intro p
  rw [exists_mem_distinctOn hgroup hsorted]
  simp only [hperm.mem_iff, mem_history]
  constructor
  · rintro ⟨row, ⟨hmem, hid, hparameter⟩, rfl⟩
    exact ⟨hparameter, row, hmem, hid, rfl⟩
  · rintro ⟨hparameter, row, hmem, hid, rfl⟩
    exact ⟨row, ⟨hmem, hid, hparameter⟩, rfl⟩

private theorem latest_eq_nil_iff {collation : Collation}
    (plan : Arrangement (latestOrder collation)) (history : Arrangement (readingsOrder .desc))
    (deviceId : String) (parameter : Option String) (db : PgState) :
    latestReadingsSql plan deviceId parameter db = [] ↔
      listReadingsSql history (.history deviceId parameter) 1 0 db = [] := by
  rw [latestReadingsSql_eq, distinctOn_eq_nil, plan.sort_eq_nil, listReadingsSql,
    ← List.length_eq_zero_iff, ← List.length_eq_zero_iff (l := window _ _ _), length_window,
    (history.perm _).length_eq]
  omega

/-- The latest readings agree with the history. Both methods fail on the same arguments. Otherwise
there is one latest reading for each parameter under which the device has a matching one, and it is
the single row of that parameter's history, newest first, with limit 1, however PostgreSQL sorts. A
device that exists has no latest reading exactly if the matching history is empty. -/
theorem latest_agrees_with_history {collation : Collation}
    (plan : Arrangement (latestOrder collation))
    (pg : Asyncpg) (history : Arrangement (readingsOrder .desc)) (deviceId : String)
    (parameter : Option String) {db : PgState} (hreach : Reachable db) :
    (∀ err, listLatestReadings plan none deviceId parameter db = .error err ↔
        listReadings pg history none deviceId none none parameter 1 0 db = .error err) ∧
      (∀ rows, listLatestReadings plan none deviceId parameter db = .ok rows →
        (rows.map ReadingRow.parameter).Nodup ∧
        (∀ p, p ∈ rows.map ReadingRow.parameter ↔ (∀ q ∈ parameter, p = q) ∧
          ∃ row ∈ db.readings.rows, row.deviceId = deviceId ∧ row.parameter = p) ∧
        ∀ row ∈ rows, listReadings pg history none deviceId none none (some row.parameter) 1 0 db =
          .ok [row]) ∧
      ∀ db₀, ensureDeviceExists none deviceId db₀ = .ok () →
        (latestReadings plan none none deviceId parameter db₀ db =
            .error (readingNotFound deviceId parameter) ↔
          listReadings pg history none deviceId none none parameter 1 0 db = .ok []) := by
  refine ⟨?_, ?_, ?_⟩
  · intro err
    rcases bound_alike pg plan history deviceId parameter db with ⟨_, hl, hh⟩ | ⟨err', hl, hh⟩
    · rw [hl, hh]
      simp
    · rw [hl, hh]
  · intro rows hrows
    rcases bound_alike pg plan history deviceId parameter db with
      ⟨hd, hl, _⟩ | ⟨err', hl, _⟩
    · obtain rfl := Except.ok.inj (hl.symm.trans hrows)
      obtain ⟨hnodup, hparameters⟩ := latest_parameters plan deviceId parameter db
      refine ⟨hnodup, hparameters, ?_⟩
      intro row hrow
      have hsorted := (latestReadingsSql_sublist plan deviceId parameter db).subset hrow
      have hmem := mem_history.mp ((plan.perm _).mem_iff.mp hsorted)
      rw [listReadings_history pg history hd ?_ db, first_of_latest hrow history]
      rintro _ ⟨⟩
      exact hreach.parameter_text row hmem.1
    · rw [hl] at hrows
      cases hrows
  · intro db₀ hexists
    rw [latestReadings_notFound_iff hexists]
    rcases bound_alike pg plan history deviceId parameter db with
      ⟨_, hl, hh⟩ | ⟨err', hl, hh⟩
    · rw [hl, hh, Except.ok.injEq, Except.ok.injEq, latest_eq_nil_iff plan history]
    · rw [hl, hh]

/-- Two events of one device, and the later reading of the two. -/
theorem latest_agrees_with_history_pair :
    let db₁ := (Database.localStack.writeOnce (temperatureAt 60 21) .none PgState.empty).state
    let db₂ := (Database.localStack.writeOnce (temperatureAt 0 20) .none db₁).state
    let history := ReadingsQueries.preferring fun _ => true
    ∃ rows, listLatestReadings (sortPlan .codepoints) none "sensor-1" none db₂ = .ok rows ∧
      "temperature" ∈ rows.map ReadingRow.parameter ∧
      ∀ row ∈ rows, listReadings .utc (history.sort .desc) none "sensor-1" none none
        (some row.parameter) 1 0 db₂ = .ok [row] := by
  intro db₁ db₂ history
  have hreach : Reachable db₂ := .tail (.single ⟨.localStack, _, .none, rfl⟩)
    ⟨.localStack, _, .none, rfl⟩
  have hrows : listLatestReadings (sortPlan .codepoints) none "sensor-1" none db₂ = .ok _ :=
    listLatestReadings_ok (sortPlan .codepoints) (by decide) db₂
  obtain ⟨_, hparameters, hfirst⟩ := (latest_agrees_with_history (sortPlan .codepoints) .utc
    (history.sort .desc) "sensor-1" none hreach).2.1 _ hrows
  refine ⟨_, hrows, (hparameters "temperature").mpr ⟨by simp, ?_⟩, hfirst⟩
  decide +kernel

end OpenWater.Backend
