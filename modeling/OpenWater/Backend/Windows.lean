import OpenWater.Backend.Latest

/-!
# Other ways through a history

Without ties the readings of one parameter have one order. So the newest-first pages are the
oldest-first ones from the other end, and a client can go on by the instant it has come to instead
of by an offset.
-/

namespace OpenWater.Backend

open Framework Ingestion

variable {filter : ReadingsFilter} {p : String} {db : PgState}

private theorem readingsOrder_antisymm (hp : filter.parameter = some p) (order : SortOrder) :
    ∀ r ∈ selected filter db, ∀ s ∈ selected filter db,
      readingsOrder order r s = true → readingsOrder order s r = true → r = s := by
  intro r hr s hs hrs hsr
  apply eq_of_recordedAt hp hr hs
  cases order with
  | asc => exact le_antisymm (of_decide_eq_true hrs) (of_decide_eq_true hsr)
  | desc => exact le_antisymm (of_decide_eq_true hsr) (of_decide_eq_true hrs)

private theorem sort_desc_eq (hp : filter.parameter = some p)
    (asc : Arrangement (readingsOrder .asc))
    (desc : Arrangement (readingsOrder .desc)) :
    desc.sort (selected filter db) = (asc.sort (selected filter db)).reverse := by
  have hperm : (desc.sort (selected filter db)).Perm (asc.sort (selected filter db)).reverse :=
    (desc.perm _).trans ((asc.perm _).symm.trans (List.reverse_perm _).symm)
  have hsorted : (asc.sort (selected filter db)).reverse.Pairwise
      fun r s => readingsOrder .desc r s = true :=
    List.pairwise_reverse.mpr (asc.sorted _)
  refine List.Perm.eq_of_pairwise ?_ (desc.sorted _) hsorted hperm
  intro r s hr hs
  have hs' := (asc.perm _).mem_iff.mp (List.mem_reverse.mp hs)
  exact readingsOrder_antisymm hp .desc r ((desc.perm _).mem_iff.mp hr) s hs'

/-- Each page of a parameter's history, newest first, is the page from the other end of the history
that begins with the oldest reading, turned round. -/
theorem desc_mirrors_asc (hp : filter.parameter = some p)
    (asc : Arrangement (readingsOrder .asc)) (desc : Arrangement (readingsOrder .desc))
    (limit offset : Nat) :
    let total := (selected filter db).length
    listReadingsSql desc filter limit offset db =
      (listReadingsSql asc filter (total - offset - (total - (offset + limit)))
        (total - (offset + limit)) db).reverse := by
  intro total
  have hlength : (asc.sort (selected filter db)).length = total := (asc.perm _).length_eq
  rw [listReadingsSql, sort_desc_eq hp asc desc, window_reverse, hlength]
  rfl

/-- The newest of two readings is the last page of the oldest-first history. -/
theorem desc_mirrors_asc_two : ∃ db,
    commitEvents .utc [temperatureAt 0 20, temperatureAt 60 21] PgState.empty = .ok db ∧
      let filter : ReadingsFilter := .history "sensor-1" (some "temperature")
      let queries := ReadingsQueries.preferring fun _ => true
      let page := listReadingsSql (queries.sort .desc) filter 1 0 db
      page = [⟨"sensor-1", 60, "temperature", .finite 21, "C"⟩] ∧
        page = (listReadingsSql (queries.sort .asc) filter 1 1 db).reverse := by
  refine ⟨_, rfl, by decide +kernel, ?_⟩
  exact desc_mirrors_asc rfl _ _ 1 0

/-! ## Going on from an instant -/

def ReadingsFilter.since (filter : ReadingsFilter) (t : Timestamptz) : ReadingsFilter :=
  { filter with recordedFrom := some t }

private theorem selected_since {t : Timestamptz} (hfrom : ∀ f ∈ filter.recordedFrom, f ≤ t) :
    (selected filter db).filter (fun row => !decide (row.recordedAt < t)) =
      selected (filter.since t) db := by
  rw [selected, selected, List.filter_filter]
  refine List.filter_congr fun row _ => ?_
  rw [Bool.eq_iff_iff, Bool.and_eq_true, ReadingsFilter.selects_iff, ReadingsFilter.selects_iff]
  simp only [ReadingsFilter.since, Bool.not_eq_true', decide_eq_false_iff_not, not_lt,
    Option.mem_def, Option.some.injEq, forall_eq']
  constructor
  · rintro ⟨hsince, hd, _, hto, hparameter⟩
    exact ⟨hd, hsince, hto, hparameter⟩
  · rintro ⟨hd, hsince, hto, hparameter⟩
    exact ⟨hsince, hd, fun f hf => (hfrom f hf).trans hsince, hto, hparameter⟩

private theorem sort_asc_since (hp : filter.parameter = some p)
    (plan : Arrangement (readingsOrder .asc))
    {t : Timestamptz} (hfrom : ∀ f ∈ filter.recordedFrom, f ≤ t) :
    plan.sort (selected filter db) =
      plan.sort ((selected filter db).filter fun row => decide (row.recordedAt < t)) ++
        plan.sort (selected (filter.since t) db) := by
  rw [← selected_since hfrom]
  apply plan.sort_split _ ?_ (readingsOrder_antisymm hp .asc)
  intro r _ s _ hr hs
  have hlt : r.recordedAt < t := of_decide_eq_true hr
  have hle : t ≤ s.recordedAt := not_lt.mp (of_decide_eq_false hs)
  exact decide_eq_true (hlt.le.trans hle)

private theorem index_since (hp : filter.parameter = some p)
    (plan : Arrangement (readingsOrder .asc))
    {r : ReadingRow} {j : Nat}
    (hr : (plan.sort (selected (filter.since r.recordedAt) db))[j]? = some r) : j = 0 := by
  have hp' : (filter.since r.recordedAt).parameter = some p := hp
  obtain ⟨hj, hget⟩ := List.getElem?_eq_some_iff.mp hr
  have hmem : ∀ {s}, s ∈ plan.sort (selected (filter.since r.recordedAt) db) →
      s ∈ selected (filter.since r.recordedAt) db := (plan.perm _).mem_iff.mp
  by_contra hne
  have hle := List.pairwise_iff_getElem.mp (plan.sorted (selected (filter.since r.recordedAt) db))
    0 j (by omega) hj (by omega)
  rw [hget] at hle
  have hfirst := hmem (List.getElem_mem (l := plan.sort _) (by omega : 0 < _))
  obtain ⟨_, hsince, _⟩ := ReadingsFilter.selects_iff.mp (mem_selected.mp hfirst).2
  have hsame := eq_of_recordedAt hp' hfirst (hmem (List.mem_of_getElem? hr))
    (le_antisymm (of_decide_eq_true hle) (hsince _ rfl))
  have hnodup : (plan.sort (selected (filter.since r.recordedAt) db)).Nodup :=
    (plan.perm _).nodup_iff.mpr (selected_nodup _ _)
  have hzero := (hnodup.getElem_inj_iff (i := 0) (j := j)).mp (hsame.trans hget.symm)
  omega

private theorem length_shown (hp : filter.parameter = some p)
    (plan : Arrangement (readingsOrder .asc))
    {limit : Nat} {last : ReadingRow}
    (hlast : ((plan.sort (selected filter db)).take limit).getLast? = some last) :
    ((plan.sort (selected filter db)).take limit).length =
      (plan.sort ((selected filter db).filter
        fun row => decide (row.recordedAt < last.recordedAt))).length + 1 := by
  have hmem := (plan.perm _).mem_iff.mp (List.mem_of_mem_take (List.mem_of_getLast? hlast))
  obtain ⟨_, hfrom, _⟩ := ReadingsFilter.selects_iff.mp (mem_selected.mp hmem).2
  generalize holder : plan.sort ((selected filter db).filter
    fun row => decide (row.recordedAt < last.recordedAt)) = older
  have hnew : last ∉ older := by
    rw [← holder, (plan.perm _).mem_iff]
    simp
  rw [List.getLast?_eq_getElem?, sort_asc_since hp plan hfrom, holder] at hlast
  rw [sort_asc_since hp plan hfrom, holder]
  generalize hshown : ((older ++ plan.sort (selected (filter.since last.recordedAt) db)).take
    limit).length = shown at hlast ⊢
  have hpos : 0 < shown := by
    by_contra hzero
    have hnil := List.length_eq_zero_iff.mp (hshown.trans (Nat.eq_zero_of_not_pos hzero))
    rw [hnil] at hlast
    cases hlast
  rw [List.getElem?_take_of_lt (by rw [List.length_take] at hshown; omega)] at hlast
  rcases Nat.lt_or_ge (shown - 1) older.length with hlt | hge
  · rw [List.getElem?_append_left hlt] at hlast
    exact absurd (List.mem_of_getElem? hlast) hnew
  · rw [List.getElem?_append_right hge] at hlast
    have hfirst := index_since hp plan hlast
    omega

/-- A client that has been shown the beginning of a parameter's history, oldest first, is shown the
same readings next whether it goes on by offset or asks from the last instant it was shown and
passes over the reading it knows. -/
theorem resume_from_instant (hp : filter.parameter = some p)
    (plan plan' : Arrangement (readingsOrder .asc)) {limit : Nat} {last : ReadingRow}
    (hlast : (listReadingsSql plan filter limit 0 db).getLast? = some last) (limit' : Nat) :
    listReadingsSql plan filter limit' (listReadingsSql plan filter limit 0 db).length db =
      listReadingsSql plan' (filter.since last.recordedAt) limit' 1 db := by
  have hp' : (filter.since last.recordedAt).parameter = some p := hp
  have hshown := length_shown hp plan hlast
  have hmem := (plan.perm _).mem_iff.mp (List.mem_of_mem_take (List.mem_of_getLast? hlast))
  obtain ⟨_, hfrom, _⟩ := ReadingsFilter.selects_iff.mp (mem_selected.mp hmem).2
  have hplan : plan.sort (selected (filter.since last.recordedAt) db) =
      plan'.sort (selected (filter.since last.recordedAt) db) :=
    plan.sort_unique plan' (List.Perm.refl _) (readingsOrder_antisymm hp' .asc)
  calc listReadingsSql plan filter limit' (listReadingsSql plan filter limit 0 db).length db
      = window limit' ((plan.sort ((selected filter db).filter
          fun row => decide (row.recordedAt < last.recordedAt))).length + 1)
          (plan.sort (selected filter db)) := congrArg (fun offset => window limit' offset _) hshown
    _ = window limit' 1 (plan.sort (selected (filter.since last.recordedAt) db)) := by
        rw [sort_asc_since hp plan hfrom, window_append]
    _ = listReadingsSql plan' (filter.since last.recordedAt) limit' 1 db := by
        rw [hplan]
        rfl

/-- After the older of two readings, both ways lead to the newer one. -/
theorem resume_from_instant_two : ∃ db,
    commitEvents .utc [temperatureAt 0 20, temperatureAt 60 21] PgState.empty = .ok db ∧
      let filter : ReadingsFilter := .history "sensor-1" (some "temperature")
      let plan := (ReadingsQueries.preferring fun _ => true).sort .asc
      listReadingsSql plan (filter.since 0) 5 1 db =
          [⟨"sensor-1", 60, "temperature", .finite 21, "C"⟩] ∧
        listReadingsSql plan filter 5 1 db = listReadingsSql plan (filter.since 0) 5 1 db := by
  obtain ⟨db, hcommit, hpage, hnext⟩ : ∃ db,
      commitEvents .utc [temperatureAt 0 20, temperatureAt 60 21] PgState.empty = .ok db ∧
      listReadingsSql ((ReadingsQueries.preferring fun _ => true).sort .asc)
        (.history "sensor-1" (some "temperature")) 1 0 db =
          [⟨"sensor-1", 0, "temperature", .finite 20, "C"⟩] ∧
      listReadingsSql ((ReadingsQueries.preferring fun _ => true).sort .asc)
        ((ReadingsFilter.history "sensor-1" (some "temperature")).since 0) 5 1 db =
          [⟨"sensor-1", 60, "temperature", .finite 21, "C"⟩] :=
    ⟨_, rfl, by decide +kernel, by decide +kernel⟩
  refine ⟨db, hcommit, hnext, ?_⟩
  have hlast := congrArg List.getLast? hpage
  have hsame := resume_from_instant rfl _ ((ReadingsQueries.preferring fun _ => true).sort .asc)
    hlast 5
  rwa [hpage] at hsame

end OpenWater.Backend
