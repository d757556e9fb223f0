import Mathlib.Data.List.Forall2
import Mathlib.Data.List.Induction
import Mathlib.Logic.Relation
import OpenWater.Ingestion.Database

/-!
# Histories of writes

What the two tables hold after any sequence of committed events. A device's row is a summary of
that device's events in the order they were committed; under each key of `readings` stands the
first row that was proposed for it. Attempts that are rolled back leave no mark.
-/

namespace OpenWater.Ingestion

open Framework

def replay (db : PgState) (ws : List Write) : PgState := ws.foldl (fun db w => w.apply db) db

def commitEvent (pg : Asyncpg) (event : ReadingEvent) (db : PgState) :
    Except PyException PgState :=
  runScript (writeOnceScript pg event) db

def commitEvents (pg : Asyncpg) (events : List ReadingEvent) (db : PgState) :
    Except PyException PgState :=
  runScript (events.map (commitEvent pg)) db

theorem replay_append (db : PgState) (ws vs : List Write) :
    replay db (ws ++ vs) = replay (replay db ws) vs :=
  List.foldl_append

theorem commitEvents_ok {pg : Asyncpg} {events : List ReadingEvent} {db db' : PgState} :
    commitEvents pg events db = .ok db' ↔
      ∃ ws, List.Forall₂ (Binds pg) events ws ∧ db' = replay db ws := by
  unfold commitEvents
  induction events generalizing db with
  | nil => simp [runScript, replay, eq_comm]
  | cons event events ih =>
    rw [List.map_cons, runScript_cons_ok]
    constructor
    · rintro ⟨db₁, hevent, hrest⟩
      obtain ⟨w, hw, rfl⟩ := writeOnceScript_ok.mp hevent
      obtain ⟨ws, hws, rfl⟩ := ih.mp hrest
      exact ⟨w :: ws, .cons hw hws, rfl⟩
    · rintro ⟨_, hws, rfl⟩
      obtain ⟨w, vs, hw, hvs, rfl⟩ := List.forall₂_cons_left_iff.mp hws
      exact ⟨w.apply db, writeOnceScript_ok.mpr ⟨w, hw, rfl⟩, ih.mpr ⟨vs, hvs, rfl⟩⟩

theorem exists_of_forall₂ {α β : Type} {R : α → β → Prop} {xs : List α} {ys : List β}
    (h : List.Forall₂ R xs ys) {x : α} (hx : x ∈ xs) : ∃ y ∈ ys, R x y := by
  induction h with
  | nil => cases hx
  | cons hr _ ih =>
    rcases List.mem_cons.mp hx with rfl | hx
    · exact ⟨_, List.mem_cons_self, hr⟩
    · obtain ⟨y, hy, hr'⟩ := ih hx
      exact ⟨y, List.mem_cons_of_mem _ hy, hr'⟩

/-- Some process attempts to write some event, and the environment has its way with it. -/
def Attempted (db db' : PgState) : Prop :=
  ∃ (database : Database) (event : ReadingEvent) (fault : Fault PyException),
    db' = (database.writeOnce event fault db).state

def Reaches : PgState → PgState → Prop := Relation.ReflTransGen Attempted

def Reachable (db : PgState) : Prop := Reaches PgState.empty db

theorem Reaches.replay {db db' : PgState} (h : Reaches db db') : ∃ ws, db' = replay db ws := by
  induction h with
  | refl => exact ⟨[], rfl⟩
  | tail _ hlast ih =>
    obtain ⟨ws, rfl⟩ := ih
    obtain ⟨database, event, fault, rfl⟩ := hlast
    rcases writeOnce_cases database event fault (Ingestion.replay db ws) with
      ⟨_, _, w, _, _, happ⟩ | ⟨_, hs, _⟩
    · exact ⟨ws ++ [w], by rw [happ, replay_append]; rfl⟩
    · exact ⟨ws, hs⟩

/-- What holds of the empty tables, and is kept by every write that binds, holds of all tables that
can be reached. -/
theorem Reachable.invariant {P : PgState → Prop} (hempty : P .empty)
    (hwrite : ∀ pg w db, Binds pg w.event w → P db → P (w.apply db)) {db : PgState}
    (h : Reachable db) : P db := by
  induction h with
  | refl => exact hempty
  | @tail db _ _ hlast ih =>
    obtain ⟨database, event, fault, rfl⟩ := hlast
    rcases writeOnce_cases database event fault db with ⟨_, pg, w, _, hw, happ⟩ | ⟨_, hs, _⟩
    · obtain rfl := hw.event_eq
      rw [happ]
      exact hwrite pg w db hw ih
    · rwa [hs]

theorem Reachable.parameter_text {db : PgState} (h : Reachable db) :
    ∀ row ∈ db.readings.rows, '\x00' ∉ row.parameter.toList := by
  refine h.invariant (P := fun db => ∀ row ∈ db.readings.rows, '\x00' ∉ row.parameter.toList)
    (by simp [PgState.empty, Table.empty]) ?_
  intro pg w db hw ih row hrow
  rcases Table.mem_insertAll hrow with hrow | hrow
  · exact ih row hrow
  · obtain ⟨reading, hreading, rfl⟩ := List.mem_map.mp hrow
    refine hw.texts _ ?_
    simp only [ReadingEvent.texts, List.mem_append, List.mem_flatMap]
    exact .inr ⟨reading, hreading, List.mem_cons_self⟩

theorem Reachable.device_text {db : PgState} (h : Reachable db) :
    ∀ row ∈ db.devices.rows, 1 ≤ row.deviceId.length ∧ '\x00' ∉ row.deviceId.toList := by
  refine h.invariant (P := fun db => ∀ row ∈ db.devices.rows,
    1 ≤ row.deviceId.length ∧ '\x00' ∉ row.deviceId.toList)
    (by simp [PgState.empty, Table.empty]) ?_
  intro pg w db hw ih row hrow
  rcases Table.mem_put hrow with rfl | hrow
  · rw [registered_deviceId]
    exact ⟨w.event.deviceId.min, hw.texts _ List.mem_cons_self⟩
  · exact ih row hrow

/-! ## The row of a device -/

def Write.isOf (d : String) (w : Write) : Bool := decide (w.event.deviceId.val = d)

def upserted (stored : Option DeviceRow) (excluded : DeviceRow) : DeviceRow :=
  match stored with
  | none => excluded
  | some stored => onDeviceConflict stored excluded

/-- The row of a device after its writes, in order. -/
def deviceSummary (ws : List Write) : Option DeviceRow :=
  ws.foldl (fun stored w => some (upserted stored w.device)) none

theorem lookup_replay_devices (ws : List Write) (d : String) :
    (replay PgState.empty ws).devices.lookup d = deviceSummary (ws.filter (Write.isOf d)) := by
  induction ws using List.reverseRecOn with
  | nil => rfl
  | append_singleton ws w ih =>
    rw [replay_append]
    change (w.apply (replay PgState.empty ws)).devices.lookup d = _
    rw [w.lookup_apply_devices, List.filter_append]
    by_cases hd : w.event.deviceId.val = d
    · have hw : Write.isOf d w = true := by simpa [Write.isOf] using hd
      have hlast : deviceSummary (ws.filter (Write.isOf d) ++ [w]) =
          some (upserted (deviceSummary (ws.filter (Write.isOf d))) w.device) :=
        List.foldl_append
      rw [if_pos hd, List.filter_cons_of_pos hw, List.filter_nil, hlast, ← ih]
      subst hd
      rfl
    · have hw : ¬ Write.isOf d w = true := by simpa [Write.isOf] using hd
      rw [if_neg hd, ih, List.filter_cons_of_neg hw, List.filter_nil, List.append_nil]

/-- The last value a column was given, where a proposal may leave it out. -/
def lastKnown {α β : Type} (column : α → Option β) (xs : List α) : Option β :=
  xs.reverse.findSome? column

private theorem lastKnown_append {α β : Type} (column : α → Option β) (xs : List α) (x : α) :
    lastKnown column (xs ++ [x]) = (column x).or (lastKnown column xs) := by
  simp only [lastKnown, List.reverse_append, List.reverse_singleton, List.singleton_append,
    List.findSome?_cons]
  cases column x <;> rfl

theorem lastKnown_map {α β γ : Type} (column : β → Option γ) (g : α → β) (xs : List α) :
    lastKnown column (xs.map g) = lastKnown (fun x => column (g x)) xs := by
  rw [lastKnown, lastKnown, ← List.map_reverse, List.findSome?_map]
  rfl

theorem lastKnown_project {α β γ : Type} (column : α → Option β) (g : β → γ)
    (xs : List α) :
    lastKnown (fun x => (column x).map g) xs = (lastKnown column xs).map g := by
  simp only [lastKnown, List.map_findSome?]
  rfl

theorem lastKnown_eq_none {α β : Type} {column : α → Option β} {xs : List α} :
    lastKnown column xs = none ↔ ∀ x ∈ xs, column x = none := by
  simp [lastKnown, List.findSome?_eq_none_iff]

theorem exists_of_lastKnown {α β : Type} {column : α → Option β} {xs : List α} {b : β}
    (h : lastKnown column xs = some b) : ∃ x ∈ xs, column x = some b := by
  obtain ⟨x, hx, hb⟩ := List.exists_of_findSome?_eq_some h
  exact ⟨x, List.mem_reverse.mp hx, hb⟩

/-- `first_seen_at` is the instant of the device's first write, `last_seen_at` of its last one, and
every other column its last known value. -/
theorem deviceSummary_append (ws : List Write) (w : Write) :
    ∃ row, deviceSummary (ws ++ [w]) = some row ∧
      row.firstSeenAt = ((ws ++ [w]).head (by simp)).recordedAt ∧
      row.lastSeenAt = w.recordedAt ∧
      row.firmwareVersion = lastKnown (fun v => v.device.firmwareVersion) (ws ++ [w]) ∧
      row.locationLat = lastKnown (fun v => v.device.locationLat) (ws ++ [w]) ∧
      row.locationLon = lastKnown (fun v => v.device.locationLon) (ws ++ [w]) := by
  induction ws using List.reverseRecOn generalizing w with
  | nil =>
    refine ⟨w.device, rfl, rfl, rfl, ?_, ?_, ?_⟩ <;>
      simp only [lastKnown, List.nil_append, List.reverse_singleton, List.findSome?_singleton]
  | append_singleton ws v ih =>
    obtain ⟨row, hrow, hfirst, _, hfw, hlat, hlon⟩ := ih v
    refine ⟨onDeviceConflict row w.device, ?_, ?_, rfl, ?_, ?_, ?_⟩
    · have hlast : deviceSummary (ws ++ [v] ++ [w]) =
          some (upserted (deviceSummary (ws ++ [v])) w.device) := List.foldl_append
      rw [hlast, hrow]
      rfl
    · rw [List.head_append_of_ne_nil (l := ws ++ [v]) (by simp)]
      exact hfirst
    · rw [lastKnown_append, ← hfw]
      rfl
    · rw [lastKnown_append, ← hlat]
      rfl
    · rw [lastKnown_append, ← hlon]
      rfl

/-! ## The readings -/

theorem lookup_replay_readings (db : PgState) (ws : List Write)
    (k : String × Timestamptz × String) :
    (replay db ws).readings.lookup k =
      (db.readings.lookup k).or
        ((ws.flatMap Write.rows).find? fun row => decide (row.key = k)) := by
  induction ws generalizing db with
  | nil => simp [replay]
  | cons w ws ih =>
    change (replay (w.apply db) ws).readings.lookup k = _
    rw [ih, w.lookup_apply_readings, List.flatMap_cons, List.find?_append, Option.or_assoc]

theorem mem_replay_readings {ws : List Write} {row : ReadingRow}
    (h : row ∈ (replay PgState.empty ws).readings.rows) : row ∈ ws.flatMap Write.rows := by
  have hrow := Table.lookup_of_mem h
  rw [lookup_replay_readings] at hrow
  exact List.mem_of_find?_eq_some hrow

theorem stored_of_mem {ws : List Write} {row : ReadingRow} (h : row ∈ ws.flatMap Write.rows) :
    ∃ stored ∈ (replay PgState.empty ws).readings.rows, stored.key = row.key := by
  have hfound : ((ws.flatMap Write.rows).find? fun r => decide (r.key = row.key)) ≠ none := by
    intro hnone
    have hne := List.find?_eq_none.mp hnone row h
    simp at hne
  obtain ⟨stored, hstored⟩ := Option.ne_none_iff_exists'.mp hfound
  have hlookup : (replay PgState.empty ws).readings.lookup row.key = some stored := by
    rw [lookup_replay_readings, hstored]
    rfl
  exact ⟨stored, Table.mem_of_lookup hlookup, Table.key_of_lookup hlookup⟩

theorem recorded_iff {ws : List Write} {d : String} {t : Timestamptz} :
    (∃ row ∈ (replay PgState.empty ws).readings.rows, row.deviceId = d ∧ row.recordedAt = t) ↔
      ∃ w ∈ ws.filter (Write.isOf d), w.recordedAt = t := by
  constructor
  · rintro ⟨row, hrow, hd, ht⟩
    obtain ⟨w, hw, hmem⟩ := List.mem_flatMap.mp (mem_replay_readings hrow)
    obtain ⟨hdev, hrec⟩ := Write.row_of_mem hmem
    have hof : Write.isOf d w = true := by simpa [Write.isOf] using hdev.symm.trans hd
    exact ⟨w, List.mem_filter.mpr ⟨hw, hof⟩, hrec.symm.trans ht⟩
  · rintro ⟨w, hw, rfl⟩
    obtain ⟨hmem, hof⟩ := List.mem_filter.mp hw
    have hd : w.event.deviceId.val = d := by simpa [Write.isOf] using hof
    obtain ⟨row, hrow⟩ := List.exists_mem_of_ne_nil _ w.rows_ne_nil
    obtain ⟨stored, hstored, hkey⟩ := stored_of_mem (List.mem_flatMap.mpr ⟨w, hmem, hrow⟩)
    obtain ⟨hdev, hrec⟩ := Write.row_of_mem hrow
    simp only [ReadingRow.key, Prod.mk.injEq] at hkey
    exact ⟨stored, hstored, (hkey.1.trans hdev).trans hd, hkey.2.1.trans hrec⟩

end OpenWater.Ingestion
