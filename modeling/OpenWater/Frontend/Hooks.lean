import OpenWater.Framework.Effect
import OpenWater.Frontend.Readings

/-!
# Hooks of the device pages

`useDeviceReadings` and `useDevice` of `frontend/src/hooks`: effects that ask the API anew when the
page shows another device, parameter or range, and mark the requests before as cancelled. A change
of the arguments is one step with the cleanup and the effect that React runs for it.
-/

namespace OpenWater.Frontend

open Framework Framework.Effect Ingestion Backend

inductive Rejection where
  | error (message : String)
  | other

def Rejection.message (fallback : String) : Rejection → String
  | .error message => message
  | .other => fallback

abbrev Settled (α : Type) := Except Rejection α

/-- `if (!deviceId)`: the empty text is as good as no device. -/
def truthy : Option String → Option String := Option.filter (· ≠ "")

/-! ## Two requests at once -/

structure PromiseAll (α β : Type) where
  first : Option (Settled α)
  second : Option (Settled β)
  settled : Option (Settled (α × β))

inductive PairEvent (α β : Type) where
  | first (reply : Settled α)
  | second (reply : Settled β)

namespace PromiseAll

variable {α β : Type}

def pending : PromiseAll α β := ⟨none, none, none⟩

def settle (p : PromiseAll α β) : PromiseAll α β :=
  { p with settled := p.settled.or (match p.first, p.second with
      | some (.error e), _ => some (.error e)
      | _, some (.error e) => some (.error e)
      | some (.ok a), some (.ok b) => some (.ok (a, b))
      | _, _ => none) }

def progress (p : PromiseAll α β) : PairEvent α β → Option (PromiseAll α β)
  | .first reply => if p.first.isSome then none else some { p with first := some reply }.settle
  | .second reply => if p.second.isSome then none else some { p with second := some reply }.settle

private theorem settled_stays {p p' : PromiseAll α β} {e : PairEvent α β}
    (h : p.progress e = some p')
    {reply : Settled (α × β)} (hreply : p.settled = some reply) : p'.settled = some reply := by
  cases e with
  | first r =>
    obtain ⟨_, h⟩ := Option.ite_none_left_eq_some.mp h
    obtain rfl := Option.some.inj h
    simp [settle, hreply]
  | second r =>
    obtain ⟨_, h⟩ := Option.ite_none_left_eq_some.mp h
    obtain rfl := Option.some.inj h
    simp [settle, hreply]

end PromiseAll

/-! ## Readings of a device -/

inductive ChartRange where
  | days7
  | days30
  | days90
  deriving DecidableEq

def rangeDays : ChartRange → Nat
  | .days7 => 7
  | .days30 => 30
  | .days90 => 90

structure ReadingsDeps where
  deviceId : Option String
  parameter : String
  range : ChartRange
  deriving DecidableEq

structure DeviceReadingsState where
  latest : List Reading
  series : List Reading
  loading : Bool
  error : Option String

def DeviceReadingsState.empty : DeviceReadingsState := ⟨[], [], false, none⟩

structure ReadingsRequests where
  deviceId : String
  query : ReadingsQuery
  replies : PromiseAll (List Reading) (Paginated Reading)

def readingsQuery (toISOString : Int → String) (deps : ReadingsDeps) (now : Int) : ReadingsQuery :=
  { parameter := some deps.parameter
    recordedFrom := some (toISOString (now - rangeDays deps.range * dayMs))
    order := some .asc }

/-- `listReadings` reads the clock after the delay of the mock API, so that every range is one day
longer than it says. -/
theorem range_adds_day {toISOString : Int → String} {date : String → Option Int}
    {deps : ReadingsDeps} {now delay : Int}
    (hdate : date (toISOString (now - rangeDays deps.range * dayMs)) =
      some (now - rangeDays deps.range * dayMs))
    (hpos : 0 < delay) (hle : delay ≤ dayMs) :
    (readingsQuery toISOString deps now).days date (now + delay) =
      some ((rangeDays deps.range : Int) + 1) := by
  have hms : -(now + delay - (now - rangeDays deps.range * dayMs)) =
      -delay + -rangeDays deps.range * dayMs := by
    rw [Int.neg_mul]
    omega
  have hday : -delay / dayMs = -1 := by
    unfold dayMs at hle ⊢
    omega
  have hceil : ceilDays (now + delay - (now - rangeDays deps.range * dayMs)) =
      rangeDays deps.range + 1 := by
    rw [ceilDays, hms, Int.add_mul_ediv_right _ _ (by decide), hday]
    omega
  simp only [ReadingsQuery.days, readingsQuery, hdate, Option.map_some, hceil]

def readingsOutcome : Settled (List Reading × Paginated Reading) → DeviceReadingsState
  | .ok (latest, readingsPage) => ⟨latest, readingsPage.items, false, none⟩
  | .error e => ⟨[], [], false, some (e.message "Failed to load readings")⟩

def useDeviceReadings (toISOString : Int → String) :
    Effect ReadingsDeps Int DeviceReadingsState ReadingsRequests
      (PairEvent (List Reading) (Paginated Reading)) where
  body deps now current :=
    match truthy deps.deviceId with
    | none => (.empty, none)
    | some deviceId => ({ current with loading := true, error := none },
        some ⟨deviceId, readingsQuery toISOString deps now, .pending⟩)
  progress p e := (p.replies.progress e).map fun replies => { p with replies := replies }
  outcome p := p.replies.settled.map readingsOutcome
  outcome_stays p e p' s hp hs := by
    obtain ⟨replies, hreplies, rfl⟩ := Option.map_eq_some_iff.mp hp
    obtain ⟨reply, hreply, rfl⟩ := Option.map_eq_some_iff.mp hs
    simp [PromiseAll.settled_stays hreplies hreply]

def initialReadings (deps : ReadingsDeps) : DeviceReadingsState :=
  { DeviceReadingsState.empty with loading := (truthy deps.deviceId).isSome }

/-- The requests are those of the effect for `deps`, at some reading of the clock. -/
def ReadingsAsked (toISOString : Int → String) (deps : ReadingsDeps) (p : ReadingsRequests) :
    Prop :=
  truthy deps.deviceId = some p.deviceId ∧ ∃ now, p.query = readingsQuery toISOString deps now

/-! ## A device -/

structure Location where
  lat : Double
  lon : Double
  deriving DecidableEq

structure Device where
  deviceId : String
  firstSeenAt : String
  lastSeenAt : String
  firmwareVersion : Option String
  location : Option Location
  deriving DecidableEq

structure DeviceState where
  device : Option Device
  loading : Bool
  error : Option String

structure DeviceRequest where
  deviceId : String
  reply : Option (Settled (Option Device))

def deviceOutcome : Settled (Option Device) → DeviceState
  | .ok none => ⟨none, false, some "Device not found"⟩
  | .ok (some device) => ⟨some device, false, none⟩
  | .error e => ⟨none, false, some (e.message "Failed to load device")⟩

def useDevice :
    Effect (Option String) Unit DeviceState DeviceRequest (Settled (Option Device)) where
  body deps _ _ :=
    match truthy deps with
    | none => (⟨none, false, none⟩, none)
    | some deviceId => (⟨none, true, none⟩, some ⟨deviceId, none⟩)
  progress p e := if p.reply.isSome then none else some { p with reply := some e }
  outcome p := p.reply.map deviceOutcome
  outcome_stays p e p' s hp hs := by
    obtain ⟨hpending, _⟩ := Option.ite_none_left_eq_some.mp hp
    obtain ⟨reply, hreply, rfl⟩ := Option.map_eq_some_iff.mp hs
    simp [hreply] at hpending

def initialDevice (deps : Option String) : DeviceState := ⟨none, (truthy deps).isSome, none⟩

def DeviceAsked (deps : Option String) (p : DeviceRequest) : Prop := truthy deps = some p.deviceId

/-! ## Stale responses -/

private theorem useDeviceReadings_asks (toISOString : Int → String) :
    (useDeviceReadings toISOString).Asks (truthy ·.deviceId = none) .empty
      DeviceReadingsState.loading (ReadingsAsked toISOString) where
  blank_of_idle deps now current hnone := by simp [useDeviceReadings, hnone]
  loading_of_busy deps now current hsome := by
    obtain ⟨deviceId, hdevice⟩ := Option.ne_none_iff_exists'.mp hsome
    simp [useDeviceReadings, hdevice]
  asked_body deps now current p hp := by
    simp only [useDeviceReadings] at hp
    split at hp
    · cases hp
    · rename_i deviceId hdevice
      obtain rfl := Option.some.inj hp
      exact ⟨hdevice, now, rfl⟩
  asked_progress deps p e p' h hp := by
    obtain ⟨replies, _, rfl⟩ := Option.map_eq_some_iff.mp hp
    exact h
  busy_of_asked deps p h := by simp [h.1]

private theorem useDevice_asks :
    useDevice.Asks (truthy · = none) ⟨none, false, none⟩ DeviceState.loading DeviceAsked where
  blank_of_idle deps _ current hnone := by simp [useDevice, hnone]
  loading_of_busy deps _ current hsome := by
    obtain ⟨deviceId, hdevice⟩ := Option.ne_none_iff_exists'.mp hsome
    simp [useDevice, hdevice]
  asked_body deps _ current p hp := by
    simp only [useDevice] at hp
    split at hp
    · cases hp
    · rename_i deviceId hdevice
      obtain rfl := Option.some.inj hp
      exact hdevice
  asked_progress deps p e p' h hp := by
    obtain ⟨_, hp⟩ := Option.ite_none_left_eq_some.mp hp
    obtain rfl := Option.some.inj hp
    exact h
  busy_of_asked deps p h := by
    rw [DeviceAsked] at h
    simp [h]

/-- In every run of the two hooks, with their arguments changing in any way and the requests
settling in any order: without a device the state is empty, a state that is not loading is the
outcome of what the newest effect has asked for the arguments at hand, and what happens to the
requests of an older effect leaves the state as it is. -/
theorem stale_response_never_wins (toISOString : Int → String) :
    (∀ deps now labels m,
      run (useDeviceReadings toISOString).step
          ((useDeviceReadings toISOString).mount (initialReadings deps) deps now) labels = some m →
        (truthy m.deps.deviceId = none → m.state = .empty) ∧
        (truthy m.deps.deviceId ≠ none → m.state.loading = false →
          (useDeviceReadings toISOString).ShowsNewest (ReadingsAsked toISOString) m) ∧
        (useDeviceReadings toISOString).IgnoresOlder m) ∧
    ∀ deps labels m,
      run useDevice.step (useDevice.mount (initialDevice deps) deps ()) labels = some m →
        (truthy m.deps = none → m.state = ⟨none, false, none⟩) ∧
        (truthy m.deps ≠ none → m.state.loading = false → useDevice.ShowsNewest DeviceAsked m) ∧
        useDevice.IgnoresOlder m := by
  constructor
  · intro deps now labels m hrun
    exact (useDeviceReadings_asks toISOString).run hrun
  · intro deps labels m hrun
    exact useDevice_asks.run hrun

/-- The page goes from one device to another, and the requests for the first one are rejected after
those for the second one have been answered. -/
theorem stale_response_never_wins_two_devices :
    let toISOString : Int → String := fun _ => julyFirst
    let now := 1782864000000 + 7 * dayMs
    let noon : Reading := ⟨"sensor-2", 1782907200000, "ph", .finite 7, "pH"⟩
    let device : Device := ⟨"sensor-2", julyFirst, julyFirst, none, none⟩
    let hook := useDeviceReadings toISOString
    let deps : ReadingsDeps := ⟨some "sensor-1", "ph", .days7⟩
    let labels :
        List (EffectLabel ReadingsDeps Int (PairEvent (List Reading) (Paginated Reading))) :=
      [.render { deps with deviceId := some "sensor-2" } now,
        .progress 1 (.second (.ok ⟨[noon], 1, 0, 1⟩)), .progress 1 (.first (.ok [noon])),
        .callback 1, .progress 0 (.first (.error .other)), .callback 0]
    let deviceLabels : List (EffectLabel (Option String) Unit (Settled (Option Device))) :=
      [.render (some "sensor-2") (), .progress 1 (.ok device), .callback 1, .progress 0 (.ok none),
        .callback 0]
    (∃ m, run hook.step (hook.mount (initialReadings deps) deps now) labels = some m ∧
      m.state = ⟨[noon], [noon], false, none⟩ ∧
        hook.ShowsNewest (ReadingsAsked toISOString) m) ∧
    ∃ m, run useDevice.step (useDevice.mount (initialDevice "sensor-1") (some "sensor-1") ())
        deviceLabels = some m ∧
      m.state = ⟨some device, false, none⟩ ∧ useDevice.ShowsNewest DeviceAsked m := by
  intro toISOString now noon device hook deps labels deviceLabels
  have h := stale_response_never_wins toISOString
  constructor
  · obtain ⟨m, hrun, hdevice, hstate⟩ : ∃ m,
        run hook.step (hook.mount (initialReadings deps) deps now) labels = some m ∧
          m.deps.deviceId = some "sensor-2" ∧ m.state = ⟨[noon], [noon], false, none⟩ :=
      ⟨_, rfl, rfl, rfl⟩
    refine ⟨m, hrun, hstate, (h.1 deps now labels m hrun).2.1 ?_ (by rw [hstate])⟩
    rw [hdevice]
    decide
  · obtain ⟨m, hrun, hdevice, hstate⟩ : ∃ m,
        run useDevice.step (useDevice.mount (initialDevice "sensor-1") (some "sensor-1") ())
            deviceLabels = some m ∧
          m.deps = some "sensor-2" ∧ m.state = ⟨some device, false, none⟩ :=
      ⟨_, rfl, rfl, rfl⟩
    refine ⟨m, hrun, hstate, (h.2 (some "sensor-1") deviceLabels m hrun).2.1 ?_ (by rw [hstate])⟩
    rw [hdevice]
    decide

end OpenWater.Frontend
