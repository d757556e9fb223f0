import OpenWater.Frontend.Hooks

/-!
# The list of devices

The devices of the mock API (`frontend/src/api/devices.ts`), `isDeviceActive` and `formatLastSeen`
of `frontend/src/lib/device-status.ts`, and the sidebar that tells active devices from inactive
ones. Each call of `Date.now()` is one reading of the clock.
-/

namespace OpenWater.Frontend

open Framework Ingestion Backend

section api

variable (mockDevices : List Device)

/-- `mockDevices.slice(offset, offset + limit)`. -/
def listDevices (limit offset : Nat) : Paginated Device :=
  ⟨window limit offset mockDevices, limit, offset, mockDevices.length⟩

def getDevice (deviceId : String) : Option Device :=
  mockDevices.find? fun device => device.deviceId = deviceId

theorem getDevice_deviceId {mockDevices : List Device} {deviceId : String} {device : Device}
    (h : getDevice mockDevices deviceId = some device) : device.deviceId = deviceId := by
  simpa using List.find?_some h

theorem getDevice_isSome {mockDevices : List Device} {device : Device} (h : device ∈ mockDevices) :
    (getDevice mockDevices device.deviceId).isSome = true :=
  List.find?_isSome.mpr ⟨device, h, by simp⟩

end api

/-! ## The status of a device -/

def activeDeviceThresholdMs : Int := 24 * 60 * 60 * 1000

/-- `isDeviceActive`; a text that is no date compares as `NaN`. -/
def isDeviceActive (date : String → Option Int) (lastSeenAt : String) (now : Int) : Bool :=
  (date lastSeenAt).any fun t => now - t ≤ activeDeviceThresholdMs

/-- What `formatLastSeen` says. The days of a text that is no date are `NaN`. -/
inductive LastSeen where
  | justNow
  | minutesAgo (minutes : Int)
  | hoursAgo (hours : Int)
  | daysAgo (days : Option Int)
  deriving DecidableEq

def LastSeen.text : LastSeen → String
  | .justNow => "Just now"
  | .minutesAgo minutes => s!"{minutes}m ago"
  | .hoursAgo hours => s!"{hours}h ago"
  | .daysAgo (some days) => s!"{days}d ago"
  | .daysAgo none => "NaNd ago"

def formatLastSeen (date : String → Option Int) (lastSeenAt : String) (now : Int) : LastSeen :=
  match date lastSeenAt with
  | none => .daysAgo none
  | some t =>
    let minutes := (now - t) / 60000
    if minutes < 1 then .justNow
    else if minutes < 60 then .minutesAgo minutes
    else
      let hours := minutes / 60
      if hours < 24 then .hoursAgo hours else .daysAgo (some (hours / 24))

section status

variable {date : String → Option Int} {lastSeenAt : String} {now now' : Int}

private theorem isDeviceActive_mono (h : now ≤ now')
    (hactive : isDeviceActive date lastSeenAt now' = true) :
    isDeviceActive date lastSeenAt now = true := by
  unfold isDeviceActive at hactive ⊢
  cases hdate : date lastSeenAt with
  | none => simp [hdate] at hactive
  | some t =>
    simp only [hdate, Option.any_some, decide_eq_true_eq] at hactive ⊢
    omega

private theorem formatLastSeen_of_inactive (h : now ≤ now')
    (hinactive : isDeviceActive date lastSeenAt now = false) :
    ∃ days, formatLastSeen date lastSeenAt now' = .daysAgo days ∧ ∀ n ∈ days, 1 ≤ n := by
  unfold isDeviceActive at hinactive
  unfold formatLastSeen
  cases hdate : date lastSeenAt with
  | none => exact ⟨none, rfl, nofun⟩
  | some t =>
    rw [hdate, Option.any_some] at hinactive
    have hlong := of_decide_eq_false hinactive
    unfold activeDeviceThresholdMs at hlong
    have hminutes : 1440 ≤ (now' - t) / 60000 := by omega
    refine ⟨some ((now' - t) / 60000 / 60 / 24), ?_, ?_⟩
    · simp only
      rw [if_neg (by omega), if_neg (by omega), if_neg (by omega)]
    · rintro n hn
      obtain rfl := Option.some.inj hn
      omega

end status

/-! ## The sidebar -/

structure SidebarItem where
  deviceId : String
  active : Bool
  lastSeen : LastSeen
  deriving DecidableEq

def SidebarItem.text (item : SidebarItem) : String :=
  (if item.active then "Active" else "Inactive") ++ " · " ++ item.lastSeen.text

structure Sidebar where
  activeCount : Nat
  total : Nat
  sections : Option (List SidebarItem × List SidebarItem)

section sidebar

variable (date : String → Option Int) (clock : Nat → Int)

/-- The devices that are active, or those that are not; the first of them is compared with reading
`k` of the clock. -/
def filterActive (active : Bool) (k : Nat) (devices : List Device) : List Device :=
  ((devices.zipIdx k).filter fun p => isDeviceActive date p.1.lastSeenAt (clock p.2) == active).map
    Prod.fst

/-- `DeviceSidebarItem`, which reads the clock twice. -/
def deviceSidebarItem (k : Nat) (device : Device) : SidebarItem :=
  ⟨device.deviceId, isDeviceActive date device.lastSeenAt (clock k),
    formatLastSeen date device.lastSeenAt (clock (k + 1))⟩

def deviceSidebarItems (k : Nat) (devices : List Device) : List SidebarItem :=
  (devices.zipIdx).map fun p => deviceSidebarItem date clock (k + 2 * p.2) p.1

def deviceSidebar (devices : List Device) (loading : Bool) : Sidebar :=
  let activeDevices := filterActive date clock true 0 devices
  let inactiveDevices := filterActive date clock false devices.length devices
  { activeCount := activeDevices.length
    total := devices.length
    sections :=
      if loading then none
      else
        let k := 2 * devices.length
        some (deviceSidebarItems date clock k activeDevices,
          deviceSidebarItems date clock (k + 2 * activeDevices.length) inactiveDevices) }

/-- The devices that are active at the first filter and no longer at the second one, `gap` readings
of the clock later. -/
def expiring (gap k : Nat) (devices : List Device) : List Device :=
  ((devices.zipIdx k).filter fun p => isDeviceActive date p.1.lastSeenAt (clock p.2) &&
    !isDeviceActive date p.1.lastSeenAt (clock (p.2 + gap))).map Prod.fst

variable {date clock}

private theorem filterActive_perm (hclock : ∀ i j, i ≤ j → clock i ≤ clock j) (gap k : Nat)
    (devices : List Device) :
    (filterActive date clock true k devices ++
      filterActive date clock false (k + gap) devices).Perm
        (devices ++ expiring date clock gap k devices) := by
  induction devices generalizing k with
  | nil => exact .refl _
  | cons device devices ih =>
    have hrest := ih (k + 1)
    rw [Nat.add_right_comm] at hrest
    have hmono : isDeviceActive date device.lastSeenAt (clock (k + gap)) = true →
        isDeviceActive date device.lastSeenAt (clock k) = true :=
      isDeviceActive_mono (hclock k (k + gap) (Nat.le_add_right k gap))
    cases hfirst : isDeviceActive date device.lastSeenAt (clock k) with
    | false =>
      have hsecond : isDeviceActive date device.lastSeenAt (clock (k + gap)) = false := by
        rw [← Bool.not_eq_true]
        intro h
        rw [hmono h] at hfirst
        cases hfirst
      simp only [filterActive, expiring, List.zipIdx_cons, List.filter_cons, hfirst, hsecond]
      exact List.perm_middle.trans (hrest.cons device)
    | true =>
      cases hsecond : isDeviceActive date device.lastSeenAt (clock (k + gap)) with
      | true =>
        simp only [filterActive, expiring, List.zipIdx_cons, List.filter_cons, hfirst, hsecond]
        exact hrest.cons device
      | false =>
        -- Shown in both sections.
        simp only [filterActive, expiring, List.zipIdx_cons, List.filter_cons, hfirst, hsecond]
        exact (List.perm_middle.trans ((hrest.cons device).trans List.perm_middle.symm)).cons device

private theorem mem_filterActive {active : Bool} {k : Nat} {devices : List Device}
    {device : Device} (h : device ∈ filterActive date clock active k devices) :
    ∃ i < k + devices.length, isDeviceActive date device.lastSeenAt (clock i) = active := by
  obtain ⟨⟨device, i⟩, hmem, rfl⟩ := List.mem_map.mp h
  obtain ⟨hmem, hactive⟩ := List.mem_filter.mp hmem
  exact ⟨i, (List.mem_zipIdx hmem).2.1, beq_iff_eq.mp hactive⟩

private theorem mem_deviceSidebarItems {k : Nat} {devices : List Device} {item : SidebarItem}
    (h : item ∈ deviceSidebarItems date clock k devices) :
    ∃ i ≥ k, ∃ device ∈ devices, item = deviceSidebarItem date clock i device := by
  obtain ⟨⟨device, i⟩, hmem, rfl⟩ := List.mem_map.mp h
  exact ⟨k + 2 * i, Nat.le_add_right _ _, device, List.fst_mem_of_mem_zipIdx hmem, rfl⟩

private theorem deviceSidebarItems_ids (k : Nat) (devices : List Device) :
    (deviceSidebarItems date clock k devices).map SidebarItem.deviceId =
      devices.map Device.deviceId := by
  rw [deviceSidebarItems, List.map_map]
  have hids : (SidebarItem.deviceId ∘ fun p : Device × Nat =>
      deviceSidebarItem date clock (k + 2 * p.2) p.1) = Device.deviceId ∘ Prod.fst := rfl
  rw [hids, ← List.map_map, List.zipIdx_map_fst]

/-- On a clock that is not set back, the sidebar shows every device, and those twice whose last
message becomes too old between the two filters. All items of the second section say that they are
inactive and for how many days, or `NaN` days for a text that is no date. -/
theorem sidebar_shows_every_device (hclock : ∀ i j, i ≤ j → clock i ≤ clock j)
    (devices : List Device) :
    ∃ active inactive,
      (deviceSidebar date clock devices false).sections = some (active, inactive) ∧
      ((active ++ inactive).map SidebarItem.deviceId).Perm
        ((devices ++ expiring date clock devices.length 0 devices).map Device.deviceId) ∧
      ∀ item ∈ inactive, item.active = false ∧
        ∃ days, item.lastSeen = .daysAgo days ∧ ∀ n ∈ days, 1 ≤ n := by
  refine ⟨_, _, rfl, ?_, ?_⟩
  · rw [List.map_append, deviceSidebarItems_ids, deviceSidebarItems_ids, ← List.map_append]
    have hperm : (filterActive date clock true 0 devices ++
        filterActive date clock false (0 + devices.length) devices).Perm _ :=
      filterActive_perm hclock devices.length 0 devices
    rw [Nat.zero_add] at hperm
    exact hperm.map _
  · intro item hitem
    obtain ⟨j, hj, device, hdevice, rfl⟩ := mem_deviceSidebarItems hitem
    obtain ⟨i, hi, hinactive⟩ := mem_filterActive hdevice
    have hlater : i ≤ j := by omega
    refine ⟨?_, formatLastSeen_of_inactive (hclock i _ (by omega)) hinactive⟩
    rw [← Bool.not_eq_true]
    intro hactive
    rw [isDeviceActive_mono (hclock i j hlater) hactive] at hinactive
    cases hinactive

/-- The day of a device is over between the two filters. -/
theorem sidebar_shows_every_device_twice :
    let clock : Nat → Int := fun i => 1782864000000 + dayMs + min i 1
    let devices : List Device := [⟨"sensor-1", julyFirst, julyFirst, none, none⟩]
    ∃ active inactive,
      (deviceSidebar dateJulyFirst clock devices false).sections = some (active, inactive) ∧
      ((active ++ inactive).map SidebarItem.deviceId).Perm ["sensor-1", "sensor-1"] := by
  intro clock devices
  have hclock : ∀ i j, i ≤ j → clock i ≤ clock j := by
    intro i j hij
    change 1782864000000 + dayMs + (min i 1 : Nat) ≤ 1782864000000 + dayMs + (min j 1 : Nat)
    omega
  obtain ⟨active, inactive, hsections, hperm, _⟩ :=
    @sidebar_shows_every_device dateJulyFirst clock hclock devices
  have htwice : (devices ++ expiring dateJulyFirst clock devices.length 0 devices).map
      Device.deviceId = ["sensor-1", "sensor-1"] := by decide +kernel
  exact ⟨active, inactive, hsections, htwice ▸ hperm⟩

end sidebar

end OpenWater.Frontend
