import OpenWater.Frontend.Analytics

/-!
# From the list to a device

`useDevices` and `DevicesIndex`: the index of the devices asks for their list once and goes on to
the page of an active device, or of the first one.
-/

namespace OpenWater.Frontend

open Framework Framework.Effect Ingestion Backend DeviceAnalytics

/-! ## The list -/

structure DevicesState where
  devices : List Device
  loading : Bool
  error : Option String

structure DevicesRequest where
  reply : Option (Settled (Paginated Device))

def devicesOutcome : Settled (Paginated Device) → DevicesState
  | .ok response => ⟨response.items, false, none⟩
  | .error e => ⟨[], false, some (e.message "Failed to load devices")⟩

/-- An effect without dependencies, whose body sets no state. -/
def useDevices : Effect Unit Unit DevicesState DevicesRequest (Settled (Paginated Device)) where
  body _ _ current := (current, some ⟨none⟩)
  progress p e := if p.reply.isSome then none else some ⟨some e⟩
  outcome p := p.reply.map devicesOutcome
  outcome_stays p e p' s hp hs := by
    obtain ⟨hpending, _⟩ := Option.ite_none_left_eq_some.mp hp
    obtain ⟨reply, hreply, rfl⟩ := Option.map_eq_some_iff.mp hs
    simp [hreply] at hpending

def initialDevices : DevicesState := ⟨[], true, none⟩

inductive IndexView where
  | nothing
  | emptyState (title description : String)
  | navigate (deviceId : String)
  deriving DecidableEq

/-- `DevicesIndex`, which reads the clock for each device until one is active. -/
def devicesIndex (date : String → Option Int) (clock : Nat → Int) (state : DevicesState) :
    IndexView :=
  if state.loading then .nothing
  else match truthy state.error, state.devices with
    | some error, _ => .emptyState "Unable to load devices" error
    | none, [] => .emptyState "No devices registered"
        "When field devices connect, they will appear in the sidebar."
    | none, first :: rest =>
      let active := (first :: rest).zipIdx.find? fun p =>
        isDeviceActive date p.1.lastSeenAt (clock p.2)
      .navigate ((active.map Prod.fst).getD first).deviceId

variable {replies : Replies} {date : String → Option Int} {clock : Nat → Int}

private theorem devicesIndex_navigate {state : DevicesState} {id : String}
    (h : devicesIndex date clock state = .navigate id) :
    state.loading = false ∧ ∃ device ∈ state.devices, device.deviceId = id := by
  unfold devicesIndex at h
  split at h
  · cases h
  · rename_i hloading
    refine ⟨by simpa using hloading, ?_⟩
    split at h
    · cases h
    · cases h
    · rename_i first rest _ hdevices
      injection h with hid
      rw [hdevices]
      cases hfind : (first :: rest).zipIdx.find? fun p =>
          isDeviceActive date p.1.lastSeenAt (clock p.2) with
      | none =>
        rw [hfind] at hid
        exact ⟨first, List.mem_cons_self, hid⟩
      | some p =>
        rw [hfind] at hid
        exact ⟨p.1, List.fst_mem_of_mem_zipIdx (List.mem_of_find?_eq_some hfind), hid⟩

def Replies.AnswersList (replies : Replies) (_ : Mounted Unit DevicesState DevicesRequest) :
    EffectLabel Unit Unit (Settled (Paginated Device)) → Prop
  | .progress _ reply => replies.listDevices reply
  | .render _ _ | .remount _ | .callback _ => True

structure ListInv (replies : Replies) (m : Mounted Unit DevicesState DevicesRequest) : Prop where
  runs : ∀ run ∈ m.runs, ∀ p ∈ run.promise, ∀ reply ∈ p.reply, replies.listDevices reply
  state : m.state = initialDevices ∨
    ∃ reply, replies.listDevices reply ∧ m.state = devicesOutcome reply

theorem ListInv.mount : ListInv replies (useDevices.mount initialDevices () ()) := by
  refine ⟨fun run hrun p hp => ?_, .inl rfl⟩
  obtain rfl : run = _ := List.mem_singleton.mp hrun
  obtain rfl := Option.some.inj hp
  exact nofun

theorem ListInv.step {m m' : Mounted Unit DevicesState DevicesRequest}
    {l : EffectLabel Unit Unit (Settled (Paginated Device))} (h : ListInv replies m)
    (hok : replies.AnswersList m l) (hstep : useDevices.step m l = some m') :
    ListInv replies m' := by
  constructor
  · refine runs_step (P := fun _ promise => ∀ p ∈ promise, ∀ reply ∈ p.reply,
      replies.listDevices reply) ?_ ?_ h.runs hstep
    · intro deps read s p hp
      obtain rfl := Option.some.inj hp
      exact nofun
    · intro i reply run p p' hlabel _ _ hp' _ q hq r hr
      obtain ⟨_, hp'⟩ := Option.ite_none_left_eq_some.mp hp'
      obtain rfl := Option.some.inj hp'
      obtain rfl := Option.some.inj hq
      obtain rfl := Option.some.inj hr
      rw [hlabel] at hok
      exact hok
  · refine state_step (S := fun state => state = initialDevices ∨
      ∃ reply, replies.listDevices reply ∧ state = devicesOutcome reply) ?_ ?_ h.state hstep
    · intro deps read s hs
      exact hs
    · intro run hrun p s hp hs
      obtain ⟨reply, hreply, rfl⟩ := Option.map_eq_some_iff.mp hs
      exact .inr ⟨reply, h.runs run hrun p hp reply hreply, rfl⟩

private theorem listInv_run {labels : List (EffectLabel Unit Unit (Settled (Paginated Device)))}
    {m : Mounted Unit DevicesState DevicesRequest}
    (hrun : run useDevices.step (useDevices.mount initialDevices () ()) labels = some m)
    (hanswered : Along useDevices.step replies.AnswersList
      (useDevices.mount initialDevices () ()) labels) : ListInv replies m :=
  run_invariant (fun _ _ _ h hok hstep => h.step hok hstep) .mount hanswered hrun

/-! ## The page of a listed device -/

/-- Devices of the list have a name, and the API finds them by it. -/
structure Replies.Finds (replies : Replies) : Prop where
  named : ∀ page, replies.listDevices (.ok page) → ∀ device ∈ page.items, device.deviceId ≠ ""
  found : ∀ page, replies.listDevices (.ok page) → ∀ device ∈ page.items,
    ∀ reply, replies.getDevice device.deviceId reply → ∃ found, reply = .ok (some found)

private theorem mockReplies_finds {mockDevices : List Device}
    (hnamed : ∀ device ∈ mockDevices, device.deviceId ≠ "") (date : String → Option Int)
    (data : MockData) : (mockReplies date mockDevices data).Finds where
  named page h device hdevice := by
    obtain rfl := Except.ok.inj h
    exact hnamed device ((window_sublist _ _ _).subset hdevice)
  found page h device hdevice reply hreply := by
    obtain rfl := Except.ok.inj h
    have hmem := (window_sublist _ _ _).subset hdevice
    obtain ⟨found, hfound⟩ := Option.isSome_iff_exists.mp (getDevice_isSome hmem)
    exact ⟨found, hreply.trans (congrArg Except.ok hfound)⟩

/-- Whatever the index has read from the clock and whatever happens on the page of the device it
goes to: at rest the page shows that device, and never that it was not found. `hid` stands for the
way from the path of `Navigate` to `useParams`, which is not modelled: an id with `/`, `?`, `#` or
`%` may not come back from it. -/
theorem index_leads_to_device (hfinds : replies.Finds) (hown : replies.Own)
    {labels : List (EffectLabel Unit Unit (Settled (Paginated Device)))}
    {m : Mounted Unit DevicesState DevicesRequest}
    (hlist : run useDevices.step (useDevices.mount initialDevices () ()) labels = some m)
    (hlisted : Along useDevices.step replies.AnswersList
      (useDevices.mount initialDevices () ()) labels)
    {id : String} (hindex : devicesIndex date clock m.state = .navigate id)
    {toISOString : Int → String} {args : ReadingsDeps} {now : Int}
    {labels' : List AnalyticsLabel} {s : DeviceAnalytics}
    (hpage : run (DeviceAnalytics.step toISOString) (.mount toISOString args now) labels' = some s)
    (hanswered : Along (DeviceAnalytics.step toISOString) replies.Answers
      (.mount toISOString args now) labels')
    (hid : s.args.deviceId = some id)
    (hrest : ∀ a, a.isWork = true → DeviceAnalytics.step toISOString s a = none) :
    ∃ found readings, found.deviceId = id ∧ s.view = .device found readings := by
  obtain ⟨hloaded, device, hdevice, hname⟩ := devicesIndex_navigate hindex
  rcases (listInv_run hlist hlisted).state with hfirst | ⟨reply, hreply, hstate⟩
  · rw [hfirst] at hloaded
    cases hloaded
  · cases reply with
    | error e =>
      rw [hstate] at hdevice
      cases hdevice
    | ok page =>
      rw [hstate] at hdevice
      have hnamed : truthy s.args.deviceId = some id :=
        truthy_eq_some.mpr ⟨hid, hname ▸ hfinds.named page hreply device hdevice⟩
      rcases DeviceAnalytics.view_of_stuck (DeviceAnalytics.inv_run hpage hanswered) hrest with
        ⟨hnone, _⟩ | ⟨id', answer, readings, hsame, hanswer, _, hview⟩
      · cases hnone.symm.trans hnamed
      · obtain rfl := Option.some.inj (hsame.symm.trans hnamed)
        obtain ⟨found, rfl⟩ := hfinds.found page hreply device hdevice answer (hname ▸ hanswer)
        exact ⟨found, _, hown.getDevice id' found hanswer, hview⟩

/-- The only device of the list is inactive, and its page is shown after that of another device. -/
theorem index_leads_to_device_two :
    let labels : List (EffectLabel Unit Unit (Settled (Paginated Device))) :=
      [.progress 0 (.ok ⟨[sensorTwo], 50, 0, 1⟩), .callback 0]
    let now := 1782864000000 + 7 * dayMs
    ∃ m s, run useDevices.step (useDevices.mount initialDevices () ()) labels = some m ∧
      devicesIndex dateJulyFirst (fun _ => now) m.state = .navigate "sensor-2" ∧
      run (DeviceAnalytics.step fun _ => julyFirst)
        (.mount (fun _ => julyFirst) sensorOneArgs now) (goOn now) = some s ∧
      ∃ found readings, found.deviceId = "sensor-2" ∧ s.view = .device found readings := by
  intro labels now
  obtain ⟨m, hlist, hindex⟩ : ∃ m,
      run useDevices.step (useDevices.mount initialDevices () ()) labels = some m ∧
        devicesIndex dateJulyFirst (fun _ => now) m.state = .navigate "sensor-2" :=
    ⟨_, rfl, by decide +kernel⟩
  obtain ⟨hanswered, s, hrun, hid, hwork, _⟩ := goOn_run
  refine ⟨m, s, hlist, hindex, hrun, ?_⟩
  have hnamed : ∀ device ∈ [sensorTwo], device.deviceId ≠ "" := by decide
  have hlisted : Along useDevices.step
      (mockReplies dateJulyFirst [sensorTwo] (.single sensorTwoNoon)).AnswersList
        (useDevices.mount initialDevices () ()) labels := by
    refine ⟨rfl, ?_⟩
    rintro _ ⟨⟩
    exact ⟨trivial, fun _ _ => trivial⟩
  exact index_leads_to_device (mockReplies_finds hnamed _ _) (mockReplies_own _ _ _) hlist hlisted
    hindex hrun hanswered hid fun _ ha => stuck_of_work hwork ha

end OpenWater.Frontend
