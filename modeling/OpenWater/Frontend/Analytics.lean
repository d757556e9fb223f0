import OpenWater.Frontend.Devices

/-!
# The page of a device

`DeviceAnalytics` of `frontend/src/pages/devices` uses both hooks side by side. React may show the
page with new arguments before it has run the effects for them, and requests of the one hook settle
independently of those of the other.
-/

namespace OpenWater.Frontend

open Framework Framework.Effect Ingestion Backend

/-! ## What the page shows -/

structure Chart where
  parameter : String
  range : ChartRange
  readings : Option (List Reading)
  deriving DecidableEq

inductive ReadingsView where
  | emptyState (title description : String)
  | cards (kpis : Option (List Reading)) (chart : Chart)
  deriving DecidableEq

inductive AnalyticsView where
  | nothing
  | emptyState (title description : String)
  | device (device : Device) (readings : ReadingsView)
  deriving DecidableEq

def readingsView (args : ReadingsDeps) (state : DeviceReadingsState) : ReadingsView :=
  match truthy state.error with
  | some error => .emptyState "Unable to load readings" error
  | none => .cards (if state.loading then none else some state.latest)
      ⟨args.parameter, args.range, if state.loading then none else some state.series⟩

def analyticsView (args : ReadingsDeps) (device : DeviceState) (readings : DeviceReadingsState) :
    AnalyticsView :=
  if device.loading then .nothing
  else match device.device, truthy device.error with
    | some found, none => .device found (readingsView args readings)
    | _, _ => .emptyState "Device not found" (device.error.getD
        "Select a device from the sidebar or choose a different device.")

/-! ## The page and its hooks -/

/-- What the page was last rendered with, and its two hooks. -/
structure DeviceAnalytics where
  args : ReadingsDeps
  device : Mounted (Option String) DeviceState DeviceRequest
  readings : Mounted ReadingsDeps DeviceReadingsState ReadingsRequests

inductive AnalyticsLabel where
  | navigate (deviceId : Option String)
  | setParameter (parameter : String)
  | setRange (range : ChartRange)
  | effects (now : Int)
  | remount (now : Int)
  | deviceReply (i : Nat) (reply : Settled (Option Device))
  | deviceCallback (i : Nat)
  | readingsReply (i : Nat) (e : PairEvent (List Reading) (Paginated Reading))
  | readingsCallback (i : Nat)

/-- A step that the user has no part in. -/
def AnalyticsLabel.isWork : AnalyticsLabel → Bool
  | .effects _ | .deviceReply _ _ | .deviceCallback _ | .readingsReply _ _ | .readingsCallback _ =>
    true
  | .navigate _ | .setParameter _ | .setRange _ | .remount _ => false

namespace DeviceAnalytics

variable (toISOString : Int → String)

def mount (args : ReadingsDeps) (now : Int) : DeviceAnalytics :=
  ⟨args, useDevice.mount (initialDevice args.deviceId) args.deviceId (),
    (useDeviceReadings toISOString).mount (initialReadings args) args now⟩

def stepDevice (s : DeviceAnalytics)
    (l : EffectLabel (Option String) Unit (Settled (Option Device))) : Option DeviceAnalytics :=
  (useDevice.step s.device l).map fun device => { s with device := device }

def stepReadings (s : DeviceAnalytics)
    (l : EffectLabel ReadingsDeps Int (PairEvent (List Reading) (Paginated Reading))) :
    Option DeviceAnalytics :=
  ((useDeviceReadings toISOString).step s.readings l).map fun readings =>
    { s with readings := readings }

/-- Effects run when there are some to run for the last render. A remount comes after them. -/
def step (s : DeviceAnalytics) : AnalyticsLabel → Option DeviceAnalytics
  | .navigate deviceId => some { s with args := { s.args with deviceId := deviceId } }
  | .setParameter parameter => some { s with args := { s.args with parameter := parameter } }
  | .setRange range => some { s with args := { s.args with range := range } }
  | .effects now =>
    if s.readings.deps = s.args then none
    else (s.stepDevice (.render s.args.deviceId ())).bind fun s' =>
      s'.stepReadings toISOString (.render s.args now)
  | .remount now =>
    if s.readings.deps = s.args then
      (s.stepDevice (.remount ())).bind fun s' => s'.stepReadings toISOString (.remount now)
    else none
  | .deviceReply i reply => s.stepDevice (.progress i reply)
  | .deviceCallback i => s.stepDevice (.callback i)
  | .readingsReply i e => s.stepReadings toISOString (.progress i e)
  | .readingsCallback i => s.stepReadings toISOString (.callback i)

def view (s : DeviceAnalytics) : AnalyticsView :=
  analyticsView s.args s.device.state s.readings.state

end DeviceAnalytics

/-! ## The API -/

/-- The replies that an API may give to each request. -/
structure Replies where
  listDevices : Settled (Paginated Device) → Prop
  getDevice : String → Settled (Option Device) → Prop
  latestReadings : String → Settled (List Reading) → Prop
  listReadings : String → ReadingsQuery → Settled (Paginated Reading) → Prop

/-- Devices and readings are those that a request names. -/
structure Replies.Own (replies : Replies) : Prop where
  getDevice : ∀ id device, replies.getDevice id (.ok (some device)) → device.deviceId = id
  latestReadings : ∀ id readings, replies.latestReadings id (.ok readings) →
    ∀ r ∈ readings, r.deviceId = id
  listReadings : ∀ id query page, replies.listReadings id query (.ok page) →
    ∀ r ∈ page.items, r.deviceId = id ∧ ∀ p ∈ query.parameter, r.parameter = p

/-- `getMockLatestReadings`; no series of a mock parameter is empty. -/
def latestReadings (data : MockData) (deviceId : String) : List Reading :=
  mockParameters.filterMap fun p => (data deviceId p.1).readings.getLast?

def mockReplies (date : String → Option Int) (mockDevices : List Device) (data : MockData) :
    Replies where
  listDevices reply := reply = .ok (listDevices mockDevices 50 0)
  getDevice id reply := reply = .ok (getDevice mockDevices id)
  latestReadings id reply := reply = .ok (latestReadings data id)
  listReadings id query reply := ∃ now now', reply = .ok (listReadings date data id query now now')

private theorem mem_listReadings {date : String → Option Int} {data : MockData} {deviceId : String}
    {query : ReadingsQuery} {now now' : Int} {r : Reading}
    (h : r ∈ (listReadings date data deviceId query now now').items) :
    r.deviceId = deviceId ∧ r.parameter = query.parameter.getD "ph" := by
  have hitems := (window_sublist _ _ _).subset h
  have hselected : r ∈ query.filterTo date (getMockReadings data deviceId
      (query.parameter.getD "ph") (query.days date now) now') :=
    (arrange_perm _).mem_iff.mp hitems
  rw [filterTo_eq] at hselected
  exact (data deviceId (query.parameter.getD "ph")).own r
    (List.mem_of_mem_filter (List.mem_of_mem_filter hselected))

theorem mockReplies_own (date : String → Option Int) (mockDevices : List Device) (data : MockData) :
    (mockReplies date mockDevices data).Own where
  getDevice id device h := getDevice_deviceId (Except.ok.inj h).symm
  latestReadings id readings h r hr := by
    obtain rfl := Except.ok.inj h
    obtain ⟨p, _, hlast⟩ := List.mem_filterMap.mp hr
    exact ((data id p.1).own r (List.mem_of_getLast? hlast)).1
  listReadings id query page h r hr := by
    obtain ⟨now, now', h⟩ := h
    obtain rfl := Except.ok.inj h
    have hown := mem_listReadings hr
    refine ⟨hown.1, fun p hp => ?_⟩
    rw [hown.2, Option.mem_def.mp hp, Option.getD_some]

def Replies.readings (replies : Replies) (toISOString : Int → String) (deps : ReadingsDeps)
    (deviceId : String) (reply : Settled (List Reading × Paginated Reading)) : Prop :=
  ∃ now, match reply with
    | .ok (latest, page) => replies.latestReadings deviceId (.ok latest) ∧
        replies.listReadings deviceId (readingsQuery toISOString deps now) (.ok page)
    | .error e => replies.latestReadings deviceId (.error e) ∨
        replies.listReadings deviceId (readingsQuery toISOString deps now) (.error e)

def Replies.Answers (replies : Replies) (s : DeviceAnalytics) : AnalyticsLabel → Prop
  | .deviceReply i reply => ∀ run, s.device.runs[i]? = some run → ∀ p, run.promise = some p →
      replies.getDevice p.deviceId reply
  | .readingsReply i (.first reply) => ∀ run, s.readings.runs[i]? = some run →
      ∀ p, run.promise = some p → replies.latestReadings p.deviceId reply
  | .readingsReply i (.second reply) => ∀ run, s.readings.runs[i]? = some run →
      ∀ p, run.promise = some p → replies.listReadings p.deviceId p.query reply
  | _ => True

/-! ## The requests of a hook -/

/-- The outcome is that of the replies so far, and there is one once both are there. -/
structure PromiseAll.Settles {α β : Type} (p : PromiseAll α β) : Prop where
  ok : ∀ a b, p.settled = some (.ok (a, b)) → p.first = some (.ok a) ∧ p.second = some (.ok b)
  error : ∀ e, p.settled = some (.error e) →
    p.first = some (.error e) ∨ p.second = some (.error e)
  complete : p.settled = none → p.first = none ∨ p.second = none

theorem PromiseAll.Settles.pending {α β : Type} :
    (PromiseAll.pending : PromiseAll α β).Settles where
  ok a b h := by cases h
  error e h := by cases h
  complete _ := .inl rfl

theorem PromiseAll.Settles.settle {α β : Type} {p : PromiseAll α β}
    (ok : ∀ a b, p.settled = some (.ok (a, b)) → p.first = some (.ok a) ∧ p.second = some (.ok b))
    (error : ∀ e, p.settled = some (.error e) →
      p.first = some (.error e) ∨ p.second = some (.error e)) : p.settle.Settles := by
  obtain ⟨first, second, settled⟩ := p
  cases settled with
  | some reply => exact ⟨ok, error, nofun⟩
  | none =>
    rcases first with _ | e | a <;> rcases second with _ | e' | b <;>
      constructor <;> simp [PromiseAll.settle]

theorem PromiseAll.Settles.progress {α β : Type} {p p' : PromiseAll α β} {e : PairEvent α β}
    (h : p.Settles) (hp : p.progress e = some p') : p'.Settles := by
  cases e with
  | first reply =>
    obtain ⟨hopen, hp⟩ := Option.ite_none_left_eq_some.mp hp
    obtain rfl := Option.some.inj hp
    have hnone : p.first = none := by simpa using hopen
    refine .settle (fun a b hs => ?_) fun e hs => ?_
    · cases hnone.symm.trans (h.ok a b hs).1
    · rcases h.error e hs with hfirst | hsecond
      · cases hnone.symm.trans hfirst
      · exact .inr hsecond
  | second reply =>
    obtain ⟨hopen, hp⟩ := Option.ite_none_left_eq_some.mp hp
    obtain rfl := Option.some.inj hp
    have hnone : p.second = none := by simpa using hopen
    refine .settle (fun a b hs => ?_) fun e hs => ?_
    · cases hnone.symm.trans (h.ok a b hs).2
    · rcases h.error e hs with hfirst | hsecond
      · exact .inl hfirst
      · cases hnone.symm.trans hsecond

def DeviceAnswered (replies : Replies) (deps : Option String) (promise : Option DeviceRequest) :
    Prop :=
  promise.map DeviceRequest.deviceId = truthy deps ∧
    ∀ p ∈ promise, ∀ reply ∈ p.reply, replies.getDevice p.deviceId reply

def ReadingsAnswered (replies : Replies) (toISOString : Int → String) (deps : ReadingsDeps)
    (promise : Option ReadingsRequests) : Prop :=
  promise.map ReadingsRequests.deviceId = truthy deps.deviceId ∧
    ∀ p ∈ promise, (∃ now, p.query = readingsQuery toISOString deps now) ∧ p.replies.Settles ∧
      (∀ reply ∈ p.replies.first, replies.latestReadings p.deviceId reply) ∧
      ∀ reply ∈ p.replies.second, replies.listReadings p.deviceId p.query reply

section hooks

variable {replies : Replies} {toISOString : Int → String}

private theorem deviceAnswered_body (deps : Option String) (read : Unit) (s : DeviceState) :
    DeviceAnswered replies deps (useDevice.body deps read s).2 := by
  simp only [useDevice]
  cases hdevice : truthy deps with
  | none =>
    refine ⟨hdevice.symm, fun p hp => ?_⟩
    cases hp
  | some deviceId =>
    refine ⟨hdevice.symm, fun p hp reply hreply => ?_⟩
    obtain rfl := Option.some.inj hp
    cases hreply

private theorem deviceAnswered_step {m m' : Mounted (Option String) DeviceState DeviceRequest}
    (h : Served useDevice (DeviceAnswered replies) m)
    {l : EffectLabel (Option String) Unit (Settled (Option Device))}
    (hl : ∀ i reply, l = .progress i reply → ∀ run, m.runs[i]? = some run →
      ∀ p, run.promise = some p → replies.getDevice p.deviceId reply)
    (hstep : useDevice.step m l = some m') : Served useDevice (DeviceAnswered replies) m' := by
  refine h.step deviceAnswered_body ?_ hstep
  intro i reply run p p' hlabel hrun hp hp' hanswered
  obtain ⟨_, hp'⟩ := Option.ite_none_left_eq_some.mp hp'
  obtain rfl := Option.some.inj hp'
  refine ⟨hanswered.1, fun q hq r hr => ?_⟩
  obtain rfl := Option.some.inj hq
  obtain rfl := Option.some.inj hr
  exact hl i reply hlabel run hrun p hp

private theorem device_loaded {m : Mounted (Option String) DeviceState DeviceRequest}
    (h : Served useDevice (DeviceAnswered replies) m) (hloaded : m.state.loading = false) :
    (truthy m.deps = none ∧ m.state = ⟨none, false, none⟩) ∨
      ∃ id reply, truthy m.deps = some id ∧ replies.getDevice id reply ∧
        m.state = deviceOutcome reply := by
  rcases h.shows with ⟨_, _, hs⟩ | ⟨p, ⟨hid, hreply⟩, hs⟩
  · left
    simp only [useDevice] at hs
    cases hdevice : truthy m.deps with
    | none =>
      rw [hdevice] at hs
      exact ⟨rfl, hs⟩
    | some deviceId =>
      rw [hs, hdevice] at hloaded
      cases hloaded
  · right
    obtain ⟨reply, hr, hs⟩ := Option.map_eq_some_iff.mp hs
    exact ⟨p.deviceId, reply, hid.symm, hreply p rfl reply hr, hs.symm⟩

private theorem deviceOutcome_loading (reply : Settled (Option Device)) :
    (deviceOutcome reply).loading = false := by
  rcases reply with _ | (_ | _) <;> rfl

private theorem device_idle {m : Mounted (Option String) DeviceState DeviceRequest}
    (h : Served useDevice (DeviceAnswered replies) m) (hidle : useDevice.Idle m) :
    m.state.loading = false := by
  have hopen : ∀ p, DeviceAnswered replies m.deps (some p) → useDevice.outcome p = none →
      ∃ e, (useDevice.progress p e).isSome = true := by
    intro p _ hp
    have hnone : p.reply = none := by simpa [useDevice] using hp
    exact ⟨.ok none, by simp [useDevice, hnone]⟩
  rcases h.of_idle hidle hopen with ⟨⟨hid, _⟩, _, _, hs⟩ | ⟨p, _, hs⟩
  · rw [hs]
    simp [useDevice, ← hid]
  · obtain ⟨reply, _, hs⟩ := Option.map_eq_some_iff.mp hs
    rw [← hs]
    exact deviceOutcome_loading reply

private theorem readingsAnswered_body (deps : ReadingsDeps) (now : Int) (s : DeviceReadingsState) :
    ReadingsAnswered replies toISOString deps
      ((useDeviceReadings toISOString).body deps now s).2 := by
  simp only [useDeviceReadings]
  cases hdevice : truthy deps.deviceId with
  | none =>
    refine ⟨hdevice.symm, fun p hp => ?_⟩
    cases hp
  | some deviceId =>
    refine ⟨hdevice.symm, fun p hp => ?_⟩
    obtain rfl := Option.some.inj hp
    refine ⟨⟨now, rfl⟩, .pending, fun reply hreply => ?_, fun reply hreply => ?_⟩
    · cases hreply
    · cases hreply

private theorem readingsAnswered_step
    {m m' : Mounted ReadingsDeps DeviceReadingsState ReadingsRequests}
    (h : Served (useDeviceReadings toISOString) (ReadingsAnswered replies toISOString) m)
    {l : EffectLabel ReadingsDeps Int (PairEvent (List Reading) (Paginated Reading))}
    (hfirst : ∀ i reply, l = .progress i (.first reply) → ∀ run, m.runs[i]? = some run →
      ∀ p, run.promise = some p → replies.latestReadings p.deviceId reply)
    (hsecond : ∀ i reply, l = .progress i (.second reply) → ∀ run, m.runs[i]? = some run →
      ∀ p, run.promise = some p → replies.listReadings p.deviceId p.query reply)
    (hstep : (useDeviceReadings toISOString).step m l = some m') :
    Served (useDeviceReadings toISOString) (ReadingsAnswered replies toISOString) m' := by
  refine h.step readingsAnswered_body ?_ hstep
  intro i e run p p' hlabel hrun hp hp' hanswered
  obtain ⟨hquery, hsettles, hlatest, hlist⟩ := hanswered.2 p rfl
  obtain ⟨replies', hprogress, rfl⟩ := Option.map_eq_some_iff.mp hp'
  refine ⟨hanswered.1, fun q hq => ?_⟩
  obtain rfl := Option.some.inj hq
  refine ⟨hquery, hsettles.progress hprogress, ?_⟩
  cases e with
  | first reply =>
    obtain ⟨_, hprogress⟩ := Option.ite_none_left_eq_some.mp hprogress
    obtain rfl := Option.some.inj hprogress
    refine ⟨fun r hr => ?_, hlist⟩
    obtain rfl := Option.some.inj hr
    exact hfirst i reply hlabel run hrun p hp
  | second reply =>
    obtain ⟨_, hprogress⟩ := Option.ite_none_left_eq_some.mp hprogress
    obtain rfl := Option.some.inj hprogress
    refine ⟨hlatest, fun r hr => ?_⟩
    obtain rfl := Option.some.inj hr
    exact hsecond i reply hlabel run hrun p hp

private theorem readings_of_settled {deps : ReadingsDeps} {p : ReadingsRequests}
    (h : ReadingsAnswered replies toISOString deps (some p))
    {reply : Settled (List Reading × Paginated Reading)} (hreply : p.replies.settled = some reply) :
    replies.readings toISOString deps p.deviceId reply := by
  obtain ⟨⟨now, hquery⟩, hsettles, hlatest, hlist⟩ := h.2 p rfl
  refine ⟨now, ?_⟩
  cases reply with
  | ok pair =>
    obtain ⟨hfirst, hsecond⟩ := hsettles.ok _ _ hreply
    exact ⟨hlatest _ hfirst, hquery ▸ hlist _ hsecond⟩
  | error e => exact (hsettles.error e hreply).imp (hlatest _) fun h => hquery ▸ hlist _ h

/-- The state of the readings hook: empty without a device, loading without an error, or the
outcome of its two requests. -/
theorem readings_shown {m : Mounted ReadingsDeps DeviceReadingsState ReadingsRequests}
    (h : Served (useDeviceReadings toISOString) (ReadingsAnswered replies toISOString) m) :
    (truthy m.deps.deviceId = none ∧ m.state = .empty) ∨
      (m.state.loading = true ∧ m.state.error = none) ∨
      ∃ id reply, truthy m.deps.deviceId = some id ∧
        replies.readings toISOString m.deps id reply ∧ m.state = readingsOutcome reply := by
  rcases h.shows with ⟨_, _, hs⟩ | ⟨p, hanswered, hs⟩
  · simp only [useDeviceReadings] at hs
    cases hdevice : truthy m.deps.deviceId with
    | none =>
      rw [hdevice] at hs
      exact .inl ⟨rfl, hs⟩
    | some deviceId =>
      rw [hdevice] at hs
      exact .inr (.inl ⟨by rw [hs], by rw [hs]⟩)
  · obtain ⟨reply, hr, hs⟩ := Option.map_eq_some_iff.mp hs
    exact .inr (.inr ⟨p.deviceId, reply, hanswered.1.symm, readings_of_settled hanswered hr,
      hs.symm⟩)

private theorem readingsOutcome_loading (reply : Settled (List Reading × Paginated Reading)) :
    (readingsOutcome reply).loading = false := by
  cases reply <;> rfl

private theorem readings_idle {m : Mounted ReadingsDeps DeviceReadingsState ReadingsRequests}
    (h : Served (useDeviceReadings toISOString) (ReadingsAnswered replies toISOString) m)
    (hidle : (useDeviceReadings toISOString).Idle m) : m.state.loading = false := by
  have hopen : ∀ p, ReadingsAnswered replies toISOString m.deps (some p) →
      (useDeviceReadings toISOString).outcome p = none →
        ∃ e, ((useDeviceReadings toISOString).progress p e).isSome = true := by
    intro p hanswered hp
    have hnone : p.replies.settled = none := Option.map_eq_none_iff.mp hp
    rcases (hanswered.2 p rfl).2.1.complete hnone with hfirst | hsecond
    · exact ⟨.first (.ok []), by simp [useDeviceReadings, PromiseAll.progress, hfirst]⟩
    · exact ⟨.second (.error .other), by
        simp [useDeviceReadings, PromiseAll.progress, hsecond]⟩
  rcases h.of_idle hidle hopen with ⟨⟨hid, _⟩, _, _, hs⟩ | ⟨p, _, hs⟩
  · rw [hs]
    simp [useDeviceReadings, ← hid, DeviceReadingsState.empty]
  · obtain ⟨reply, _, hs⟩ := Option.map_eq_some_iff.mp hs
    rw [← hs]
    exact readingsOutcome_loading reply

end hooks

/-! ## Both hooks -/

namespace DeviceAnalytics

structure Inv (replies : Replies) (toISOString : Int → String) (s : DeviceAnalytics) : Prop where
  device : Served useDevice (DeviceAnswered replies) s.device
  readings : Served (useDeviceReadings toISOString) (ReadingsAnswered replies toISOString)
    s.readings
  same : s.device.deps = s.readings.deps.deviceId

variable {replies : Replies} {toISOString : Int → String} {s s' : DeviceAnalytics}

theorem Inv.mount (args : ReadingsDeps) (now : Int) :
    Inv replies toISOString (mount toISOString args now) :=
  ⟨.mount deviceAnswered_body _ _ _, .mount readingsAnswered_body _ _ _, rfl⟩

theorem Inv.onDevice (h : Inv replies toISOString s)
    {l : EffectLabel (Option String) Unit (Settled (Option Device))}
    (hok : ∀ i reply, l = .progress i reply → replies.Answers s (.deviceReply i reply))
    (hdeps : l.depsAfter s.device.deps = s.device.deps)
    (hstep : s.stepDevice l = some s') : Inv replies toISOString s' := by
  obtain ⟨device, hdevice, rfl⟩ := Option.map_eq_some_iff.mp hstep
  exact ⟨deviceAnswered_step h.device hok hdevice, h.readings,
    (step_deps hdevice).trans (hdeps.trans h.same)⟩

theorem Inv.onReadings (h : Inv replies toISOString s)
    {l : EffectLabel ReadingsDeps Int (PairEvent (List Reading) (Paginated Reading))}
    (hok : ∀ i e, l = .progress i e → replies.Answers s (.readingsReply i e))
    (hdeps : l.depsAfter s.readings.deps = s.readings.deps)
    (hstep : s.stepReadings toISOString l = some s') : Inv replies toISOString s' := by
  obtain ⟨readings, hreadings, rfl⟩ := Option.map_eq_some_iff.mp hstep
  refine ⟨h.device, readingsAnswered_step h.readings ?_ ?_ hreadings, ?_⟩
  · intro i reply hlabel
    exact hok i _ hlabel
  · intro i reply hlabel
    exact hok i _ hlabel
  · rw [step_deps hreadings, hdeps]
    exact h.same

theorem Inv.both (h : Inv replies toISOString s)
    {l : EffectLabel (Option String) Unit (Settled (Option Device))}
    {l' : EffectLabel ReadingsDeps Int (PairEvent (List Reading) (Paginated Reading))}
    (hl : ∀ i reply, l ≠ .progress i reply) (hl' : ∀ i e, l' ≠ .progress i e)
    (hdeps : l.depsAfter s.device.deps = (l'.depsAfter s.readings.deps).deviceId)
    (hstep : ((s.stepDevice l).bind fun s' => s'.stepReadings toISOString l') = some s') :
    Inv replies toISOString s' := by
  obtain ⟨_, hfirst, hsecond⟩ := Option.bind_eq_some_iff.mp hstep
  obtain ⟨device, hdevice, rfl⟩ := Option.map_eq_some_iff.mp hfirst
  obtain ⟨readings, hreadings, rfl⟩ := Option.map_eq_some_iff.mp hsecond
  refine ⟨deviceAnswered_step h.device ?_ hdevice, readingsAnswered_step h.readings ?_ ?_ hreadings,
    ?_⟩
  · intro i reply hlabel
    exact absurd hlabel (hl i reply)
  · intro i reply hlabel
    exact absurd hlabel (hl' i _)
  · intro i reply hlabel
    exact absurd hlabel (hl' i _)
  · exact (step_deps hdevice).trans (hdeps.trans (congrArg _ (step_deps hreadings).symm))

theorem Inv.step {a : AnalyticsLabel} (h : Inv replies toISOString s) (hok : replies.Answers s a)
    (hstep : DeviceAnalytics.step toISOString s a = some s') : Inv replies toISOString s' := by
  cases a with
  | navigate deviceId =>
    obtain rfl := Option.some.inj hstep
    exact ⟨h.device, h.readings, h.same⟩
  | setParameter parameter =>
    obtain rfl := Option.some.inj hstep
    exact ⟨h.device, h.readings, h.same⟩
  | setRange range =>
    obtain rfl := Option.some.inj hstep
    exact ⟨h.device, h.readings, h.same⟩
  | effects now =>
    obtain ⟨_, hstep⟩ := Option.ite_none_left_eq_some.mp hstep
    refine h.both ?_ ?_ ?_ hstep
    · exact nofun
    · exact nofun
    · rfl
  | remount now =>
    obtain ⟨_, hstep⟩ := Option.ite_none_right_eq_some.mp hstep
    refine h.both ?_ ?_ ?_ hstep
    · exact nofun
    · exact nofun
    · exact h.same
  | deviceReply i reply =>
    apply h.onDevice ?_ rfl hstep
    intro j reply' hlabel
    cases hlabel
    exact hok
  | deviceCallback i =>
    apply h.onDevice ?_ rfl hstep
    intro j reply hlabel
    cases hlabel
  | readingsReply i e =>
    apply h.onReadings ?_ rfl hstep
    intro j e' hlabel
    cases hlabel
    exact hok
  | readingsCallback i =>
    apply h.onReadings ?_ rfl hstep
    intro j e hlabel
    cases hlabel

theorem inv_run {args : ReadingsDeps} {now : Int} {labels : List AnalyticsLabel}
    (hrun : run (DeviceAnalytics.step toISOString) (.mount toISOString args now) labels = some s)
    (hanswered : Along (DeviceAnalytics.step toISOString) replies.Answers
      (.mount toISOString args now) labels) : Inv replies toISOString s :=
  run_invariant (fun _ _ _ h hok hstep => h.step hok hstep) (.mount args now) hanswered hrun

/-! ## One device at a time -/

private theorem view_device {found : Device} {content : ReadingsView}
    (h : s.view = .device found content) :
    s.device.state.loading = false ∧ s.device.state.device = some found ∧
      content = readingsView s.args s.readings.state := by
  unfold view analyticsView at h
  split at h
  · cases h
  · rename_i hloading
    refine ⟨by simpa using hloading, ?_⟩
    split at h
    · rename_i hdevice _
      injection h with hfound hcontent
      exact ⟨hfound ▸ hdevice, hcontent.symm⟩
    · cases h

end DeviceAnalytics

theorem truthy_eq_some {text : Option String} {id : String} :
    truthy text = some id ↔ text = some id ∧ id ≠ "" := by
  simp [truthy, Option.filter_eq_some_iff]

private theorem deviceOutcome_device {reply : Settled (Option Device)} {found : Device} :
    (deviceOutcome reply).device = some found ↔ reply = .ok (some found) := by
  rcases reply with _ | (_ | _) <;> simp [deviceOutcome]

private theorem cards_cases {args : ReadingsDeps} {state : DeviceReadingsState}
    {kpis : Option (List Reading)} {chart : Chart}
    (h : readingsView args state = .cards kpis chart) :
    (state.loading = true ∧ kpis = none ∧ chart.readings = none) ∨
      (state.loading = false ∧ kpis = some state.latest ∧ chart.readings = some state.series) := by
  unfold readingsView at h
  split at h
  · cases h
  · injection h with hkpis hchart
    rw [← hkpis, ← hchart]
    cases state.loading <;> simp

theorem Replies.Own.readings {replies : Replies} (hown : replies.Own)
    {toISOString : Int → String} {deps : ReadingsDeps} {id : String}
    {reply : Settled (List Reading × Paginated Reading)}
    (h : replies.readings toISOString deps id reply) :
    (∀ r ∈ (readingsOutcome reply).latest, r.deviceId = id) ∧
      ∀ r ∈ (readingsOutcome reply).series, r.deviceId = id ∧ r.parameter = deps.parameter := by
  obtain ⟨now, h⟩ := h
  cases reply with
  | error e => exact ⟨nofun, nofun⟩
  | ok pair =>
    refine ⟨hown.latestReadings id _ h.1, fun r hr => ?_⟩
    obtain ⟨hid, hparameter⟩ := hown.listReadings id _ _ h.2 r hr
    exact ⟨hid, hparameter _ rfl⟩

namespace DeviceAnalytics

variable {replies : Replies} {toISOString : Int → String} {s s' : DeviceAnalytics}

/-! ## Coming to rest -/

def openRequest (p : DeviceRequest) : Nat := if p.reply.isSome then 0 else 1

def openRequests (p : ReadingsRequests) : Nat :=
  (if p.replies.first.isSome then 0 else 1) + if p.replies.second.isSome then 0 else 1

/-- What is left to do when the user does nothing; effects that have still to run can leave up to
five steps behind. -/
def work (s : DeviceAnalytics) : Nat :=
  (if s.readings.deps = s.args then 0 else 6) + Effect.work openRequest s.device +
    Effect.work openRequests s.readings

private theorem openRequest_progress (p : DeviceRequest) (reply : Settled (Option Device))
    (p' : DeviceRequest) (h : useDevice.progress p reply = some p') :
    openRequest p' < openRequest p := by
  obtain ⟨hopen, h⟩ := Option.ite_none_left_eq_some.mp h
  obtain rfl := Option.some.inj h
  simp [openRequest, hopen]

private theorem openRequests_progress (p : ReadingsRequests)
    (e : PairEvent (List Reading) (Paginated Reading)) (p' : ReadingsRequests)
    (h : (useDeviceReadings toISOString).progress p e = some p') :
    openRequests p' < openRequests p := by
  obtain ⟨replies, hprogress, rfl⟩ := Option.map_eq_some_iff.mp h
  cases e with
  | first reply =>
    obtain ⟨hopen, hprogress⟩ := Option.ite_none_left_eq_some.mp hprogress
    obtain rfl := Option.some.inj hprogress
    rw [openRequests, openRequests, if_neg hopen]
    change 0 + (if p.replies.second.isSome then 0 else 1) < 1 + _
    exact Nat.add_lt_add_right Nat.zero_lt_one _
  | second reply =>
    obtain ⟨hopen, hprogress⟩ := Option.ite_none_left_eq_some.mp hprogress
    obtain rfl := Option.some.inj hprogress
    rw [openRequests, openRequests, if_neg hopen]
    change (if p.replies.first.isSome then 0 else 1) + 0 < _ + 1
    exact Nat.add_lt_add_left Nat.zero_lt_one _

private theorem work_effects {now : Int}
    (hstep : DeviceAnalytics.step toISOString s (.effects now) = some s') : s'.work < s.work := by
  obtain ⟨hpending, hstep⟩ := Option.ite_none_left_eq_some.mp hstep
  obtain ⟨_, hfirst, hsecond⟩ := Option.bind_eq_some_iff.mp hstep
  obtain ⟨device, hdevice, rfl⟩ := Option.map_eq_some_iff.mp hfirst
  obtain ⟨readings, hreadings, rfl⟩ := Option.map_eq_some_iff.mp hsecond
  have hdevice' : Effect.work openRequest device ≤ Effect.work openRequest s.device + 2 := by
    obtain rfl := Option.some.inj hdevice
    split
    · exact Nat.le_add_right _ _
    · rw [work_rerun]
      simp only [useDevice]
      cases truthy s.args.deviceId <;> simp [openRequest]
  have hreadings' : Effect.work openRequests readings ≤
      Effect.work openRequests s.readings + 3 := by
    obtain rfl := Option.some.inj hreadings
    split
    · exact Nat.le_add_right _ _
    · rw [work_rerun]
      simp only [useDeviceReadings]
      cases truthy s.args.deviceId <;> simp [openRequests, PromiseAll.pending]
  have hdeps : readings.deps = s.args := step_deps hreadings
  rw [work, work, if_pos hdeps, if_neg hpending]
  change 0 + Effect.work openRequest device + Effect.work openRequests readings < _
  omega

theorem work_step {a : AnalyticsLabel} (ha : a.isWork = true)
    (hstep : DeviceAnalytics.step toISOString s a = some s') : s'.work < s.work := by
  cases a with
  | effects now => exact work_effects hstep
  | deviceReply i reply =>
    obtain ⟨device, hdevice, rfl⟩ := Option.map_eq_some_iff.mp hstep
    have hless := work_progress openRequest_progress hdevice
    exact Nat.add_lt_add_right (Nat.add_lt_add_left hless _) _
  | deviceCallback i =>
    obtain ⟨device, hdevice, rfl⟩ := Option.map_eq_some_iff.mp hstep
    have hless : Effect.work openRequest device < Effect.work openRequest s.device :=
      work_callback hdevice
    exact Nat.add_lt_add_right (Nat.add_lt_add_left hless _) _
  | readingsReply i e =>
    obtain ⟨readings, hreadings, rfl⟩ := Option.map_eq_some_iff.mp hstep
    have hless := work_progress openRequests_progress hreadings
    have hdeps : readings.deps = s.readings.deps := step_deps hreadings
    rw [work, work, hdeps]
    exact Nat.add_lt_add_left hless _
  | readingsCallback i =>
    obtain ⟨readings, hreadings, rfl⟩ := Option.map_eq_some_iff.mp hstep
    have hless : Effect.work openRequests readings < Effect.work openRequests s.readings :=
      work_callback hreadings
    have hdeps : readings.deps = s.readings.deps := step_deps hreadings
    rw [work, work, hdeps]
    exact Nat.add_lt_add_left hless _
  | _ => cases ha

theorem stuck_of_work (h : s.work = 0) {a : AnalyticsLabel} (ha : a.isWork = true) :
    DeviceAnalytics.step toISOString s a = none := by
  cases hstep : DeviceAnalytics.step toISOString s a with
  | none => rfl
  | some s' =>
    have hless := work_step ha hstep
    omega

theorem idle_of_stuck (hstuck : ∀ a, a.isWork = true →
    DeviceAnalytics.step toISOString s a = none) :
    s.readings.deps = s.args ∧ useDevice.Idle s.device ∧
      (useDeviceReadings toISOString).Idle s.readings := by
  refine ⟨?_, fun i => ⟨fun reply => ?_, ?_⟩, fun i => ⟨fun e => ?_, ?_⟩⟩
  · by_contra hpending
    have hnone := hstuck (.effects 0) rfl
    simp [DeviceAnalytics.step, hpending, stepDevice, stepReadings, Effect.step] at hnone
  · exact Option.map_eq_none_iff.mp (hstuck (.deviceReply i reply) rfl)
  · exact Option.map_eq_none_iff.mp (hstuck (.deviceCallback i) rfl)
  · exact Option.map_eq_none_iff.mp (hstuck (.readingsReply i e) rfl)
  · exact Option.map_eq_none_iff.mp (hstuck (.readingsCallback i) rfl)

/-- At rest the page is the view of what the API has answered. -/
theorem view_of_stuck (hinv : Inv replies toISOString s)
    (hstuck : ∀ a, a.isWork = true → DeviceAnalytics.step toISOString s a = none) :
    (truthy s.args.deviceId = none ∧ s.view = .emptyState "Device not found"
        "Select a device from the sidebar or choose a different device.") ∨
      ∃ id device readings, truthy s.args.deviceId = some id ∧ replies.getDevice id device ∧
        replies.readings toISOString s.args id readings ∧
          s.view = analyticsView s.args (deviceOutcome device) (readingsOutcome readings) := by
  obtain ⟨hargs, hdevice, hreadings⟩ := idle_of_stuck hstuck
  have hsame : s.device.deps = s.args.deviceId := hargs ▸ hinv.same
  have hloaded := readings_idle hinv.readings hreadings
  rcases device_loaded hinv.device (device_idle hinv.device hdevice) with
    ⟨hnone, hstate⟩ | ⟨id, device, hid, hreply, hstate⟩
  · left
    refine ⟨hsame ▸ hnone, ?_⟩
    rw [view, hstate]
    rfl
  · right
    rw [hsame] at hid
    have hshown := readings_shown hinv.readings
    rw [hargs] at hshown
    rcases hshown with ⟨hnone, _⟩ | ⟨hloading, _⟩ | ⟨id', readings, hid', hanswer, hstate'⟩
    · cases hnone.symm.trans hid
    · cases hloading.symm.trans hloaded
    · obtain rfl := Option.some.inj (hid'.symm.trans hid)
      refine ⟨id', device, readings, hid, hreply, hanswer, ?_⟩
      rw [view, hstate, hstate']

/-! ## From one device to another -/

def sensorTwo : Device := ⟨"sensor-2", julyFirst, julyFirst, none, none⟩

def sensorTwoNoon : Reading := ⟨"sensor-2", 1782907200000, "ph", .finite 7, "pH"⟩

def sensorOneArgs : ReadingsDeps := ⟨some "sensor-1", "ph", .days7⟩

def goOn (now : Int) : List AnalyticsLabel :=
  [.navigate (some "sensor-2"), .deviceReply 0 (.ok none), .effects now,
    .readingsReply 0 (.first (.ok [])), .deviceReply 1 (.ok (some sensorTwo)),
    .readingsReply 1 (.second (.ok ⟨[sensorTwoNoon], 1, 0, 1⟩)),
    .readingsReply 0 (.second (.ok ⟨[], 0, 0, 0⟩)), .readingsReply 1 (.first (.ok [sensorTwoNoon])),
    .readingsCallback 1, .deviceCallback 1, .deviceCallback 0, .readingsCallback 0]

theorem goOn_run :
    let now := 1782864000000 + 7 * dayMs
    let replies := mockReplies dateJulyFirst [sensorTwo] (.single sensorTwoNoon)
    Along (DeviceAnalytics.step fun _ => julyFirst) replies.Answers
        (.mount (fun _ => julyFirst) sensorOneArgs now) (goOn now) ∧
      ∃ s, run (DeviceAnalytics.step fun _ => julyFirst)
          (.mount (fun _ => julyFirst) sensorOneArgs now) (goOn now) = some s ∧
        s.args.deviceId = some "sensor-2" ∧ s.work = 0 ∧ s.view = .device sensorTwo
          (.cards (some [sensorTwoNoon]) ⟨"ph", .days7, some [sensorTwoNoon]⟩) := by
  intro now replies
  refine ⟨?_, _, rfl, rfl, by decide +kernel, rfl⟩
  have hother : none = getDevice [sensorTwo] "sensor-1" := by decide
  have hdevice : some sensorTwo = getDevice [sensorTwo] "sensor-2" := by decide
  have hnone : [] = latestReadings (.single sensorTwoNoon) "sensor-1" := by decide +kernel
  have hlatest : [sensorTwoNoon] = latestReadings (.single sensorTwoNoon) "sensor-2" := by
    decide +kernel
  have hempty : ⟨[], 0, 0, 0⟩ = listReadings dateJulyFirst (.single sensorTwoNoon) "sensor-1"
      (readingsQuery (fun _ => julyFirst) sensorOneArgs now) (now + 250) (now + 250) := by
    decide +kernel
  have hlist : ⟨[sensorTwoNoon], 1, 0, 1⟩ = listReadings dateJulyFirst (.single sensorTwoNoon)
      "sensor-2" (readingsQuery (fun _ => julyFirst) ⟨some "sensor-2", "ph", .days7⟩ now)
        (now + 250) (now + 250) := by decide +kernel
  refine ⟨trivial, ?_⟩
  rintro _ ⟨⟩
  refine ⟨?_, ?_⟩
  · rintro _ ⟨⟩ _ ⟨⟩
    exact congrArg Except.ok hother
  rintro _ ⟨⟩
  refine ⟨trivial, ?_⟩
  rintro _ ⟨⟩
  refine ⟨?_, ?_⟩
  · rintro _ ⟨⟩ _ ⟨⟩
    exact congrArg Except.ok hnone
  rintro _ ⟨⟩
  refine ⟨?_, ?_⟩
  · rintro _ ⟨⟩ _ ⟨⟩
    exact congrArg Except.ok hdevice
  rintro _ ⟨⟩
  refine ⟨?_, ?_⟩
  · rintro _ ⟨⟩ _ ⟨⟩
    exact ⟨now + 250, now + 250, congrArg Except.ok hlist⟩
  rintro _ ⟨⟩
  refine ⟨?_, ?_⟩
  · rintro _ ⟨⟩ _ ⟨⟩
    exact ⟨now + 250, now + 250, congrArg Except.ok hempty⟩
  rintro _ ⟨⟩
  refine ⟨?_, ?_⟩
  · rintro _ ⟨⟩ _ ⟨⟩
    exact congrArg Except.ok hlatest
  exact fun _ _ => ⟨trivial, fun _ _ => ⟨trivial, fun _ _ => ⟨trivial, fun _ _ => ⟨trivial,
    fun _ _ => trivial⟩⟩⟩⟩

/-- However the user goes from device to device and from parameter to parameter, and in whatever
order the requests settle: with a device the page never shows a reading of another one, nor on the
chart a reading of another parameter than the effects have asked for last. -/
theorem page_shows_one_device (hown : replies.Own) {args : ReadingsDeps} {now : Int}
    {labels : List AnalyticsLabel}
    (hrun : run (DeviceAnalytics.step toISOString) (.mount toISOString args now) labels = some s)
    (hanswered : Along (DeviceAnalytics.step toISOString) replies.Answers
      (.mount toISOString args now) labels)
    {found : Device} {content : ReadingsView} (hview : s.view = .device found content) :
    s.readings.deps.deviceId = some found.deviceId ∧
      ∀ kpis chart, content = .cards kpis chart →
        (∀ r ∈ kpis.getD [], r.deviceId = found.deviceId) ∧
          ∀ r ∈ chart.readings.getD [],
            r.deviceId = found.deviceId ∧ r.parameter = s.readings.deps.parameter := by
  have hinv := inv_run hrun hanswered
  obtain ⟨hloaded, hfound, rfl⟩ := view_device hview
  rcases device_loaded hinv.device hloaded with ⟨_, hstate⟩ | ⟨id, reply, hid, hreply, hstate⟩
  · rw [hstate] at hfound
    cases hfound
  · rw [hstate, deviceOutcome_device] at hfound
    obtain rfl := hfound
    obtain rfl := hown.getDevice id found hreply
    rw [hinv.same] at hid
    refine ⟨(truthy_eq_some.mp hid).1, fun kpis chart hcards => ?_⟩
    rcases cards_cases hcards with ⟨_, rfl, hchart⟩ | ⟨hloaded, rfl, hchart⟩
    · rw [hchart]
      exact ⟨nofun, nofun⟩
    · rw [hchart]
      rcases readings_shown hinv.readings with ⟨hnone, _⟩ | ⟨hloading, _⟩ |
        ⟨id, reply, hid', hreadings, hstate⟩
      · cases hnone.symm.trans hid
      · cases hloading.symm.trans hloaded
      · obtain rfl := Option.some.inj (hid'.symm.trans hid)
        rw [hstate]
        exact hown.readings hreadings

/-- On the page of the second device, only its reading is shown. -/
theorem page_shows_one_device_two :
    let now := 1782864000000 + 7 * dayMs
    ∃ s, run (DeviceAnalytics.step fun _ => julyFirst)
        (.mount (fun _ => julyFirst) sensorOneArgs now) (goOn now) = some s ∧
      s.view = .device sensorTwo
        (.cards (some [sensorTwoNoon]) ⟨"ph", .days7, some [sensorTwoNoon]⟩) ∧
      s.readings.deps.deviceId = some sensorTwo.deviceId := by
  intro now
  obtain ⟨hanswered, s, hrun, _, _, hview⟩ := goOn_run
  exact ⟨s, hrun, hview, (page_shows_one_device (mockReplies_own _ _ _) hrun hanswered hview).1⟩

/-- Left alone, the page comes to rest after a bounded number of steps in whatever order, and then
shows what the API has answered for the device, the parameter and the range it was last rendered
with: nothing that happened before has left a trace. -/
theorem page_comes_to_rest {args : ReadingsDeps} {now : Int} {labels : List AnalyticsLabel}
    (hrun : run (DeviceAnalytics.step toISOString) (.mount toISOString args now) labels = some s)
    (hanswered : Along (DeviceAnalytics.step toISOString) replies.Answers
      (.mount toISOString args now) labels) :
    (∀ as t, (∀ a ∈ as, a.isWork = true) → run (DeviceAnalytics.step toISOString) s as = some t →
      as.length ≤ s.work) ∧
    ((∀ a, a.isWork = true → DeviceAnalytics.step toISOString s a = none) →
      (truthy s.args.deviceId = none ∧ s.view = .emptyState "Device not found"
          "Select a device from the sidebar or choose a different device.") ∨
        ∃ id device readings, truthy s.args.deviceId = some id ∧ replies.getDevice id device ∧
          replies.readings toISOString s.args id readings ∧
            s.view = analyticsView s.args (deviceOutcome device) (readingsOutcome readings)) := by
  refine ⟨fun as t has has' => ?_, view_of_stuck (inv_run hrun hanswered)⟩
  have hlength := length_le_work (fun _ _ _ ha hstep => work_step ha hstep) has has'
  omega

/-- Once the user has gone on, the page works off at most the steps that are left, and then shows
what the API has for the second device. -/
theorem page_comes_to_rest_two :
    let now := 1782864000000 + 7 * dayMs
    let replies := mockReplies dateJulyFirst [sensorTwo] (.single sensorTwoNoon)
    ∃ s t, run (DeviceAnalytics.step fun _ => julyFirst)
        (.mount (fun _ => julyFirst) sensorOneArgs now) [.navigate (some "sensor-2")] = some s ∧
      run (DeviceAnalytics.step fun _ => julyFirst) s (goOn now).tail = some t ∧
      (goOn now).tail.length ≤ s.work ∧
      ∃ id device readings, truthy t.args.deviceId = some id ∧ replies.getDevice id device ∧
        replies.readings (fun _ => julyFirst) t.args id readings ∧
          t.view = analyticsView t.args (deviceOutcome device) (readingsOutcome readings) := by
  intro now replies
  obtain ⟨hanswered, t, hrun, hid, hwork, _⟩ := goOn_run
  obtain ⟨s, hnavigate, hrest⟩ := run_cons.mp hrun
  have hfirst : run (DeviceAnalytics.step fun _ => julyFirst)
      (.mount (fun _ => julyFirst) sensorOneArgs now) [.navigate (some "sensor-2")] = some s :=
    run_cons.mpr ⟨s, hnavigate, rfl⟩
  have hleft : ∀ a ∈ (goOn now).tail, a.isWork = true := by simp [goOn, AnalyticsLabel.isWork]
  have hasked : Along (DeviceAnalytics.step fun _ => julyFirst) replies.Answers
      (.mount (fun _ => julyFirst) sensorOneArgs now) [.navigate (some "sensor-2")] :=
    ⟨trivial, fun _ _ => trivial⟩
  have hbound := (page_comes_to_rest hfirst hasked).1 _ t hleft hrest
  have hshown := (page_comes_to_rest hrun hanswered).2 fun a ha => stuck_of_work hwork ha
  refine ⟨s, t, hfirst, hrest, hbound, hshown.resolve_left ?_⟩
  rintro ⟨hnone, _⟩
  rw [hid] at hnone
  cases hnone

end DeviceAnalytics

end OpenWater.Frontend
