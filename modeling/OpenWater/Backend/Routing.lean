import OpenWater.Backend.Devices
import OpenWater.Framework.Percent
import OpenWater.Ingestion.Acceptance

/-!
# Paths of devices

The routes of `backend/owp_backend/routes/` in the order in which they are registered, and the
requests for a device: the id is percent-encoded by the client, and a path is decoded before the
routes are tried.
-/

namespace OpenWater.Backend

open Framework Ingestion

inductive Endpoint where
  | liveness
  | readiness
  | listReadings
  | latestReadings
  | listDevices
  | getDevice
  deriving DecidableEq

/-- A path, or the two parts of a path around `{device_id}`. -/
inductive Template where
  | literal (path : String)
  | device (before after : String)

/-- `{device_id}` stands for one nonempty run of characters other than `/`. -/
def deviceIdIn (before after path : String) : Option String :=
  let run := (path.toList.drop before.length).take (path.length - before.length - after.length)
  if path.toList = before.toList ++ run ++ after.toList ∧ run ≠ [] ∧ '/' ∉ run then
    some (String.ofList run)
  else none

def Template.matchPath : Template → String → Option (Option String)
  | .literal path', path => if path = path' then some none else none
  | .device before after, path => (deviceIdIn before after path).map some

def apiRouter : List (Endpoint × Template) :=
  [(.liveness, .literal "/health"),
    (.readiness, .literal "/health/ready"),
    (.listReadings, .device "/api/v1/devices/" "/readings"),
    (.latestReadings, .device "/api/v1/devices/" "/readings/latest"),
    (.listDevices, .literal "/api/v1/devices"),
    (.getDevice, .device "/api/v1/devices/" "")]

/-- The first route that matches, with its parameter. -/
def route (path : String) : Option (Endpoint × Option String) :=
  apiRouter.findSome? fun entry => (entry.2.matchPath path).map (entry.1, ·)

def serve (target : List UInt8) : Option (Endpoint × Option String) :=
  (utf8Decode (percentDecode target)).bind route

/-- The endpoints of one device, and what stands after its id in their paths. -/
def deviceEndpoints : List (Endpoint × String) :=
  [(.getDevice, ""), (.listReadings, "/readings"), (.latestReadings, "/readings/latest")]

def devicePath (deviceId after : String) : String := "/api/v1/devices/" ++ deviceId ++ after

def deviceTarget (deviceId after : String) : List UInt8 :=
  utf8 "/api/v1/devices/" ++ percentEncode (utf8 deviceId) ++ utf8 after

private theorem deviceIdIn_eq_some {before after path d : String} :
    deviceIdIn before after path = some d ↔
      path = before ++ d ++ after ∧ d ≠ "" ∧ '/' ∉ d.toList := by
  simp only [deviceIdIn, Option.ite_none_right_eq_some, Option.some.injEq]
  constructor
  · rintro ⟨⟨hpath, hne, hslash⟩, rfl⟩
    refine ⟨?_, by simpa using hne, by simpa using hslash⟩
    rw [← String.toList_inj]
    simpa using hpath
  · rintro ⟨rfl, hne, hslash⟩
    have hdrop : (before ++ d ++ after).toList.drop before.length = d.toList ++ after.toList := by
      rw [String.toList_append, String.toList_append, List.append_assoc, ← String.length_toList,
        List.drop_left]
    have hlength : (before ++ d ++ after).length - before.length - after.length =
        d.toList.length := by
      simp only [String.length_append, String.length_toList]
      omega
    rw [hdrop, hlength, List.take_left]
    refine ⟨⟨by simp, by simpa using hne, hslash⟩, by simp⟩

private theorem serve_deviceTarget (d : String) {e : Endpoint} {after : String}
    (h : (e, after) ∈ deviceEndpoints) :
    serve (deviceTarget d after) = route (devicePath d after) := by
  have hafter : percentDecode (utf8 after) = utf8 after := by
    simp only [deviceEndpoints, List.mem_cons, Prod.mk.injEq, List.not_mem_nil, or_false] at h
    rcases h with ⟨rfl, rfl⟩ | ⟨rfl, rfl⟩ | ⟨rfl, rfl⟩ <;> decide +kernel
  rw [serve, deviceTarget, List.append_assoc, percentDecode_append (by decide +kernel),
    percentDecode_encode, hafter, ← List.append_assoc, ← utf8_append, ← utf8_append,
    utf8Decode_utf8]
  rfl

private theorem deviceIdIn_eq_none {before after path : String}
    (h : ∀ d, path = before ++ d ++ after → '/' ∈ d.toList) :
    deviceIdIn before after path = none := by
  rw [Option.eq_none_iff_forall_ne_some]
  intro d hd
  obtain ⟨hpath, _, hslash⟩ := deviceIdIn_eq_some.mp hd
  exact hslash (h d hpath)

private theorem devicePath_ne {d after path : String} (h : path.length ≤ 15) :
    devicePath d after ≠ path := by
  rintro rfl
  unfold devicePath at h
  simp only [String.length_append] at h
  have hprefix : "/api/v1/devices/".length = 16 := rfl
  omega

private theorem devicePath_eq {d after m after' : String}
    (h : devicePath d after = "/api/v1/devices/" ++ m ++ after') :
    d.toList ++ after.toList = m.toList ++ after'.toList := by
  unfold devicePath at h
  rw [← String.toList_inj] at h
  simpa [List.append_assoc] using h

private theorem route_devicePath {d : String} (hd : d ≠ "") (hslash : '/' ∉ d.toList) {e : Endpoint}
    {after : String} (h : (e, after) ∈ deviceEndpoints) :
    route (devicePath d after) = some (e, some d) := by
  have hfound : deviceIdIn "/api/v1/devices/" after (devicePath d after) = some d :=
    deviceIdIn_eq_some.mpr ⟨rfl, hd, hslash⟩
  have hhealth : devicePath d after ≠ "/health" := devicePath_ne (by decide)
  have hready : devicePath d after ≠ "/health/ready" := devicePath_ne (by decide)
  have hlist : devicePath d after ≠ "/api/v1/devices" := devicePath_ne (by decide)
  simp only [deviceEndpoints, List.mem_cons, Prod.mk.injEq, List.not_mem_nil, or_false] at h
  rcases h with ⟨rfl, rfl⟩ | ⟨rfl, rfl⟩ | ⟨rfl, rfl⟩
  · -- No path of one run ends in `/readings` or `/readings/latest`.
    have hnone : ∀ after', '/' ∈ after'.toList →
        deviceIdIn "/api/v1/devices/" after' (devicePath d "") = none := by
      intro after' hafter
      refine deviceIdIn_eq_none fun m hm => absurd ?_ hslash
      have hchars := devicePath_eq hm
      rw [String.toList_empty, List.append_nil] at hchars
      rw [hchars]
      exact List.mem_append_right _ hafter
    simp [route, apiRouter, Template.matchPath, hhealth, hready, hlist, hfound,
      hnone "/readings" (by decide), hnone "/readings/latest" (by decide)]
  · simp [route, apiRouter, Template.matchPath, hhealth, hready, hfound]
  · have hnone : deviceIdIn "/api/v1/devices/" "/readings" (devicePath d "/readings/latest") =
        none := by
      refine deviceIdIn_eq_none fun m hm => ?_
      have hlast := congrArg List.getLast? (devicePath_eq hm)
      simp at hlast
    simp [route, apiRouter, Template.matchPath, hhealth, hready, hfound, hnone]

private theorem route_no_slash {path : String} {e : Endpoint} {d : String}
    (h : route path = some (e, some d)) : '/' ∉ d.toList := by
  obtain ⟨entry, _, hmatch⟩ := List.exists_of_findSome?_eq_some h
  obtain ⟨e', t⟩ := entry
  obtain ⟨found, hfound, heq⟩ := Option.map_eq_some_iff.mp hmatch
  obtain rfl : found = some d := (Prod.mk.inj heq).2
  cases t with
  | literal path' => simp [Template.matchPath] at hfound
  | device before after =>
    obtain ⟨d', hd', hsome⟩ := Option.map_eq_some_iff.mp hfound
    obtain rfl := Option.some.inj hsome
    exact (deviceIdIn_eq_some.mp hd').2.2

theorem served_iff {d : String} (hd : d ≠ "") :
    (∀ e after, (e, after) ∈ deviceEndpoints →
        serve (deviceTarget d after) = some (e, some d)) ↔ '/' ∉ d.toList := by
  constructor
  · intro hall
    have hget := hall .getDevice "" (by simp [deviceEndpoints])
    rw [serve_deviceTarget d (e := .getDevice) (by simp [deviceEndpoints])] at hget
    exact route_no_slash hget
  · intro hslash e after h
    rw [serve_deviceTarget d h, route_devicePath hd hslash h]

private theorem getDevice_registered {db : PgState} (h : Reachable db) {row : DeviceRow}
    (hrow : row ∈ db.devices.rows) :
    ∃ out, Routes.getDevice none row.deviceId db = .ok out ∧ out.deviceId = row.deviceId := by
  obtain ⟨out, hout, hid, _⟩ := deviceToOut_ok (db.checks row hrow)
  have hget : Backend.getDevice none row.deviceId db = .ok (some row) :=
    getDevice_ok.mpr ⟨rfl, (h.device_text row hrow).2, Table.lookup_of_mem hrow⟩
  refine ⟨out, ?_, hid⟩
  rw [Routes.getDevice, hget]
  exact mapError_ok.mpr hout

/-- Every device of a registry is served at its three paths and can be fetched, and no two devices
share a path, exactly when no id has a `/`. -/
theorem registry_addressable_iff {db : PgState} (h : Reachable db) :
    ((∀ row ∈ db.devices.rows, (∀ e after, (e, after) ∈ deviceEndpoints →
          serve (deviceTarget row.deviceId after) = some (e, some row.deviceId)) ∧
        ∃ out, Routes.getDevice none row.deviceId db = .ok out ∧ out.deviceId = row.deviceId) ∧
      ∀ row ∈ db.devices.rows, ∀ row' ∈ db.devices.rows, ∀ entry ∈ deviceEndpoints,
        ∀ entry' ∈ deviceEndpoints,
          devicePath row.deviceId entry.2 = devicePath row'.deviceId entry'.2 → row = row') ↔
      ∀ row ∈ db.devices.rows, '/' ∉ row.deviceId.toList := by
  have hne : ∀ row ∈ db.devices.rows, row.deviceId ≠ "" := by
    intro row hrow hempty
    have hmin := (h.device_text row hrow).1
    rw [hempty] at hmin
    cases hmin
  constructor
  · rintro ⟨hserved, _⟩ row hrow
    exact (served_iff (hne row hrow)).mp (hserved row hrow).1
  · intro hslash
    refine ⟨fun row hrow => ⟨(served_iff (hne row hrow)).mpr (hslash row hrow),
      getDevice_registered h hrow⟩, ?_⟩
    intro row hrow row' hrow' entry hentry entry' hentry' hpath
    have hroute := route_devicePath (hne row hrow) (hslash row hrow) hentry
    rw [hpath, route_devicePath (hne row' hrow') (hslash row' hrow') hentry'] at hroute
    exact Table.eq_of_key hrow hrow' (Option.some.inj (Prod.mk.inj (Option.some.inj hroute)).2).symm

def slashPayload : List UInt8 := ascii
  ("\x7b\"device_id\":\"a/readings\",\"timestamp\":0,\"readings\":[" ++
    "\x7b\"parameter\":\"ph\",\"value\":7,\"unit\":\"pH\"\x7d]\x7d")

/-- The id `a/readings` is accepted and stored, and requests for the device are answered with the
readings of device `a`. -/
theorem slash_id_served_as_readings :
    let py := Pydantic.ofDocument slashPayload (phDocument "a/readings" ["7"])
    let event := phEvent ⟨"a/readings", by decide, by decide⟩ 7 []
    let db := (Database.localStack.writeOnce event .none .empty).state
    ReadingEvent.modelValidateJson py slashPayload = .ok event ∧ Reachable db ∧
      db.devices.lookup "a/readings" ≠ none ∧
      serve (deviceTarget "a/readings" "") = some (.listReadings, some "a") ∧
      devicePath "a/readings" "" = devicePath "a" "/readings" := by
  intro py event db
  refine ⟨?_, .single ⟨.localStack, event, .none, rfl⟩, by decide +kernel, by decide +kernel, rfl⟩
  simp only [py, ReadingEvent.modelValidateJson, Pydantic.ofDocument, if_true]
  rfl

theorem registry_addressable_iff_sample :
    let write event db := (Database.localStack.writeOnce event .none db).state
    let db := write (temperatureAt 60 21) (write (otherDeviceAt 30 5) (write (temperatureAt 0 20)
      .empty))
    db.devices.rows.length = 2 ∧
    (∀ row ∈ db.devices.rows, (∀ e after, (e, after) ∈ deviceEndpoints →
        serve (deviceTarget row.deviceId after) = some (e, some row.deviceId)) ∧
      ∃ out, Routes.getDevice none row.deviceId db = .ok out ∧ out.deviceId = row.deviceId) ∧
    ∀ row ∈ db.devices.rows, ∀ row' ∈ db.devices.rows, ∀ entry ∈ deviceEndpoints,
      ∀ entry' ∈ deviceEndpoints,
        devicePath row.deviceId entry.2 = devicePath row'.deviceId entry'.2 → row = row' := by
  intro write db
  have hfirst : Reachable (write (temperatureAt 0 20) .empty) :=
    .single ⟨.localStack, _, .none, rfl⟩
  have hsecond := hfirst.tail ⟨.localStack, otherDeviceAt 30 5, .none, rfl⟩
  have hreach : Reachable db := hsecond.tail ⟨.localStack, temperatureAt 60 21, .none, rfl⟩
  refine ⟨by decide +kernel, (registry_addressable_iff hreach).mpr ?_⟩
  decide +kernel

end OpenWater.Backend
