import OpenWater.Ingestion.Models
import OpenWater.Schema

/-!
# Request and response bodies

`backend/owp_backend/schemas.py`. What a query string says about time is text until
`ReadingsQueryParams` parses it; parsing a datetime and wording an error are pydantic's, and are
the parameter `QueryDecoder`.
-/

namespace OpenWater.Backend

open Framework Ingestion

def atField {α : Type} (name : String) (r : Validated α) : Validated α :=
  r.mapError (List.map (FieldError.under name))

/-! ## Responses -/

structure LocationOut where
  lat : Coordinate 90
  lon : Coordinate 180
  deriving DecidableEq

def boundedFloat (bound : ℚ) (v : Double) : Validated (Coordinate bound) :=
  if h : v.withinBounds (-bound) bound = true then .ok ⟨v, h⟩
  else .error [⟨[], if v.lt (.finite (-bound)) then .greaterThanEqual else .lessThanEqual⟩]

def LocationOut.new (lat lon : Double) : Validated LocationOut :=
  match atField "lat" (boundedFloat 90 lat), atField "lon" (boundedFloat 180 lon) with
  | .ok lat, .ok lon => .ok ⟨lat, lon⟩
  | lat, lon => .error (errorsOf lat ++ errorsOf lon)

theorem LocationOut.new_ok {lat lon : Double} (hlat : lat.withinBounds (-90) 90 = true)
    (hlon : lon.withinBounds (-180) 180 = true) :
    LocationOut.new lat lon = .ok ⟨⟨lat, hlat⟩, ⟨lon, hlon⟩⟩ := by
  have hla : boundedFloat 90 lat = .ok ⟨lat, hlat⟩ := dif_pos hlat
  have hlo : boundedFloat 180 lon = .ok ⟨lon, hlon⟩ := dif_pos hlon
  rw [LocationOut.new, hla, hlo]
  rfl

structure DeviceOut where
  deviceId : String
  firstSeenAt : Timestamptz
  lastSeenAt : Timestamptz
  firmwareVersion : Option String
  location : Option LocationOut
  deriving DecidableEq

structure ReadingOut where
  deviceId : String
  recordedAt : Timestamptz
  parameter : String
  value : Double
  unit : String
  deriving DecidableEq

structure PaginatedResponse (ItemT : Type) where
  items : List ItemT
  limit : Nat
  offset : Nat
  total : Nat
  deriving DecidableEq

/-! ## Query parameters -/

inductive SortOrder where
  | asc
  | desc
  deriving DecidableEq

/-- `a > b`. A naive datetime cannot be compared with an aware one. -/
def datetimeGt (a b : Datetime) : Except String Bool :=
  match a.utcoffset, b.utcoffset with
  | none, none => .ok (decide (b.wall < a.wall))
  | some o, some p => .ok (decide (b.wall - p < a.wall - o))
  | _, _ => .error "can't compare offset-naive and offset-aware datetimes"

/-- What leaves `ReadingsQueryParams.model_validate`: a `ValidationError`, for a field or from the
model's own validator, or a `TypeError` that pydantic lets through. -/
inductive QueryError where
  | fields (errors : List FieldError)
  | valueError (message : String)
  | typeError (message : String)
  deriving DecidableEq

structure QueryDecoder where
  datetime : String → Option Datetime
  /-- What keeps a text from being a datetime. -/
  unparsable : String → ErrorType
  /-- `str(exc)`. -/
  describe : QueryError → String

def validateTimeRange : Option Datetime → Option Datetime → Except QueryError Unit
  | some recordedFrom, some recordedTo => match datetimeGt recordedFrom recordedTo with
    | .error message => .error (.typeError message)
    | .ok true => .error (.valueError "'from' must not be after 'to'")
    | .ok false => .ok ()
  | _, _ => .ok ()

def validateInt (bound : Nat) (v : Int) : Validated { n : Nat // bound ≤ n } :=
  if h : (bound : Int) ≤ v then .ok ⟨v.toNat, by omega⟩ else .error [⟨[], .greaterThanEqual⟩]

theorem validateInt_val {bound : Nat} {v : Int} {n : { n : Nat // bound ≤ n }}
    (h : validateInt bound v = .ok n) : (n.val : Int) = v := by
  unfold validateInt at h
  split at h
  · rw [← Except.ok.inj h]
    have hbound : (bound : Int) ≤ v := ‹_›
    simp only
    omega
  · cases h

def nullable {α β : Type} (validate : α → Validated β) : Option α → Validated (Option β)
  | none => .ok none
  | some a => (validate a).map some

def QueryDecoder.validateText (decoder : QueryDecoder) (text : String) : Validated Datetime :=
  match decoder.datetime text with
  | some t => .ok t
  | none => .error [⟨[], decoder.unparsable text⟩]

structure ReadingsQueryParams where
  recordedFrom : Option Datetime
  recordedTo : Option Datetime
  parameter : Option String
  limit : Option { n : Nat // 1 ≤ n }
  offset : { n : Nat // 0 ≤ n }
  order : SortOrder
  validTimeRange : validateTimeRange recordedFrom recordedTo = .ok ()

def ReadingsQueryParams.modelValidate (decoder : QueryDecoder)
    (recordedFrom recordedTo parameter : Option String) (limit : Option Int) (offset : Int)
    (order : SortOrder) : Except QueryError ReadingsQueryParams :=
  match atField "from" (nullable decoder.validateText recordedFrom),
      atField "to" (nullable decoder.validateText recordedTo),
      atField "limit" (nullable (validateInt 1) limit), atField "offset" (validateInt 0 offset) with
  | .ok recordedFrom, .ok recordedTo, .ok limit, .ok offset =>
    match h : validateTimeRange recordedFrom recordedTo with
    | .ok () => .ok ⟨recordedFrom, recordedTo, parameter, limit, offset, order, h⟩
    | .error err => .error err
  | recordedFrom, recordedTo, limit, offset =>
    .error (.fields (errorsOf recordedFrom ++ errorsOf recordedTo ++ errorsOf limit ++
      errorsOf offset))

private theorem atField_ok {α : Type} {name : String} {r : Validated α} {a : α} :
    atField name r = .ok a ↔ r = .ok a := by
  cases r <;> simp [atField, Except.mapError]

theorem ReadingsQueryParams.modelValidate_ok {decoder : QueryDecoder}
    {recordedFrom recordedTo parameter : Option String} {limit : Option Int} {offset : Int}
    {order : SortOrder} {query : ReadingsQueryParams} :
    ReadingsQueryParams.modelValidate decoder recordedFrom recordedTo parameter limit offset order =
        .ok query ↔
      nullable decoder.validateText recordedFrom = .ok query.recordedFrom ∧
        nullable decoder.validateText recordedTo = .ok query.recordedTo ∧
        query.parameter = parameter ∧ nullable (validateInt 1) limit = .ok query.limit ∧
        validateInt 0 offset = .ok query.offset ∧ query.order = order := by
  unfold modelValidate
  constructor
  · intro h
    split at h
    · rename_i hfrom hto hlimit hoffset
      split at h
      · obtain rfl := (Except.ok.inj h).symm
        exact ⟨atField_ok.mp hfrom, atField_ok.mp hto, rfl, atField_ok.mp hlimit,
          atField_ok.mp hoffset, rfl⟩
      · cases h
    · cases h
  · rintro ⟨hfrom, hto, hparameter, hlimit, hoffset, horder⟩
    have hrange := query.validTimeRange
    rw [atField_ok.mpr hfrom, atField_ok.mpr hto, atField_ok.mpr hlimit, atField_ok.mpr hoffset]
    simp only
    split
    · subst hparameter horder
      rfl
    · rename_i err herr
      rw [hrange] at herr
      cases herr

end OpenWater.Backend
