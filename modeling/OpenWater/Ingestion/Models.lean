import OpenWater.Framework.Double

/-!
# The reading payload

`ingestion/owp_ingestion/models.py`: what a device may publish. The constraints of each field are
carried by the field's type, so a `ReadingEvent` is a payload the validator accepted. Decoding
JSON text and coercing a JSON value to a float or a datetime, or saying what keeps it from being
one, is pydantic's; these three functions are the parameter `Pydantic`.
-/

namespace OpenWater.Ingestion

open Framework

inductive Json where
  | null
  | bool (b : Bool)
  | num (lexeme : String)
  | str (s : String)
  | arr (items : List Json)
  | obj (fields : List (String × Json))

/-- A Python datetime: its wall clock in microseconds, and its UTC offset unless it is naive. -/
structure Datetime where
  wall : Int
  utcoffset : Option Int
  deriving DecidableEq

/-- pydantic's names for what can be wrong with a value. -/
inductive ErrorType where
  | jsonInvalid
  | missing
  | extraForbidden
  | modelType
  | stringType
  | stringTooShort
  | stringTooLong
  | floatType
  | floatParsing
  | greaterThanEqual
  | lessThanEqual
  | datetimeType
  | datetimeParsing
  | datetimeFromDateParsing
  | listType
  | tooShort
  deriving DecidableEq

structure Pydantic where
  fromJson : List UInt8 → Option Json
  float : Json → Except ErrorType Double
  datetime : Json → Except ErrorType Datetime

structure FieldError where
  loc : List String
  type : ErrorType
  deriving DecidableEq

def FieldError.under (name : String) (e : FieldError) : FieldError := ⟨name :: e.loc, e.type⟩

abbrev Validated (α : Type) := Except (List FieldError) α

def errorsOf {α : Type} : Validated α → List FieldError
  | .ok _ => []
  | .error es => es

@[ext] structure BoundedText (minLength maxLength : Nat) where
  val : String
  min : minLength ≤ val.length
  max : val.length ≤ maxLength
  deriving DecidableEq

def validateText (minLength maxLength : Nat) : Json → Validated (BoundedText minLength maxLength)
  | .str s =>
    if hmin : minLength ≤ s.length then
      if hmax : s.length ≤ maxLength then .ok ⟨s, hmin, hmax⟩
      else .error [⟨[], .stringTooLong⟩]
    else .error [⟨[], .stringTooShort⟩]
  | _ => .error [⟨[], .stringType⟩]

def validateFloat (py : Pydantic) (j : Json) : Validated Double :=
  (py.float j).mapError fun type => [⟨[], type⟩]

def validateDatetime (py : Pydantic) (j : Json) : Validated Datetime :=
  (py.datetime j).mapError fun type => [⟨[], type⟩]

/-- A `float` field with `ge=-bound` and `le=bound`. Both are tested by an IEEE comparison that
rejects, so a NaN gets through them. -/
@[ext] structure Coordinate (bound : ℚ) where
  val : Double
  inBounds : val.withinBounds (-bound) bound = true
  deriving DecidableEq

def validateCoordinate (py : Pydantic) (bound : ℚ) (j : Json) : Validated (Coordinate bound) :=
  match validateFloat py j with
  | .error es => .error es
  | .ok v =>
    if h : v.withinBounds (-bound) bound = true then .ok ⟨v, h⟩
    else .error [⟨[], if v.lt (.finite (-bound)) then .greaterThanEqual else .lessThanEqual⟩]

/-- The value of a JSON object's member; of a repeated name the last one counts. -/
def member (fields : List (String × Json)) (name : String) : Option Json :=
  fields.reverse.lookup name

def required {α : Type} (fields : List (String × Json)) (name : String)
    (validate : Json → Validated α) : Validated α :=
  match member fields name with
  | none => .error [⟨[name], .missing⟩]
  | some j => (validate j).mapError (List.map (FieldError.under name))

def optional {α : Type} (fields : List (String × Json)) (name : String)
    (validate : Json → Validated α) : Validated (Option α) :=
  match member fields name with
  | none => .ok none
  | some .null => .ok none
  | some j => ((validate j).mapError (List.map (FieldError.under name))).map some

def forbidExtra (declared : List String) (fields : List (String × Json)) : List FieldError :=
  (fields.filter fun kv => !declared.contains kv.1).map fun kv => ⟨[kv.1], .extraForbidden⟩

structure Reading where
  parameter : BoundedText 1 64
  value : Double
  unit : BoundedText 1 32
  deriving DecidableEq

def Reading.validate (py : Pydantic) : Json → Validated Reading
  | .obj fields =>
    match required fields "parameter" (validateText 1 64),
        required fields "value" (validateFloat py),
        required fields "unit" (validateText 1 32),
        forbidExtra ["parameter", "value", "unit"] fields with
    | .ok parameter, .ok value, .ok unit, [] => .ok ⟨parameter, value, unit⟩
    | parameter, value, unit, extra =>
      .error (errorsOf parameter ++ errorsOf value ++ errorsOf unit ++ extra)
  | _ => .error [⟨[], .modelType⟩]

@[ext] structure Location where
  lat : Coordinate 90
  lon : Coordinate 180
  deriving DecidableEq

def Location.validate (py : Pydantic) : Json → Validated Location
  | .obj fields =>
    match required fields "lat" (validateCoordinate py 90),
        required fields "lon" (validateCoordinate py 180),
        forbidExtra ["lat", "lon"] fields with
    | .ok lat, .ok lon, [] => .ok ⟨lat, lon⟩
    | lat, lon, extra => .error (errorsOf lat ++ errorsOf lon ++ extra)
  | _ => .error [⟨[], .modelType⟩]

def validateItems {α : Type} (validate : Json → Validated α) : Nat → List Json → Validated (List α)
  | _, [] => .ok []
  | i, j :: js =>
    match (validate j).mapError (List.map (FieldError.under (toString i))),
        validateItems validate (i + 1) js with
    | .ok a, .ok as => .ok (a :: as)
    | a, as => .error (errorsOf a ++ errorsOf as)

def validateNonempty {α : Type} (validate : Json → Validated α) :
    Json → Validated { as : List α // as ≠ [] }
  | .arr items =>
    match validateItems validate 0 items with
    | .error es => .error es
    | .ok as => if h : as ≠ [] then .ok ⟨as, h⟩ else .error [⟨[], .tooShort⟩]
  | _ => .error [⟨[], .listType⟩]

structure ReadingEvent where
  deviceId : BoundedText 1 128
  timestamp : Datetime
  firmwareVersion : Option (BoundedText 0 32)
  location : Option Location
  readings : List Reading
  nonempty : readings ≠ []
  deriving DecidableEq

def ReadingEvent.validate (py : Pydantic) : Json → Validated ReadingEvent
  | .obj fields =>
    match required fields "device_id" (validateText 1 128),
        required fields "timestamp" (validateDatetime py),
        optional fields "firmware_version" (validateText 0 32),
        optional fields "location" (Location.validate py),
        required fields "readings" (validateNonempty (Reading.validate py)),
        forbidExtra ["device_id", "timestamp", "firmware_version", "location", "readings"]
          fields with
    | .ok deviceId, .ok timestamp, .ok firmwareVersion, .ok location, .ok readings, [] =>
      .ok ⟨deviceId, timestamp, firmwareVersion, location, readings.val, readings.property⟩
    | deviceId, timestamp, firmwareVersion, location, readings, extra =>
      .error (errorsOf deviceId ++ errorsOf timestamp ++ errorsOf firmwareVersion ++
        errorsOf location ++ errorsOf readings ++ extra)
  | _ => .error [⟨[], .modelType⟩]

def temperatureAt (wall : Int) (value : ℚ) : ReadingEvent where
  deviceId := ⟨"sensor-1", by decide, by decide⟩
  timestamp := ⟨wall, some 0⟩
  firmwareVersion := none
  location := none
  readings := [⟨⟨"temperature", by decide, by decide⟩, .finite value, ⟨"C", by decide, by decide⟩⟩]
  nonempty := by simp

def otherDeviceAt (wall : Int) (value : ℚ) : ReadingEvent :=
  { temperatureAt wall value with deviceId := ⟨"sensor-3", by decide, by decide⟩ }

inductive ValidateError where
  | validationError (errors : List FieldError)
  | valueError (message : String)

def ReadingEvent.modelValidateJson (py : Pydantic) (payload : List UInt8) :
    Except ValidateError ReadingEvent :=
  match py.fromJson payload with
  | none => .error (.validationError [⟨[], .jsonInvalid⟩])
  | some j => (ReadingEvent.validate py j).mapError .validationError

end OpenWater.Ingestion
