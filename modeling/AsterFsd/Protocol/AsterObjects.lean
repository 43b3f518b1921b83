import Mathlib.Algebra.Group.Int.Defs
import AsterFsd.Protocol.Aster

/-! # The objects of the Aster JSON dialect

How the derived deserializers spell the data of an `Incoming` message in JSON, and which commands of
the core a client can issue with such an object.

Only the spelling as an object is here. What else the library would read, such as an array for a
record, is another spelling of the same data.
-/

namespace AsterFsd

namespace Json

/-- JSON has no spelling for infinities and NaN. -/
inductive Finite : Json → Prop where
  | null : Finite .null
  | bool (value : Bool) : Finite (.bool value)
  | number (value : Int) : Finite (.number value)
  | float {value : Float} (finite : value.isFinite = true) : Finite (.float value)
  | string (value : String) : Finite (.string value)
  | array {items : List Json} (finite : ∀ item ∈ items, Finite item) : Finite (.array items)
  | object {fields : List (String × Json)} (finite : ∀ entry ∈ fields, Finite entry.2) :
      Finite (.object fields)

/-- How the values of a type are spelled. What is written is read back. -/
structure Format (α : Type) where
  write : α → Json
  read : Json → Option α
  read_write : ∀ value, read (write value) = some value

attribute [simp] Format.read_write

/-- Everything the format writes is finite. -/
def Format.Finite (format : Format α) : Prop := ∀ value, (format.write value).Finite

/-! ## Objects -/

/-- The value of a field, if it has one. A field given twice is an error. -/
def field : List (String × Json) → String → Option (Option Json)
  | [], _ => some none
  | (name, value) :: fields, key =>
      if name = key then if fields.any (fun entry => entry.1 = key) then none else some (some value)
      else field fields key

def requiredField (fields : List (String × Json)) (key : String) (format : Format α) : Option α :=
  match field fields key with
  | some (some value) => format.read value
  | _ => none

/-- A field with a default may be missing, but not `null`. -/
def defaultedField (fields : List (String × Json)) (key : String) (format : Format α) (default : α) :
    Option α :=
  match field fields key with
  | none => none
  | some none => some default
  | some (some value) => format.read value

@[simp] theorem field_nil (key : String) : field [] key = some none := rfl

theorem requiredField_of {fields : List (String × Json)} {key : String} {format : Format α}
    {value : α} (given : field fields key = some (some (format.write value))) :
    requiredField fields key format = some value := by
  simp [requiredField, given]

/-! ## Scalars -/

namespace Format

def string : Format String where
  write := .string
  read
    | .string value => some value
    | _ => none
  read_write _ := rfl

def bool : Format Bool where
  write := .bool
  read
    | .bool value => some value
    | _ => none
  read_write _ := rfl

def uint16 : Format UInt16 where
  write value := .number value.toNat
  read
    | .number value => if 0 ≤ value ∧ value < 2 ^ 16 then some (.ofNat value.toNat) else none
    | _ => none
  read_write value := by
    have small := value.toNat_lt
    have inRange : (0 : Int) ≤ value.toNat ∧ (value.toNat : Int) < 2 ^ 16 := by omega
    simp only [if_pos inRange, Int.toNat_natCast, UInt16.ofNat_toNat]

def uint32 : Format UInt32 where
  write value := .number value.toNat
  read
    | .number value => if 0 ≤ value ∧ value < 2 ^ 32 then some (.ofNat value.toNat) else none
    | _ => none
  read_write value := by
    have small := value.toNat_lt
    have inRange : (0 : Int) ≤ value.toNat ∧ (value.toNat : Int) < 2 ^ 32 := by omega
    simp only [if_pos inRange, Int.toNat_natCast, UInt32.ofNat_toNat]

def int32 : Format Int32 where
  write value := .number value.toInt
  read
    | .number value => if -2 ^ 31 ≤ value ∧ value < 2 ^ 31 then some (.ofInt value) else none
    | _ => none
  read_write value := by
    have inRange : -2 ^ 31 ≤ value.toInt ∧ value.toInt < 2 ^ 31 :=
      ⟨value.le_toInt, value.toInt_lt⟩
    simp only [if_pos inRange, Int32.ofInt_toInt]

/-- An integer is read as a float, too. -/
def float : Format Float where
  write := .float
  read
    | .float value => some value
    | .number value => some (.ofInt value)
    | _ => none
  read_write _ := rfl

/-- A character is a string of one. -/
def char : Format Char where
  write value := .string (.singleton value)
  read
    | .string value =>
        match value.toList with
        | [c] => some c
        | _ => none
    | _ => none
  read_write value := by simp

def callsign : Format Callsign where
  write value := .string (toString value)
  read
    | .string value => (Callsign.parse value).toOption
    | _ => none
  read_write value := by simp [Callsign.parse_toString, Except.toOption]

/-- What stands where no data is expected. The library buffers a message until it knows its type, and
    an empty object in the buffer is no data, too. -/
def noData : Json → Bool
  | .null => true
  | .object [] => true
  | _ => false

/-- A type of named constants: the name, or an object of the name and no data. -/
def units (name : α → String) (all : List α)
    (named : ∀ value, all.find? (fun other => name other = name value) = some value) : Format α where
  write value := .string (name value)
  read
    | .string value => all.find? (fun other => name other = value)
    | .object [(key, value)] =>
        if noData value then all.find? (fun other => name other = key) else none
    | _ => none
  read_write := named

def list (format : Format α) : Format (List α) where
  write values := .array (values.map format.write)
  read
    | .array items => items.mapM format.read
    | _ => none
  read_write values := by
    induction values with
    | nil => rfl
    | cons value values ih =>
        simp only [List.map_cons, List.mapM_cons, read_write] at ih ⊢
        simp [ih]

/-- An absent value is `null`. -/
def option (format : Format α) (stated : ∀ value, format.write value ≠ .null) :
    Format (Option α) where
  write
    | none => .null
    | some value => format.write value
  read
    | .null => some none
    | value => (format.read value).map some
  read_write value := by
    cases value with
    | none => rfl
    | some value => simp [stated]

theorem finite_string : Format.string.Finite := .string

theorem finite_bool : Format.bool.Finite := .bool

theorem finite_uint16 : Format.uint16.Finite := fun _ => .number _

theorem finite_uint32 : Format.uint32.Finite := fun _ => .number _

theorem finite_int32 : Format.int32.Finite := fun _ => .number _

theorem finite_char : Format.char.Finite := fun _ => .string _

theorem finite_callsign : Format.callsign.Finite := fun _ => .string _

theorem finite_units {name : α → String} {all : List α}
    {named : ∀ value, all.find? (fun other => name other = name value) = some value} :
    (units name all named).Finite := fun _ => .string _

theorem finite_list {format : Format α} (finite : format.Finite) : format.list.Finite := by
  intro values
  refine .array fun item mem => ?_
  obtain ⟨value, -, rfl⟩ := List.mem_map.mp mem
  exact finite value

theorem finite_option {format : Format α} {stated : ∀ value, format.write value ≠ .null}
    (finite : format.Finite) : (format.option stated).Finite := by
  intro value
  cases value with
  | none => exact .null
  | some value => exact finite value

end Format

/-- One field of the object names the variant that the rest of it is. -/
def variant (fields : List (String × Json)) (tag : String)
    (variants : List (String × (List (String × Json) → Option α))) : Option α := do
  let name ← requiredField fields tag .string
  let read ← variants.lookup name
  read fields

theorem variant_of {fields : List (String × Json)} {tag name : String}
    {variants : List (String × (List (String × Json) → Option α))}
    {read : List (String × Json) → Option α} {value : α}
    (named : field fields tag = some (some (.string name))) (listed : variants.lookup name = some read)
    (reads : read fields = some value) : variant fields tag variants = some value := by
  have tagged : requiredField fields tag .string = some name := requiredField_of named
  simp [variant, tagged, listed, reads]

end Json

open Json

/-! ## The data model -/

def ClientType.format : Format ClientType :=
  .units
    (fun
      | .pilot => "pilot"
      | .atc => "atc"
      | .observer => "observer")
    [.pilot, .atc, .observer] (by intro value; cases value <;> rfl)

def HandoffKind.format : Format HandoffKind :=
  .units
    (fun
      | .request => "request"
      | .accept => "accept")
    [.request, .accept] (by intro value; cases value <;> rfl)

def ClientDataKind.format : Format ClientDataKind :=
  .units
    (fun
      | .squawkBox => "squawk_box"
      | .proController => "pro_controller"
      | .communicationRequest => "communication_request"
      | .communicationReply => "communication_reply")
    [.squawkBox, .proController, .communicationRequest, .communicationReply]
    (by intro value; cases value <;> rfl)

namespace QueryKind

/-- The query kinds that carry no data. -/
def named : List (String × QueryKind) :=
  [("real_name", .realName), ("flight_plan", .flightPlan), ("capabilities", .capabilities),
    ("atis", .atis), ("system_info", .systemInfo), ("aircraft_configuration", .aircraftConfiguration)]

/-- A kind is its name, or an object of its name and its data. Without data either will do. -/
def format : Format QueryKind where
  write
    | .realName => .string "real_name"
    | .flightPlan => .string "flight_plan"
    | .capabilities => .string "capabilities"
    | .atis => .string "atis"
    | .systemInfo => .string "system_info"
    | .aircraftConfiguration => .string "aircraft_configuration"
    | .raw value => .object [("raw", Format.string.write value)]
  read
    | .string name => named.lookup name
    | .object [(name, value)] =>
        if name = "raw" then (Format.string.read value).map .raw
        else if Format.noData value then named.lookup name
        else none
    | _ => none
  read_write kind := by cases kind <;> rfl

theorem finite_format : format.Finite := by
  intro kind
  cases kind with
  | raw value => exact .object (by simp [Format.finite_string value])
  | _ => exact .string _

end QueryKind

namespace Destination

/-- A destination of its kind alone: the value is missing, or `null`. -/
def plain (destination : Destination) (fields : List (String × Json)) : Option Destination :=
  match field fields "value" with
  | some none => some destination
  | some (some .null) => some destination
  | _ => none

def variants : List (String × (List (String × Json) → Option Destination)) :=
  [("server", plain .server),
    ("direct", fun fields => (requiredField fields "value" .callsign).map .direct),
    ("all", plain .all),
    ("atc", plain .atc),
    ("pilots", plain .pilots),
    ("range", fun fields => (requiredField fields "value" .string).map .range)]

def format : Format Destination where
  write
    | .server => .object [("kind", .string "server")]
    | .direct callsign =>
        .object [("kind", .string "direct"), ("value", Format.callsign.write callsign)]
    | .all => .object [("kind", .string "all")]
    | .atc => .object [("kind", .string "atc")]
    | .pilots => .object [("kind", .string "pilots")]
    | .range value => .object [("kind", .string "range"), ("value", Format.string.write value)]
  read
    | .object fields => variant fields "kind" variants
    | _ => none
  read_write destination := by
    cases destination with
    | server | all | atc | pilots => rfl
    | direct callsign =>
        have given : requiredField [("kind", string "direct"), ("value", Format.callsign.write callsign)]
            "value" .callsign = some callsign := requiredField_of rfl
        exact variant_of rfl rfl (congrArg (Option.map direct) given)
    | range value => rfl

theorem finite_format : format.Finite := by
  intro destination
  cases destination <;>
    exact .object (by simp [Finite.string, Format.finite_string _, Format.finite_callsign _])

end Destination

namespace PilotPosition

def toFields (position : PilotPosition) : List (String × Json) :=
  [("callsign", Format.callsign.write position.callsign),
    ("mode", Format.char.write position.mode),
    ("squawk", Format.string.write position.squawk),
    ("rating", Format.int32.write position.rating),
    ("latitude", Format.float.write position.latitude),
    ("longitude", Format.float.write position.longitude),
    ("altitude", Format.int32.write position.altitude),
    ("groundspeed", Format.int32.write position.groundspeed),
    ("pbh", Format.uint32.write position.pbh),
    ("flags", Format.int32.write position.flags)]

def fromFields (fields : List (String × Json)) : Option PilotPosition := do
  return {
    callsign := ← requiredField fields "callsign" .callsign
    mode := ← requiredField fields "mode" .char
    squawk := ← requiredField fields "squawk" .string
    rating := ← requiredField fields "rating" .int32
    latitude := ← requiredField fields "latitude" .float
    longitude := ← requiredField fields "longitude" .float
    altitude := ← requiredField fields "altitude" .int32
    groundspeed := ← requiredField fields "groundspeed" .int32
    pbh := ← requiredField fields "pbh" .uint32
    flags := ← requiredField fields "flags" .int32 }

end PilotPosition

namespace AtcPosition

def toFields (position : AtcPosition) : List (String × Json) :=
  [("callsign", Format.callsign.write position.callsign),
    ("frequency", Format.int32.write position.frequency),
    ("facility_type", Format.int32.write position.facilityType),
    ("visual_range", Format.int32.write position.visualRange),
    ("rating", Format.int32.write position.rating),
    ("latitude", Format.float.write position.latitude),
    ("longitude", Format.float.write position.longitude),
    ("altitude", Format.int32.write position.altitude)]

def fromFields (fields : List (String × Json)) : Option AtcPosition := do
  return {
    callsign := ← requiredField fields "callsign" .callsign
    frequency := ← requiredField fields "frequency" .int32
    facilityType := ← requiredField fields "facility_type" .int32
    visualRange := ← requiredField fields "visual_range" .int32
    rating := ← requiredField fields "rating" .int32
    latitude := ← requiredField fields "latitude" .float
    longitude := ← requiredField fields "longitude" .float
    altitude := ← requiredField fields "altitude" .int32 }

end AtcPosition

namespace Position

def variants : List (String × (List (String × Json) → Option Position)) :=
  [("pilot", fun fields => (PilotPosition.fromFields fields).map .pilot),
    ("atc", fun fields => (AtcPosition.fromFields fields).map .atc)]

/-- The fields of a position stand beside the tag that says whose it is. -/
def format : Format Position where
  write
    | .pilot position => .object (("kind", .string "pilot") :: position.toFields)
    | .atc position => .object (("kind", .string "atc") :: position.toFields)
  read
    | .object fields => variant fields "kind" variants
    | _ => none
  read_write position := by
    cases position with
    | pilot position =>
        refine variant_of rfl rfl ?_
        simp [PilotPosition.fromFields, PilotPosition.toFields, requiredField, field]
    | atc position =>
        refine variant_of rfl rfl ?_
        simp [AtcPosition.fromFields, AtcPosition.toFields, requiredField, field]

theorem finite_write {position : Position}
    (finite : position.coordinates.1.isFinite = true ∧ position.coordinates.2.isFinite = true) :
    (format.write position).Finite := by
  have latitude := Finite.float finite.1
  have longitude := Finite.float finite.2
  cases position with
  | pilot position =>
      refine .object ?_
      simp [PilotPosition.toFields, Finite.string, Format.finite_string _, Format.finite_callsign _,
        Format.finite_char _, Format.finite_int32 _, Format.finite_uint32 _, Format.float]
      exact ⟨latitude, longitude⟩
  | atc position =>
      refine .object ?_
      simp [AtcPosition.toFields, Finite.string, Format.finite_callsign _, Format.finite_int32 _,
        Format.float]
      exact ⟨latitude, longitude⟩

end Position

namespace FlightPlan

def fromFields (fields : List (String × Json)) : Option FlightPlan := do
  return {
    callsign := ← requiredField fields "callsign" .callsign
    flightRules := ← requiredField fields "flight_rules" .char
    aircraft := ← requiredField fields "aircraft" .string
    cruiseSpeed := ← requiredField fields "cruise_speed" .int32
    departure := ← requiredField fields "departure" .string
    estimatedDeparture := ← requiredField fields "estimated_departure" .int32
    actualDeparture := ← requiredField fields "actual_departure" .int32
    cruiseAltitude := ← requiredField fields "cruise_altitude" .string
    destination := ← requiredField fields "destination" .string
    hoursEnroute := ← requiredField fields "hours_enroute" .int32
    minutesEnroute := ← requiredField fields "minutes_enroute" .int32
    hoursFuel := ← requiredField fields "hours_fuel" .int32
    minutesFuel := ← requiredField fields "minutes_fuel" .int32
    alternate := ← requiredField fields "alternate" .string
    remarks := ← requiredField fields "remarks" .string
    route := ← requiredField fields "route" .string }

def format : Format FlightPlan where
  write plan :=
    .object
      [("callsign", Format.callsign.write plan.callsign),
        ("flight_rules", Format.char.write plan.flightRules),
        ("aircraft", Format.string.write plan.aircraft),
        ("cruise_speed", Format.int32.write plan.cruiseSpeed),
        ("departure", Format.string.write plan.departure),
        ("estimated_departure", Format.int32.write plan.estimatedDeparture),
        ("actual_departure", Format.int32.write plan.actualDeparture),
        ("cruise_altitude", Format.string.write plan.cruiseAltitude),
        ("destination", Format.string.write plan.destination),
        ("hours_enroute", Format.int32.write plan.hoursEnroute),
        ("minutes_enroute", Format.int32.write plan.minutesEnroute),
        ("hours_fuel", Format.int32.write plan.hoursFuel),
        ("minutes_fuel", Format.int32.write plan.minutesFuel),
        ("alternate", Format.string.write plan.alternate),
        ("remarks", Format.string.write plan.remarks),
        ("route", Format.string.write plan.route)]
  read
    | .object fields => fromFields fields
    | _ => none
  read_write plan := by simp [fromFields, requiredField, field]

theorem finite_format : format.Finite := by
  intro plan
  refine .object ?_
  simp [Format.finite_string _, Format.finite_callsign _, Format.finite_char _, Format.finite_int32 _]

end FlightPlan

/-! ## Incoming messages -/

namespace AsterProtocolV1

namespace Incoming

def networkIdFormat : Format (Option String) := .option .string fun _ same => by cases same

def simulatorTypeFormat : Format (Option Int32) := .option .int32 fun _ same => by cases same

/-- The object of a message. -/
def toFields : Incoming → List (String × Json)
  | identify v callsign clientId clientName networkId =>
      [("v", Format.uint16.write v), ("type", .string "identify"),
        ("callsign", Format.string.write callsign), ("client_id", Format.string.write clientId),
        ("client_name", Format.string.write clientName),
        ("network_id", networkIdFormat.write networkId)]
  | login v callsign clientType networkId password requestedRating realName simulatorType =>
      [("v", Format.uint16.write v), ("type", .string "login"),
        ("callsign", Format.string.write callsign), ("client_type", ClientType.format.write clientType),
        ("network_id", Format.string.write networkId), ("password", Format.string.write password),
        ("requested_rating", Format.int32.write requestedRating),
        ("real_name", Format.string.write realName),
        ("simulator_type", simulatorTypeFormat.write simulatorType)]
  | logoff v source =>
      [("v", Format.uint16.write v), ("type", .string "logoff"), ("source", Format.string.write source)]
  | position v update =>
      [("v", Format.uint16.write v), ("type", .string "position"),
        ("position", Position.format.write update)]
  | text v source destination message =>
      [("v", Format.uint16.write v), ("type", .string "text"), ("source", Format.string.write source),
        ("destination", Destination.format.write destination),
        ("message", Format.string.write message)]
  | flightPlan v plan =>
      [("v", Format.uint16.write v), ("type", .string "flight_plan"),
        ("plan", FlightPlan.format.write plan)]
  | query v source destination kind arguments =>
      [("v", Format.uint16.write v), ("type", .string "query"), ("source", Format.string.write source),
        ("destination", Destination.format.write destination), ("kind", QueryKind.format.write kind),
        ("arguments", (Format.list .string).write arguments)]
  | response v source destination kind arguments =>
      [("v", Format.uint16.write v), ("type", .string "response"),
        ("source", Format.string.write source),
        ("destination", Destination.format.write destination), ("kind", QueryKind.format.write kind),
        ("arguments", (Format.list .string).write arguments)]
  | ping v source destination payload =>
      [("v", Format.uint16.write v), ("type", .string "ping"), ("source", Format.string.write source),
        ("destination", Destination.format.write destination),
        ("payload", Format.string.write payload)]
  | handoff v source target kind fields =>
      [("v", Format.uint16.write v), ("type", .string "handoff"),
        ("source", Format.string.write source), ("target", Format.string.write target),
        ("kind", HandoffKind.format.write kind), ("fields", (Format.list .string).write fields)]
  | clientData v source target kind fields =>
      [("v", Format.uint16.write v), ("type", .string "client_data"),
        ("source", Format.string.write source), ("target", Format.string.write target),
        ("kind", ClientDataKind.format.write kind), ("fields", (Format.list .string).write fields)]
  | weatherRequest v source station parsed =>
      [("v", Format.uint16.write v), ("type", .string "weather_request"),
        ("source", Format.string.write source), ("station", Format.string.write station),
        ("parsed", Format.bool.write parsed)]
  | kill v source target reason =>
      [("v", Format.uint16.write v), ("type", .string "kill"), ("source", Format.string.write source),
        ("target", Format.string.write target), ("reason", Format.string.write reason)]

/-- How the rest of an object is read, by its type. -/
def variants : List (String × (List (String × Json) → Option Incoming)) :=
  [("identify", fun fields => do
      return .identify (← requiredField fields "v" .uint16) (← requiredField fields "callsign" .string)
        (← requiredField fields "client_id" .string) (← requiredField fields "client_name" .string)
        (← defaultedField fields "network_id" networkIdFormat none)),
    ("login", fun fields => do
      return .login (← requiredField fields "v" .uint16) (← requiredField fields "callsign" .string)
        (← requiredField fields "client_type" ClientType.format)
        (← requiredField fields "network_id" .string) (← requiredField fields "password" .string)
        (← requiredField fields "requested_rating" .int32) (← requiredField fields "real_name" .string)
        (← defaultedField fields "simulator_type" simulatorTypeFormat none)),
    ("logoff", fun fields => do
      return .logoff (← requiredField fields "v" .uint16) (← requiredField fields "source" .string)),
    ("position", fun fields => do
      return .position (← requiredField fields "v" .uint16)
        (← requiredField fields "position" Position.format)),
    ("text", fun fields => do
      return .text (← requiredField fields "v" .uint16) (← requiredField fields "source" .string)
        (← requiredField fields "destination" Destination.format)
        (← requiredField fields "message" .string)),
    ("flight_plan", fun fields => do
      return .flightPlan (← requiredField fields "v" .uint16)
        (← requiredField fields "plan" FlightPlan.format)),
    ("query", fun fields => do
      return .query (← requiredField fields "v" .uint16) (← requiredField fields "source" .string)
        (← requiredField fields "destination" Destination.format)
        (← requiredField fields "kind" QueryKind.format)
        (← defaultedField fields "arguments" (.list .string) [])),
    ("response", fun fields => do
      return .response (← requiredField fields "v" .uint16) (← requiredField fields "source" .string)
        (← requiredField fields "destination" Destination.format)
        (← requiredField fields "kind" QueryKind.format)
        (← defaultedField fields "arguments" (.list .string) [])),
    ("ping", fun fields => do
      return .ping (← requiredField fields "v" .uint16) (← requiredField fields "source" .string)
        (← requiredField fields "destination" Destination.format)
        (← defaultedField fields "payload" .string "")),
    ("handoff", fun fields => do
      return .handoff (← requiredField fields "v" .uint16) (← requiredField fields "source" .string)
        (← requiredField fields "target" .string) (← requiredField fields "kind" HandoffKind.format)
        (← defaultedField fields "fields" (.list .string) [])),
    ("client_data", fun fields => do
      return .clientData (← requiredField fields "v" .uint16) (← requiredField fields "source" .string)
        (← requiredField fields "target" .string) (← requiredField fields "kind" ClientDataKind.format)
        (← defaultedField fields "fields" (.list .string) [])),
    ("weather_request", fun fields => do
      return .weatherRequest (← requiredField fields "v" .uint16)
        (← requiredField fields "source" .string) (← requiredField fields "station" .string)
        (← defaultedField fields "parsed" .bool false)),
    ("kill", fun fields => do
      return .kill (← requiredField fields "v" .uint16) (← requiredField fields "source" .string)
        (← requiredField fields "target" .string) (← requiredField fields "reason" .string))]

def fromValue : Json → Option Incoming
  | .object fields => variant fields "type" variants
  | _ => none

/-- The object of a message is read as that message. -/
theorem fromValue_toFields (incoming : Incoming) :
    fromValue (.object incoming.toFields) = some incoming := by
  cases incoming <;>
    exact variant_of rfl rfl (by simp [toFields, requiredField, defaultedField, field])

/-- The object of a message is finite, if the coordinates of a position are. -/
theorem finite_toFields {incoming : Incoming}
    (finite : ∀ v update, incoming = .position v update →
      update.coordinates.1.isFinite = true ∧ update.coordinates.2.isFinite = true) :
    (Json.object incoming.toFields).Finite := by
  refine .object ?_
  cases incoming with
  | position v update =>
      simp [toFields, Finite.string, Format.finite_uint16 _, Position.finite_write (finite v update rfl)]
  | identify | login =>
      simp [toFields, Finite.string, Format.finite_string _, Format.finite_uint16 _,
        Format.finite_int32 _, ClientType.format, Format.finite_units _, networkIdFormat,
        simulatorTypeFormat, Format.finite_option Format.finite_string _,
        Format.finite_option Format.finite_int32 _]
  | _ =>
      simp [toFields, Finite.string, Format.finite_string _, Format.finite_uint16 _,
        Format.finite_bool _, Format.finite_list Format.finite_string _, Destination.finite_format _,
        QueryKind.finite_format _, FlightPlan.finite_format _, HandoffKind.format,
        ClientDataKind.format, Format.finite_units _]

/-- No message is a pong: the dialect has no type for it. -/
theorem intoCommand_ne_pong {incoming : Incoming} {command : Command}
    (converted : incoming.intoCommand = .ok command) (source : Callsign) (destination : Destination)
    (payload : String) : command ≠ .pong source destination payload := by
  rintro rfl
  unfold intoCommand at converted
  split at converted
  · cases converted
  · cases incoming <;>
      simp only [bind_ok, pure_ok, Except.ok.injEq, reduceCtorEq, and_false, exists_false] at converted

end Incoming

/-! ## Issuing commands -/

open Incoming in
/-- The message with which a client issues a command, if the dialect has one. -/
def issuing : Command → Option Incoming
  | .noop _ => none
  | .identify command =>
      some (.identify VERSION (toString command.callsign) command.clientId command.clientName
        command.networkId)
  | .login command =>
      some (.login VERSION (toString command.callsign) command.clientType command.networkId
        command.password command.requestedRating command.realName command.simulatorType)
  | .logoff source => some (.logoff VERSION (toString source))
  | .position update => some (.position VERSION update)
  | .text source destination message =>
      some (.text VERSION (toString source) destination message)
  | .flightPlan plan => some (.flightPlan VERSION plan)
  | .query source destination kind arguments =>
      some (.query VERSION (toString source) destination kind arguments)
  | .response source destination kind arguments =>
      some (.response VERSION (toString source) destination kind arguments)
  | .ping source destination payload => some (.ping VERSION (toString source) destination payload)
  | .pong .. => none
  | .handoff source target kind fields =>
      some (.handoff VERSION (toString source) (toString target) kind fields)
  | .clientData source target kind fields =>
      some (.clientData VERSION (toString source) (toString target) kind fields)
  | .weatherRequest source station parsed =>
      some (.weatherRequest VERSION (toString source) station parsed)
  | .kill source target reason => some (.kill VERSION (toString source) (toString target) reason)

@[simp] theorem parseCallsign_toString (callsign : Callsign) :
    Incoming.parseCallsign (toString callsign) = .ok callsign := by
  simp [Incoming.parseCallsign, Callsign.parse_toString, Except.mapError]

/-- The message of a command is converted to that command. -/
theorem intoCommand_issuing {command : Command} {incoming : Incoming}
    (issued : issuing command = some incoming)
    (revised : ∀ login, command = .login login → login.protocolRevision = VERSION) :
    incoming.intoCommand = .ok command := by
  cases command with
  | noop | pong => cases issued
  | login command =>
      cases issued
      simp [Incoming.intoCommand, Incoming.version, ← revised command rfl]
  | handoff | clientData | kill =>
      cases issued
      simp [Incoming.intoCommand, Incoming.version, bind_ok]
  | _ =>
      cases issued
      simp [Incoming.intoCommand, Incoming.version]

theorem position_of_issuing {command : Command} {v : UInt16} {update : Position}
    (issued : issuing command = some (.position v update)) : command = .position update := by
  cases command <;> cases issued
  rfl

/-- The object of a command states the version. -/
theorem version_mem_issuing {command : Command} {incoming : Incoming}
    (issued : issuing command = some incoming) : ("v", Json.number 1) ∈ incoming.toFields := by
  cases command <;> cases issued <;> exact .head _

end AsterProtocolV1

/-- The library reads the text as the value: where the value is that of a message, it is what is
    read. -/
def SerdeJson.ReadsAs (json : SerdeJson) (text : List UInt8) (value : Json) : Prop :=
  ∀ incoming, AsterProtocolV1.Incoming.fromValue value = some incoming →
    json.fromSlice text = .ok incoming

namespace AsterProtocolV1

/-- Some JSON object of version 1 is decoded as the command. -/
def Issuable (command : Command) : Prop :=
  ∃ fields, (Json.object fields).Finite ∧ ("v", Json.number 1) ∈ fields ∧
    ∀ (json : SerdeJson) (text : List UInt8), json.ReadsAs text (.object fields) →
      decode json text = .ok command

/-- Nothing a client sends is decoded as a pong. -/
theorem decode_ne_pong {json : SerdeJson} {text : List UInt8} {command : Command}
    (decoded : decode json text = .ok command) (source : Callsign) (destination : Destination)
    (payload : String) : command ≠ .pong source destination payload := by
  unfold decode at decoded
  split at decoded
  · cases decoded
  · exact Incoming.intoCommand_ne_pong decoded source destination payload

theorem ne_pong_of_issuable {command : Command} (issuable : Issuable command) (source : Callsign)
    (destination : Destination) (payload : String) : command ≠ .pong source destination payload := by
  obtain ⟨fields, -, -, decodes⟩ := issuable
  let json : SerdeJson := {
    fromSlice _ := (Incoming.fromValue (.object fields)).elim (.error "") .ok
    toValue _ := .error ""
    toVec _ := .error "" }
  have reads : json.ReadsAs [] (.object fields) := by
    intro incoming reads
    simp only [json, reads, Option.elim]
  exact decode_ne_pong (decodes json [] reads) source destination payload

/-- A client can issue exactly the commands that are not a pong. -/
theorem issuable_iff {command : Command} (acting : ∀ source, command ≠ .noop source)
    (revised : ∀ login, command = .login login → login.protocolRevision = VERSION)
    (finite : ∀ update, command = .position update →
      update.coordinates.1.isFinite = true ∧ update.coordinates.2.isFinite = true) :
    Issuable command ↔
      ∀ source destination payload, command ≠ .pong source destination payload := by
  constructor
  · exact ne_pong_of_issuable
  · intro notPong
    obtain ⟨incoming, issued⟩ : ∃ incoming, issuing command = some incoming := by
      cases command with
      | noop source => exact absurd rfl (acting source)
      | pong source destination payload => exact absurd rfl (notPong source destination payload)
      | _ => exact ⟨_, rfl⟩
    refine ⟨incoming.toFields, Incoming.finite_toFields ?_, version_mem_issuing issued, ?_⟩
    · rintro v update rfl
      exact finite update (position_of_issuing issued)
    · intro json text reads
      simp only [decode, reads incoming incoming.fromValue_toFields,
        intoCommand_issuing issued revised]

end AsterProtocolV1

namespace Sample

def tower : Callsign := ⟨"LFPG_TWR", by decide⟩

def towerPosition : AtcPosition where
  callsign := tower
  frequency := 18700
  facilityType := 4
  visualRange := 50
  rating := 5
  latitude := 49.0125
  longitude := 2.55
  altitude := 0

/-- The answer to the ping of another client. -/
def answer : Command := .pong tower (.direct ⟨"DLH56", by decide⟩) "1700000000"

end Sample

namespace AsterProtocolV1

theorem issuable_iff_tower : Issuable (.position (.atc Sample.towerPosition)) :=
  (issuable_iff (fun _ same => by cases same) (fun _ same => by cases same)
    (fun _ same => by cases same; decide)).mpr fun _ _ _ same => by cases same

/-- A client that is pinged cannot answer. -/
theorem answer_not_issuable :
    ¬ ∀ command : Command, (∀ source, command ≠ .noop source) →
      (∀ login, command = .login login → login.protocolRevision = VERSION) →
      (∀ update, command = .position update →
        update.coordinates.1.isFinite = true ∧ update.coordinates.2.isFinite = true) →
      Issuable command := by
  intro all
  have issued : Issuable Sample.answer :=
    all Sample.answer (fun _ same => by cases same) (fun _ same => by cases same)
      (fun _ same => by cases same)
  exact ne_pong_of_issuable issued _ _ _ rfl

end AsterProtocolV1

end AsterFsd
