import AsterFsd.Core.Verdicts
import AsterFsd.Protocol.AsterObjects
import AsterFsd.Protocol.Relay

/-! # The events of the Aster JSON dialect

How the derived serializers spell an event in JSON. The object of an event is read as the event, what the
core sends has such an object, and the object in which others are told a command is the one that issues
it.
-/

namespace AsterFsd

open Json

namespace Json

/-- A fixed number of values. -/
def Format.vector (format : Format α) (n : Nat) : Format (Vector α n) where
  write values := format.list.write values.toList
  read value :=
    match format.list.read value with
    | some values => if sized : values.length = n then some ⟨values.toArray, by simpa⟩ else none
    | none => none
  read_write values := by simp [Vector.toList]

theorem Format.finite_vector {format : Format α} {n : Nat} (finite : format.Finite) :
    (format.vector n).Finite := fun values => Format.finite_list finite values.toList

end Json

/-! ## The data of events -/

def ErrorCode.format : Format ErrorCode :=
  .units
    (fun
      | .noError => "NoError"
      | .callsignInUse => "CallsignInUse"
      | .invalidCallsign => "InvalidCallsign"
      | .alreadyRegistered => "AlreadyRegistered"
      | .syntaxError => "Syntax"
      | .invalidSource => "InvalidSource"
      | .invalidCredentials => "InvalidCredentials"
      | .noSuchCallsign => "NoSuchCallsign"
      | .noFlightPlan => "NoFlightPlan"
      | .noWeather => "NoWeather"
      | .invalidProtocolRevision => "InvalidProtocolRevision"
      | .requestedLevelTooHigh => "RequestedLevelTooHigh"
      | .serverFull => "ServerFull"
      | .suspended => "Suspended"
      | .unauthorizedClient => "UnauthorizedClient")
    [.noError, .callsignInUse, .invalidCallsign, .alreadyRegistered, .syntaxError, .invalidSource,
      .invalidCredentials, .noSuchCallsign, .noFlightPlan, .noWeather, .invalidProtocolRevision,
      .requestedLevelTooHigh, .serverFull, .suspended, .unauthorizedClient]
    (by intro value; cases value <;> rfl)

def Callsign.optionFormat : Format (Option Callsign) := .option .callsign fun _ same => by cases same

def ClientPresence.format : Format ClientPresence where
  write client :=
    .object
      [("callsign", Format.callsign.write client.callsign),
        ("client_type", ClientType.format.write client.clientType),
        ("network_id", Format.string.write client.networkId),
        ("real_name", Format.string.write client.realName),
        ("rating", Format.int32.write client.rating),
        ("protocol_revision", Format.uint16.write client.protocolRevision),
        ("simulator_type", AsterProtocolV1.Incoming.simulatorTypeFormat.write client.simulatorType)]
  read
    | .object fields => do
        return {
          callsign := ← requiredField fields "callsign" .callsign
          clientType := ← requiredField fields "client_type" ClientType.format
          networkId := ← requiredField fields "network_id" .string
          realName := ← requiredField fields "real_name" .string
          rating := ← requiredField fields "rating" .int32
          protocolRevision := ← requiredField fields "protocol_revision" .uint16
          simulatorType := ← defaultedField fields "simulator_type"
            AsterProtocolV1.Incoming.simulatorTypeFormat none }
    | _ => none
  read_write client := by simp [requiredField, defaultedField, field]

def TemperatureLayer.format : Format TemperatureLayer where
  write layer :=
    .object
      [("ceiling", Format.int32.write layer.ceiling),
        ("temperature", Format.int32.write layer.temperature)]
  read
    | .object fields => do
        return {
          ceiling := ← requiredField fields "ceiling" .int32
          temperature := ← requiredField fields "temperature" .int32 }
    | _ => none
  read_write layer := by simp [requiredField, field]

def WindLayer.format : Format WindLayer where
  write layer :=
    .object
      [("ceiling", Format.int32.write layer.ceiling), ("floor", Format.int32.write layer.floor),
        ("direction", Format.int32.write layer.direction), ("speed", Format.int32.write layer.speed),
        ("gusting", Format.int32.write layer.gusting),
        ("turbulence", Format.int32.write layer.turbulence)]
  read
    | .object fields => do
        return {
          ceiling := ← requiredField fields "ceiling" .int32
          floor := ← requiredField fields "floor" .int32
          direction := ← requiredField fields "direction" .int32
          speed := ← requiredField fields "speed" .int32
          gusting := ← requiredField fields "gusting" .int32
          turbulence := ← requiredField fields "turbulence" .int32 }
    | _ => none
  read_write layer := by simp [requiredField, field]

def CloudLayer.format : Format CloudLayer where
  write layer :=
    .object
      [("ceiling", Format.int32.write layer.ceiling), ("floor", Format.int32.write layer.floor),
        ("coverage", Format.int32.write layer.coverage), ("icing", Format.int32.write layer.icing),
        ("turbulence", Format.int32.write layer.turbulence)]
  read
    | .object fields => do
        return {
          ceiling := ← requiredField fields "ceiling" .int32
          floor := ← requiredField fields "floor" .int32
          coverage := ← requiredField fields "coverage" .int32
          icing := ← requiredField fields "icing" .int32
          turbulence := ← requiredField fields "turbulence" .int32 }
    | _ => none
  read_write layer := by simp [requiredField, field]

def WeatherProfile.format : Format WeatherProfile where
  write profile :=
    .object
      [("temperatures", (TemperatureLayer.format.vector 4).write profile.temperatures),
        ("winds", (WindLayer.format.vector 4).write profile.winds),
        ("clouds", (CloudLayer.format.vector 2).write profile.clouds),
        ("thunderstorm", CloudLayer.format.write profile.thunderstorm),
        ("barometer", Format.int32.write profile.barometer),
        ("visibility", Format.float.write profile.visibility)]
  read
    | .object fields => do
        return {
          temperatures := ← requiredField fields "temperatures" (TemperatureLayer.format.vector 4)
          winds := ← requiredField fields "winds" (WindLayer.format.vector 4)
          clouds := ← requiredField fields "clouds" (CloudLayer.format.vector 2)
          thunderstorm := ← requiredField fields "thunderstorm" CloudLayer.format
          barometer := ← requiredField fields "barometer" .int32
          visibility := ← requiredField fields "visibility" .float }
    | _ => none
  read_write profile := by simp [requiredField, field]

theorem ClientPresence.finite_format : ClientPresence.format.Finite := by
  intro client
  refine .object ?_
  simp [Format.finite_string _, Format.finite_callsign _, Format.finite_int32 _, Format.finite_uint16 _,
    ClientType.format, Format.finite_units _, AsterProtocolV1.Incoming.simulatorTypeFormat,
    Format.finite_option Format.finite_int32 _]

theorem TemperatureLayer.finite_format : TemperatureLayer.format.Finite :=
  fun _ => .object (by simp [Format.finite_int32 _])

theorem WindLayer.finite_format : WindLayer.format.Finite :=
  fun _ => .object (by simp [Format.finite_int32 _])

theorem CloudLayer.finite_format : CloudLayer.format.Finite :=
  fun _ => .object (by simp [Format.finite_int32 _])

theorem WeatherProfile.finite_write {profile : WeatherProfile}
    (finite : profile.visibility.isFinite = true) : (format.write profile).Finite := by
  have visibility := Finite.float finite
  refine .object ?_
  simp [Format.finite_int32 _, Format.finite_vector TemperatureLayer.finite_format _,
    Format.finite_vector WindLayer.finite_format _, Format.finite_vector CloudLayer.finite_format _,
    CloudLayer.finite_format _, Format.float]
  exact visibility

/-! ## Events -/

namespace Event

/-- The object of an event. -/
def toFields : Event → List (String × Json)
  | error callsign code environment description =>
      [("type", .string "error"), ("callsign", Callsign.optionFormat.write callsign),
        ("code", ErrorCode.format.write code), ("environment", Format.string.write environment),
        ("description", Format.string.write description)]
  | welcome callsign message =>
      [("type", .string "welcome"), ("callsign", Format.callsign.write callsign),
        ("message", Format.string.write message)]
  | clientAdded client =>
      [("type", .string "client_added"), ("client", ClientPresence.format.write client)]
  | clientRemoved callsign clientType networkId =>
      [("type", .string "client_removed"), ("callsign", Format.callsign.write callsign),
        ("client_type", ClientType.format.write clientType),
        ("network_id", Format.string.write networkId)]
  | position update =>
      [("type", .string "position"), ("position", Position.format.write update)]
  | text source destination message =>
      [("type", .string "text"), ("source", Format.callsign.write source),
        ("destination", Destination.format.write destination),
        ("message", Format.string.write message)]
  | flightPlan plan destination =>
      [("type", .string "flight_plan"), ("plan", FlightPlan.format.write plan),
        ("destination", Destination.format.write destination)]
  | query source destination kind arguments =>
      [("type", .string "query"), ("source", Format.string.write source),
        ("destination", Destination.format.write destination), ("kind", QueryKind.format.write kind),
        ("arguments", (Format.list .string).write arguments)]
  | response source destination kind arguments =>
      [("type", .string "response"), ("source", Format.string.write source),
        ("destination", Destination.format.write destination), ("kind", QueryKind.format.write kind),
        ("arguments", (Format.list .string).write arguments)]
  | ping source destination payload =>
      [("type", .string "ping"), ("source", Format.callsign.write source),
        ("destination", Destination.format.write destination),
        ("payload", Format.string.write payload)]
  | pong source destination payload =>
      [("type", .string "pong"), ("source", Format.string.write source),
        ("destination", Destination.format.write destination),
        ("payload", Format.string.write payload)]
  | handoff source target kind fields =>
      [("type", .string "handoff"), ("source", Format.callsign.write source),
        ("target", Format.callsign.write target), ("kind", HandoffKind.format.write kind),
        ("fields", (Format.list .string).write fields)]
  | clientData source target kind fields =>
      [("type", .string "client_data"), ("source", Format.callsign.write source),
        ("target", Format.callsign.write target), ("kind", ClientDataKind.format.write kind),
        ("fields", (Format.list .string).write fields)]
  | weatherReport source destination station report =>
      [("type", .string "weather_report"), ("source", Format.string.write source),
        ("destination", Format.callsign.write destination), ("station", Format.string.write station),
        ("report", Format.string.write report)]
  | weatherProfile destination station profile =>
      [("type", .string "weather_profile"), ("destination", Format.callsign.write destination),
        ("station", Format.string.write station), ("profile", WeatherProfile.format.write profile)]
  | windDelta speed direction =>
      [("type", .string "wind_delta"), ("speed", Format.int32.write speed),
        ("direction", Format.int32.write direction)]
  | disconnect target reason =>
      [("type", .string "disconnect"), ("target", Format.callsign.write target),
        ("reason", Format.string.write reason)]

/-- How the rest of an object is read, by its type. -/
def variants : List (String × (List (String × Json) → Option Event)) :=
  [("error", fun fields => do
      return .error (← defaultedField fields "callsign" Callsign.optionFormat none)
        (← requiredField fields "code" ErrorCode.format)
        (← requiredField fields "environment" .string)
        (← requiredField fields "description" .string)),
    ("welcome", fun fields => do
      return .welcome (← requiredField fields "callsign" .callsign)
        (← requiredField fields "message" .string)),
    ("client_added", fun fields => do
      return .clientAdded (← requiredField fields "client" ClientPresence.format)),
    ("client_removed", fun fields => do
      return .clientRemoved (← requiredField fields "callsign" .callsign)
        (← requiredField fields "client_type" ClientType.format)
        (← requiredField fields "network_id" .string)),
    ("position", fun fields => do
      return .position (← requiredField fields "position" Position.format)),
    ("text", fun fields => do
      return .text (← requiredField fields "source" .callsign)
        (← requiredField fields "destination" Destination.format)
        (← requiredField fields "message" .string)),
    ("flight_plan", fun fields => do
      return .flightPlan (← requiredField fields "plan" FlightPlan.format)
        (← requiredField fields "destination" Destination.format)),
    ("query", fun fields => do
      return .query (← requiredField fields "source" .string)
        (← requiredField fields "destination" Destination.format)
        (← requiredField fields "kind" QueryKind.format)
        (← requiredField fields "arguments" (.list .string))),
    ("response", fun fields => do
      return .response (← requiredField fields "source" .string)
        (← requiredField fields "destination" Destination.format)
        (← requiredField fields "kind" QueryKind.format)
        (← requiredField fields "arguments" (.list .string))),
    ("ping", fun fields => do
      return .ping (← requiredField fields "source" .callsign)
        (← requiredField fields "destination" Destination.format)
        (← requiredField fields "payload" .string)),
    ("pong", fun fields => do
      return .pong (← requiredField fields "source" .string)
        (← requiredField fields "destination" Destination.format)
        (← requiredField fields "payload" .string)),
    ("handoff", fun fields => do
      return .handoff (← requiredField fields "source" .callsign)
        (← requiredField fields "target" .callsign) (← requiredField fields "kind" HandoffKind.format)
        (← requiredField fields "fields" (.list .string))),
    ("client_data", fun fields => do
      return .clientData (← requiredField fields "source" .callsign)
        (← requiredField fields "target" .callsign)
        (← requiredField fields "kind" ClientDataKind.format)
        (← requiredField fields "fields" (.list .string))),
    ("weather_report", fun fields => do
      return .weatherReport (← requiredField fields "source" .string)
        (← requiredField fields "destination" .callsign) (← requiredField fields "station" .string)
        (← requiredField fields "report" .string)),
    ("weather_profile", fun fields => do
      return .weatherProfile (← requiredField fields "destination" .callsign)
        (← requiredField fields "station" .string)
        (← requiredField fields "profile" WeatherProfile.format)),
    ("wind_delta", fun fields => do
      return .windDelta (← requiredField fields "speed" .int32)
        (← requiredField fields "direction" .int32)),
    ("disconnect", fun fields => do
      return .disconnect (← requiredField fields "target" .callsign)
        (← requiredField fields "reason" .string))]

/-- The version and what else an event has no field for is skipped. -/
def fromValue : Json → Option Event
  | .object fields => variant fields "type" variants
  | _ => none

/-- The object that a native client is sent. -/
def versioned (event : Event) : List (String × Json) :=
  Json.insert event.toFields "v" (.number AsterProtocolV1.VERSION.toNat)

/-- The version takes the place of no field. -/
theorem versioned_eq (event : Event) :
    event.versioned = event.toFields ++ [("v", .number 1)] := by
  cases event <;> simp [versioned, Json.insert, toFields, AsterProtocolV1.VERSION]

/-- What a native client is sent reads as the event. -/
theorem fromValue_versioned (event : Event) : fromValue (.object event.versioned) = some event := by
  rw [versioned_eq]
  cases event <;>
    exact variant_of rfl rfl (by simp [toFields, requiredField, defaultedField, field])

/-- The coordinates and the visibility in an event have a spelling. -/
def Spelled : Event → Prop
  | position update =>
      update.coordinates.1.isFinite = true ∧ update.coordinates.2.isFinite = true
  | weatherProfile _ _ profile => profile.visibility.isFinite = true
  | _ => True

theorem Spelled.finite {event : Event} (spelled : event.Spelled) :
    (Json.object event.versioned).Finite := by
  rw [versioned_eq]
  refine .object ?_
  cases event with
  | position position =>
      simp [toFields, Finite.string, Finite.number, Position.finite_write spelled]
  | weatherProfile destination station profile =>
      simp [toFields, Finite.string, Finite.number, Format.finite_string _, Format.finite_callsign _,
        WeatherProfile.finite_write spelled]
  | _ =>
      simp [toFields, Finite.string, Finite.number, Format.finite_string _, Format.finite_callsign _,
        Format.finite_int32 _, Format.finite_list Format.finite_string _, Destination.finite_format _,
        QueryKind.finite_format _, FlightPlan.finite_format _, ClientPresence.finite_format _,
        ClientType.format, HandoffKind.format, ClientDataKind.format, ErrorCode.format,
        Callsign.optionFormat, Format.finite_option Format.finite_callsign _, Format.finite_units _]

theorem Plain.spelled {event : Event} (plain : event.Plain) : event.Spelled := by
  cases event with
  | position update =>
      obtain ⟨latitude, longitude, -⟩ := Position.validate_ok plain
      exact ⟨latitude.1, longitude.1⟩
  | weatherProfile => exact plain.elim
  | _ => trivial

end Event

/-! ## What the core sends -/

namespace Network

theorem send_spelled {recipients : List ConnectionId} {event : Event} (spelled : event.Spelled) :
    ∀ delivery ∈ (send recipients event).deliveries, delivery.event.Spelled := by
  rw [send_deliveries]
  split
  · exact List.forall_mem_nil _
  · exact List.forall_mem_singleton.mpr spelled

theorem Refusal.spelled {connectionId : ConnectionId} {effects : Effects}
    (refusal : Refusal connectionId effects) :
    ∀ delivery ∈ effects.deliveries, delivery.event.Spelled := by
  cases refusal with
  | silence => exact List.forall_mem_nil _
  | error | errorAndClose => exact send_spelled trivial

/-- A profile that the core passes on is valid. -/
theorem weatherAnswered_spelled (connectionId : ConnectionId) (source : Callsign) (station : String)
    (parsed : Bool) (answer : Except WeatherProviderError (Option WeatherObservation)) :
    ∀ delivery ∈ (weatherAnswered connectionId source station parsed answer).deliveries,
      delivery.event.Spelled := by
  unfold weatherAnswered parsedWeatherEffect rawWeatherEffect noWeather errorEffect
  repeat' split
  all_goals refine send_spelled ?_
  all_goals try trivial
  rename_i profile valid
  exact WeatherProfile.finite_of_validate valid

theorem answerStage_spelled {connectionId : ConnectionId} {stage stage' : Stage} {answer : Answer}
    (received : answerStage connectionId stage answer = some stage') :
    ∀ delivery ∈ stage'.effects.deliveries, delivery.event.Spelled := by
  cases stage with
  | observing source station parsed coordinates =>
      cases answer with
      | observed lookup answer =>
          simp only [answerStage] at received
          split at received
          · cases received
          · rw [← Option.some.inj received]
            exact weatherAnswered_spelled connectionId source station parsed answer
      | _ => cases received
  | authorizing command generation =>
      cases answerStage_answered received with
      | unauthorized refusal => exact refusal.spelled
      | authorized => exact List.forall_mem_nil _
  | authenticating command generation =>
      cases answerStage_answered received with
      | rejected refusal => exact refusal.spelled
      | authenticated => exact List.forall_mem_nil _
  | invoked | identifying | activating | returning => cases received

end Network

/-- Everything that the core sends has a spelling. -/
theorem World.step_spelled {config : CoreConfig} {w w' : World} {action : Action}
    (step : w.step config action = some w') :
    ∀ delivery ∈ (w.committed config action).deliveries, delivery.event.Spelled := by
  cases action with
  | register =>
      simp only [committed, perform]
      split <;> exact List.forall_mem_nil _
  | call =>
      simp only [committed, perform]
      split <;> exact List.forall_mem_nil _
  | lock id =>
      obtain ⟨call, state, stage, found, performed, -⟩ := World.step_lock.mp step
      rw [World.committed_lock found performed]
      exact fun delivery member => ((Network.lockSection_plain performed).events delivery member).spelled
  | answered id answer =>
      obtain ⟨call, stage, found, received, -⟩ := World.step_answered.mp step
      rw [World.committed_answered found received]
      exact Network.answerStage_spelled received
  | ret id =>
      obtain ⟨c, command, effects, found, -⟩ := World.step_ret.mp step
      simp [committed, perform, found]
  | disconnect c reason =>
      have plain : (w.committed config (.disconnect c reason)).Plain :=
        Network.disconnectLocked_plain w.state c reason
      exact fun delivery member => (plain.events delivery member).spelled
  | windDelta speed direction =>
      have plain : (w.committed config (.windDelta speed direction)).Plain :=
        Network.send_plain trivial
      exact fun delivery member => (plain.events delivery member).spelled

/-! ## Relays -/

namespace AsterProtocolV1

theorem fromValue_position (update : Position) :
    Incoming.fromValue (.object (Event.position update).versioned) = some (.position VERSION update) := by
  have one : Format.uint16.read (.number 1) = some 1 := rfl
  rw [Event.versioned_eq]
  exact variant_of rfl rfl (by simp [Event.toFields, requiredField, field, VERSION, one])

/-- The event in which others are told a command is spelled like the message that issues it. -/
theorem fromValue_relayed {command : Command} {event : Event} {incoming : Incoming}
    (relays : command.Relays event) (issued : issuing command = some incoming) :
    Incoming.fromValue (.object event.versioned) = some incoming := by
  have one : Format.uint16.read (.number 1) = some 1 := rfl
  have spoken : ∀ source : Callsign,
      Format.string.read (Format.callsign.write source) = some (toString source) := fun _ => rfl
  cases relays with
  | routed routes =>
      rw [Event.versioned_eq]
      cases command with
      | text | response | handoff | clientData =>
          cases routes
          cases issued
          exact variant_of rfl rfl (by
            simp [Event.toFields, requiredField, defaultedField, field, VERSION, one, spoken])
      | pong => cases issued
      | _ => cases routes
  | query | ping | flightPlan =>
      cases issued
      rw [Event.versioned_eq]
      exact variant_of rfl rfl (by
        simp [Event.toFields, requiredField, defaultedField, field, VERSION, one, spoken])
  | position =>
      cases issued
      exact fromValue_position _

theorem issuing_of_relays {command : Command} {event : Event} (relays : command.Relays event)
    (notPong : ∀ source destination payload, command ≠ .pong source destination payload) :
    ∃ incoming, issuing command = some incoming ∧ incoming.intoCommand = .ok command := by
  have converts : ∀ incoming, issuing command = some incoming →
      incoming.intoCommand = .ok command := by
    intro incoming issued
    refine intoCommand_issuing issued ?_
    rintro login rfl
    cases relays with
    | routed routes => cases routes
  cases relays with
  | routed routes =>
      cases command with
      | text | response | handoff | clientData => exact ⟨_, rfl, converts _ rfl⟩
      | pong => exact absurd rfl (notPong _ _ _)
      | _ => cases routes
  | query | ping | flightPlan | position => exact ⟨_, rfl, converts _ rfl⟩

end AsterProtocolV1

end AsterFsd
