import AsterFsd.Protocol.Packet
import AsterFsd.Lib.Decimal

/-! # Encoding classic FSD frames

Every event becomes one frame, except a weather profile, which becomes three. A frame fails to encode
when it is longer than the classic limit or one of its tokens contains CR or LF.
-/

namespace AsterFsd.ClassicProtocol

def destinationText : Destination → String
  | .server => "SERVER"
  | .direct callsign => toString callsign
  | .all => "*"
  | .atc => "*A"
  | .pilots => "*P"
  | .range value => value

def encodingError (message : String) : ProtocolError := ⟨.encoding, message, none⟩

def frame (packet : RawPacket) : Except ProtocolError WireFrame :=
  match packet.encode CLASSIC_MAX_FRAME_BYTES with
  | .error error => .error (encodingError (toString error))
  | .ok bytes => WireFrame.new bytes

def commandFrame (kind : RawPacketKind) (command source destination : String)
    (fields : List String) : Except ProtocolError WireFrame :=
  frame { kind, command, source, destination, fields }

def eventMismatch (category : String) : ProtocolError :=
  encodingError ("classic " ++ category ++ " encoder received an unrelated event")

/-! ## Presence -/

/-- An error code with three digits. -/
def codeText (code : ErrorCode) : String :=
  let digits := toString code.value
  String.ofList (List.replicate (3 - digits.length) '0') ++ digits

def encodeStatus (event : Event) : Except ProtocolError WireFrame :=
  match event with
  | .error callsign code environment description =>
      commandFrame .request "ER" "server" (callsign.elim "unknown" toString)
        [codeText code, environment, description]
  | .welcome callsign message => commandFrame .client "TM" "server" (toString callsign) [message]
  | _ => .error (eventMismatch "status")

def encodePresence (event : Event) : Except ProtocolError WireFrame :=
  match event with
  | .clientAdded client =>
      match client.clientType with
      | .atc =>
          commandFrame .client "AA" (toString client.callsign) "SERVER"
            [client.realName, client.networkId, "", toString client.rating,
              toString CLASSIC_PROTOCOL_REVISION]
      | .pilot | .observer =>
          commandFrame .client "AP" (toString client.callsign) "SERVER"
            [client.networkId, "", toString client.rating, toString CLASSIC_PROTOCOL_REVISION,
              toString (client.simulatorType.getD 0)]
  | .clientRemoved callsign clientType networkId =>
      commandFrame .client (if clientType = .atc then "DA" else "DP") (toString callsign) networkId []
  | _ => .error (eventMismatch "presence")

/-! ## Positions and flight plans -/

def encodePosition (position : Position) : Except ProtocolError WireFrame :=
  frame <|
    match position with
    | .pilot position =>
        { kind := .pilotPosition
          command := String.singleton position.mode
          source := toString position.callsign
          destination := ""
          fields :=
            [position.squawk, toString position.rating, Decimal.fixed 5 position.latitude,
              Decimal.fixed 5 position.longitude, toString position.altitude,
              toString position.groundspeed, toString position.pbh, toString position.flags] }
    | .atc position =>
        { kind := .atcPosition
          command := ""
          source := toString position.callsign
          destination := ""
          fields :=
            [toString position.frequency, toString position.facilityType,
              toString position.visualRange, toString position.rating,
              Decimal.fixed 5 position.latitude, Decimal.fixed 5 position.longitude,
              toString position.altitude] }

/-- The fields of a flight plan on the wire. -/
def flightPlanFields (plan : FlightPlan) : List String :=
  [String.singleton plan.flightRules, plan.aircraft, toString plan.cruiseSpeed, plan.departure,
    toString plan.estimatedDeparture, toString plan.actualDeparture, plan.cruiseAltitude,
    plan.destination, toString plan.hoursEnroute, toString plan.minutesEnroute,
    toString plan.hoursFuel, toString plan.minutesFuel, plan.alternate, plan.remarks, plan.route]

def encodeFlightPlan (plan : FlightPlan) (destination : Destination) :
    Except ProtocolError WireFrame :=
  commandFrame .request "FP" (toString plan.callsign) (destinationText destination)
    (flightPlanFields plan)

/-! ## Routed events -/

def queryKindText : QueryKind → String
  | .realName => "RN"
  | .flightPlan => "FP"
  | .capabilities => "CAPS"
  | .atis => "ATIS"
  | .systemInfo => "INF"
  | .aircraftConfiguration => "ACC"
  | .raw value => value

def encodeQuery (event : Event) : Except ProtocolError WireFrame :=
  match event with
  | .query source destination kind arguments =>
      commandFrame .request "CQ" source (destinationText destination)
        (queryKindText kind :: arguments)
  | .response source destination kind arguments =>
      commandFrame .request "CR" source (destinationText destination)
        (queryKindText kind :: arguments)
  | _ => .error (eventMismatch "query")

def clientDataPacketKind : ClientDataKind → RawPacketKind
  | .squawkBox | .proController => .client
  | .communicationRequest | .communicationReply => .request

def clientDataCommand : ClientDataKind → String
  | .squawkBox => "SB"
  | .proController => "PC"
  | .communicationRequest => "C?"
  | .communicationReply => "CI"

def handoffCommand : HandoffKind → String
  | .request => "HO"
  | .accept => "HA"

def encodeRouted (event : Event) : Except ProtocolError WireFrame :=
  match event with
  | .text source destination message =>
      commandFrame .client "TM" (toString source) (destinationText destination) [message]
  | .ping source destination payload =>
      commandFrame .request "PI" (toString source) (destinationText destination) [payload]
  | .pong source destination payload =>
      commandFrame .request "PO" source (destinationText destination) [payload]
  | .handoff source target kind fields =>
      commandFrame .request (handoffCommand kind) (toString source) (toString target) fields
  | .clientData source target kind fields =>
      commandFrame (clientDataPacketKind kind) (clientDataCommand kind) (toString source)
        (toString target) fields
  | .weatherReport source destination _ report =>
      commandFrame .request "AR" source (toString destination) ["METAR", report]
  | .windDelta speed direction =>
      commandFrame .client "DL" "SERVER" "*" [toString speed, toString direction]
  | .disconnect target reason =>
      commandFrame .request "!!" "SERVER" (toString target) [reason]
  | _ => .error (eventMismatch "routed")

/-! ## Weather -/

def windFields (layer : WindLayer) : List String :=
  [toString layer.ceiling, toString layer.floor, toString layer.direction, toString layer.speed,
    toString layer.gusting, toString layer.turbulence]

def cloudFields (layer : CloudLayer) : List String :=
  [toString layer.ceiling, toString layer.floor, toString layer.coverage, toString layer.icing,
    toString layer.turbulence]

def encodeProfile (destination : Callsign) (profile : WeatherProfile) :
    Except ProtocolError (List WireFrame) := do
  match profile.validate with
  | .error error => .error (encodingError (toString error))
  | .ok () =>
      let temperature ← commandFrame .client "TD" "server" (toString destination)
        ((profile.temperatures.toList.flatMap fun layer =>
            [toString layer.ceiling, toString layer.temperature]) ++ [toString profile.barometer])
      let wind ← commandFrame .client "WD" "server" (toString destination)
        (profile.winds.toList.flatMap windFields)
      let cloud ← commandFrame .client "CD" "server" (toString destination)
        ((profile.clouds.toList ++ [profile.thunderstorm]).flatMap cloudFields ++
          [Decimal.fixed 2 profile.visibility])
      return [temperature, wind, cloud]

/-! ## Events -/

def encode (_context : EncodeContext) (event : Event) : Except ProtocolError (List WireFrame) :=
  match event with
  | .weatherProfile destination _ profile => encodeProfile destination profile
  | .error .. | .welcome .. => (encodeStatus event).map ([·])
  | .clientAdded .. | .clientRemoved .. => (encodePresence event).map ([·])
  | .position position => (encodePosition position).map ([·])
  | .flightPlan plan destination => (encodeFlightPlan plan destination).map ([·])
  | .query .. | .response .. => (encodeQuery event).map ([·])
  | .text .. | .ping .. | .pong .. | .handoff .. | .clientData .. | .weatherReport .. |
      .windDelta .. | .disconnect .. => (encodeRouted event).map ([·])

/-! ## Which frames encode -/

/-- The classic frame of a two-letter command can carry these tokens: one line within the limit. -/
structure Carries (limit : Nat) (tokens : List String) : Prop where
  fits : 2 + RawPacket.lineSize tokens ≤ limit
  unbroken : ∀ token ∈ tokens, Text.Unbroken token

instance (limit : Nat) (tokens : List String) : Decidable (Carries limit tokens) :=
  decidable_of_iff
    (2 + RawPacket.lineSize tokens ≤ limit ∧ ∀ token ∈ tokens, Text.Unbroken token)
    ⟨fun h => ⟨h.1, h.2⟩, fun h => ⟨h.fits, h.unbroken⟩⟩

theorem frame_isOk {packet : RawPacket} :
    (∃ out, frame packet = .ok out) ↔
      packet.output.length ≤ CLASSIC_MAX_FRAME_BYTES ∧
        packet.output.any Text.isDelimiter = false :=
  RawPacket.frame_isOk fun error => encodingError (toString error)

theorem frame_ok {packet : RawPacket} {out : WireFrame} :
    frame packet = .ok out ↔ packet.output.length ≤ CLASSIC_MAX_FRAME_BYTES ∧
      packet.output.any Text.isDelimiter = false ∧ out.bytes = packet.output := by
  constructor
  · intro framed
    obtain ⟨short, clean⟩ := frame_isOk.mp ⟨out, framed⟩
    refine ⟨short, clean, ?_⟩
    unfold frame at framed
    rw [RawPacket.encode_ok.mpr ⟨short, clean, rfl⟩] at framed
    rw [← Except.ok.inj ((WireFrame.new_ok clean).symm.trans framed)]
  · intro ⟨short, clean, same⟩
    unfold frame
    rw [RawPacket.encode_ok.mpr ⟨short, clean, rfl⟩]
    obtain ⟨bytes, undelimited⟩ := out
    subst same
    exact WireFrame.new_ok clean

theorem commandFrame_isOk {kind : RawPacketKind} {command source destination : String}
    {fields : List String} (family : kind = .request ∨ kind = .client) (straight : command ≠ "DI")
    (letters : command.utf8ByteSize = 2) (plain : Text.Unbroken command) :
    (∃ out, commandFrame kind command source destination fields = .ok out) ↔
      Carries CLASSIC_MAX_FRAME_BYTES (source :: destination :: fields) := by
  unfold commandFrame
  rw [frame_isOk, RawPacket.length_output family straight, RawPacket.any_output family straight,
    letters]
  exact ⟨fun ⟨fits, _, unbroken⟩ => ⟨fits, unbroken⟩,
    fun carries => ⟨carries.fits, plain, carries.unbroken⟩⟩

end AsterFsd.ClassicProtocol
