import AsterFsd.Protocol.Packet
import AsterFsd.Lib.Decimal

/-! # Decoding classic FSD frames

The parts every command shares (identifiers, integers, numbers of fields) come first, then one function
for each family of commands. Fields are read by index after the number of fields was checked.
-/

namespace AsterFsd.ClassicProtocol

def syntaxError (message : String) : ProtocolError := ⟨.syntaxError, message, none⟩

def unwrap {α : Type} (value : Option α) (error : ProtocolError) : Except ProtocolError α :=
  match value with
  | some value => .ok value
  | none => .error error

def field (fields : List String) (index : Nat) (name : String) : Except ProtocolError String :=
  unwrap fields[index]? (syntaxError ("missing " ++ name))

def parseI32 (value name : String) : Except ProtocolError Int32 :=
  unwrap (Decimal.parseInt32 value) (syntaxError ("invalid " ++ name))

def parseProtocolRevision (value : String) : Except ProtocolError UInt16 :=
  unwrap (Decimal.parseUInt16 value)
    (ProtocolError.withErrorCode
      ⟨.invalidField, "protocol revision is not an unsigned integer", none⟩ .invalidProtocolRevision)

def parseU32 (value name : String) : Except ProtocolError UInt32 :=
  unwrap (Decimal.parseUInt32 value) (syntaxError ("invalid " ++ name))

def parseF64 (value name : String) : Except ProtocolError Float :=
  unwrap (Decimal.parseFloat value) (syntaxError ("invalid " ++ name))

def callsign (value : String) (errorCode : ErrorCode) : Except ProtocolError Callsign :=
  match Callsign.parse value with
  | .ok callsign => .ok callsign
  | .error error =>
      match error with
      | .invalidCallsignLength | .invalidCallsignCharacter =>
          .error (ProtocolError.withErrorCode ⟨.invalidField, toString error, none⟩ errorCode)
      | _ => .error (syntaxError (toString error))

def destination (value : String) : Except ProtocolError Destination :=
  (Destination.parse value).mapError fun error => ⟨.invalidField, toString error, none⟩

def directDestination (value command : String) : Except ProtocolError Destination := do
  let destination ← destination value
  match destination with
  | .direct callsign => .ok (.direct callsign)
  | .server | .all | .atc | .pilots | .range _ =>
      .error (syntaxError (command ++ " requires a direct callsign destination"))

def directCallsign (value command : String) : Except ProtocolError Callsign := do
  match ← directDestination value command with
  | .direct callsign => .ok callsign
  | .server | .all | .atc | .pilots | .range _ =>
      .error (syntaxError (command ++ " requires a direct callsign destination"))

def requireFields (packet : RawPacket) (minimum : Nat) : Except ProtocolError Unit :=
  if packet.fields.length < minimum then
    .error (syntaxError
      (packet.command ++ " requires at least " ++ toString minimum ++ " payload field(s)"))
  else .ok ()

/-! ## Login -/

def decodeLogin (packet : RawPacket) : Except ProtocolError Command :=
  if packet.command = "AA" then
    if packet.fields.length < 5 then .error (syntaxError "#AA requires seven fields")
    else do
      let callsign ← callsign packet.source .invalidCallsign
      let realName ← field packet.fields 0 "real name"
      let networkId ← field packet.fields 1 "network ID"
      let password ← field packet.fields 2 "password"
      let requestedRating ← parseI32 (← field packet.fields 3 "rating") "rating"
      let protocolRevision ← parseProtocolRevision (← field packet.fields 4 "protocol revision")
      return .login
        { callsign, clientType := .atc, networkId, password, requestedRating, protocolRevision
          realName, simulatorType := none }
  else if packet.command = "AP" then
    if packet.fields.length < 6 then .error (syntaxError "#AP requires eight fields")
    else do
      let callsign ← callsign packet.source .invalidCallsign
      let networkId ← field packet.fields 0 "network ID"
      let password ← field packet.fields 1 "password"
      let requestedRating ← parseI32 (← field packet.fields 2 "rating") "rating"
      let protocolRevision ← parseProtocolRevision (← field packet.fields 3 "protocol revision")
      let simulatorType ← parseI32 (← field packet.fields 4 "simulator type") "simulator type"
      let realName ← field packet.fields 5 "real name"
      return .login
        { callsign, clientType := .pilot, networkId, password, requestedRating, protocolRevision
          realName, simulatorType := some simulatorType }
  else .error (syntaxError "unsupported login command")

/-! ## Positions -/

/-- The integer spelling of a transponder code. -/
def canonicalSquawk (value : String) : Except ProtocolError String :=
  if !Position.validSquawk value then
    .error ⟨.invalidField, "squawk must contain between one and four octal digits", none⟩
  else
    match Decimal.parseUInt16 value with
    | some squawk => .ok (toString squawk)
    | none => .error ⟨.invalidField, "invalid digit found in string", none⟩

def decodePosition (packet : RawPacket) : Except ProtocolError Command := do
  let callsign ← callsign packet.source .invalidSource
  match packet.kind with
  | .pilotPosition =>
      if short : packet.fields.length < 8 then
        .error (syntaxError "pilot position requires ten fields")
      else
        let mode ← unwrap packet.command.toList.head? (syntaxError "missing mode")
        let squawk ← canonicalSquawk packet.fields[0]
        let rating ← parseI32 packet.fields[1] "rating"
        let latitude ← parseF64 packet.fields[2] "latitude"
        let longitude ← parseF64 packet.fields[3] "longitude"
        let altitude ← parseI32 packet.fields[4] "altitude"
        let groundspeed ← parseI32 packet.fields[5] "groundspeed"
        let pbh ← parseU32 packet.fields[6] "PBH"
        let flags ← parseI32 packet.fields[7] "flags"
        return .position (.pilot
          { callsign, mode, squawk, rating, latitude, longitude, altitude, groundspeed, pbh, flags })
  | .atcPosition =>
      if short : packet.fields.length < 7 then
        .error (syntaxError "ATC position requires eight fields")
      else
        let frequency ← parseI32 packet.fields[0] "frequency"
        let facilityType ← parseI32 packet.fields[1] "facility type"
        let visualRange ← parseI32 packet.fields[2] "visual range"
        let rating ← parseI32 packet.fields[3] "rating"
        let latitude ← parseF64 packet.fields[4] "latitude"
        let longitude ← parseF64 packet.fields[5] "longitude"
        let altitude ← parseI32 packet.fields[6] "altitude"
        return .position (.atc
          { callsign, frequency, facilityType, visualRange, rating, latitude, longitude, altitude })
  | .request | .client | .ivaoSpecific | .ivaoData | .ivaoOther =>
      .error (syntaxError "not a position packet")

/-! ## Routed commands -/

/-- `fields.join(":")`. -/
def joined (packet : RawPacket) : String := ":".intercalate packet.fields

def decodeText (packet : RawPacket) : Except ProtocolError Command := do
  requireFields packet 1
  let source ← callsign packet.source .invalidSource
  let destination ← destination packet.destination
  return .text source destination (joined packet)

def decodePingPong (packet : RawPacket) : Except ProtocolError Command := do
  let source ← callsign packet.source .invalidSource
  let destination ← destination packet.destination
  if packet.command = "PI" then return .ping source destination (joined packet)
  else return .pong source destination (joined packet)

def decodeKill (packet : RawPacket) : Except ProtocolError Command := do
  requireFields packet 1
  let source ← callsign packet.source .invalidSource
  let target ← callsign packet.destination .invalidCallsign
  return .kill source target (joined packet)

def decodeFlightPlan (packet : RawPacket) : Except ProtocolError Command :=
  if short : packet.fields.length < 15 then .error (syntaxError "$FP requires seventeen fields")
  else do
    let callsign ← callsign packet.source .invalidSource
    let flightRules ← unwrap packet.fields[0].toList.head? (syntaxError "missing flight rules")
    let cruiseSpeed ← parseI32 packet.fields[2] "cruise speed"
    let estimatedDeparture ← parseI32 packet.fields[4] "estimated departure"
    let actualDeparture ← parseI32 packet.fields[5] "actual departure"
    let hoursEnroute ← parseI32 packet.fields[8] "hours enroute"
    let minutesEnroute ← parseI32 packet.fields[9] "minutes enroute"
    let hoursFuel ← parseI32 packet.fields[10] "hours fuel"
    let minutesFuel ← parseI32 packet.fields[11] "minutes fuel"
    return .flightPlan
      { callsign, flightRules, aircraft := packet.fields[1], cruiseSpeed
        departure := packet.fields[3], estimatedDeparture, actualDeparture
        cruiseAltitude := packet.fields[6], destination := packet.fields[7], hoursEnroute
        minutesEnroute, hoursFuel, minutesFuel, alternate := packet.fields[12]
        remarks := packet.fields[13], route := packet.fields[14] }

def queryKind (value : String) : QueryKind :=
  let upper := toAsciiUppercase value
  if upper = "RN" then .realName
  else if upper = "FP" then .flightPlan
  else if upper = "CAPS" then .capabilities
  else if upper = "ATIS" then .atis
  else if upper = "INF" then .systemInfo
  else if upper = "ACC" then .aircraftConfiguration
  else .raw value

def decodeQueryResponse (packet : RawPacket) : Except ProtocolError Command := do
  let response := packet.command = "CR"
  requireFields packet (if response then 2 else 1)
  let source ← callsign packet.source .invalidSource
  let destination ←
    if response then directDestination packet.destination "$CR"
    else destination packet.destination
  match packet.fields with
  | [] => .error (syntaxError "query requires a kind")
  | kind :: arguments =>
      if response then return .response source destination (queryKind kind) arguments
      else return .query source destination (queryKind kind) arguments

def decodeWeather (packet : RawPacket) : Except ProtocolError Command := do
  requireFields packet 1
  let source ← callsign packet.source .invalidSource
  match packet.fields with
  | [] => .error (syntaxError "weather request requires a payload")
  | first :: fields =>
      if packet.command = "WX" then
        return .weatherRequest source (toAsciiUppercase first) true
      else
        match fields with
        | [] => return .noop source
        | station :: _ =>
            if toAsciiUppercase first ≠ "METAR" then return .noop source
            else return .weatherRequest source (toAsciiUppercase station) false

def decodeDirectClientCommand (packet : RawPacket) : Except ProtocolError Command :=
  if packet.command = "HO" ∨ packet.command = "HA" then do
    requireFields packet 1
    let source ← callsign packet.source .invalidSource
    let target ← directCallsign packet.destination packet.command
    return .handoff source target (if packet.command = "HO" then .request else .accept)
      packet.fields
  else do
    if packet.command = "CI" then requireFields packet 1
    let kind : ClientDataKind ←
      if packet.command = "SB" then pure .squawkBox
      else if packet.command = "PC" then pure .proController
      else if packet.command = "C?" then pure .communicationRequest
      else if packet.command = "CI" then pure .communicationReply
      else .error (syntaxError "unsupported client-data command")
    let source ← callsign packet.source .invalidSource
    let target ← directCallsign packet.destination packet.command
    return .clientData source target kind packet.fields

/-! ## Packets -/

def decodePacket (packet : RawPacket) : Except ProtocolError Command :=
  if packet.kind = .pilotPosition ∨ packet.kind = .atcPosition then decodePosition packet
  else if packet.command ∈ ["CQ", "CR"] then decodeQueryResponse packet
  else if packet.command ∈ ["WX", "AX"] then decodeWeather packet
  else if packet.command ∈ ["HO", "HA", "SB", "PC", "C?", "CI"] then
    decodeDirectClientCommand packet
  else if packet.command ∈ ["AA", "AP"] then decodeLogin packet
  else if packet.command ∈ ["DA", "DP"] then
    (callsign packet.source .invalidSource).map .logoff
  else if packet.command = "TM" then decodeText packet
  else if packet.command = "FP" then decodeFlightPlan packet
  else if packet.command ∈ ["PI", "PO"] then decodePingPong packet
  else if packet.command = "!!" then decodeKill packet
  else .error ⟨.unsupported, "unsupported classic command " ++ packet.command, none⟩

def decode (frame : List UInt8) : Except ProtocolError Command :=
  match RawPacket.parse frame with
  | .error error => .error (syntaxError (toString error))
  | .ok packet => decodePacket packet

example :
    decode (Text.bytes "#TMabc:*:hello: world") =
      (do return .text (← callsign "ABC" .noError) .all "hello: world") := by
  decide

end AsterFsd.ClassicProtocol
