import AsterFsd.Model.Position

/-! # Commands, events and the data of a session

The vocabulary between the protocol backends and the network core: what a client may ask
(`Command`), what the core announces (`Event`), and the records both carry.
-/

namespace AsterFsd

/-! ## Connections and dialects -/

/-- Protocol revision emitted to classic FSD draft 9 peers. -/
def CLASSIC_PROTOCOL_REVISION : UInt16 := 9

/-- Protocol revision emitted to VATSIM-compatible FSD peers. -/
def VATSIM_PROTOCOL_REVISION : UInt16 := 100

/-- Wire dialect selected for a listener and recorded on a client session. -/
inductive ProtocolDialect where
  | classic
  | vatsim
  | asterV1
  deriving DecidableEq, Repr

/-- Stable server-local identifier for one accepted TCP connection. -/
structure ConnectionId where
  value : UInt64
  deriving DecidableEq, Repr

/-- An IP address, by its bytes or its 16-bit segments. -/
inductive IpAddr where
  | v4 (a b c d : UInt8)
  | v6 (segments : Vector UInt16 8)
  deriving DecidableEq

namespace IpAddr

private def v4Text (a b c d : UInt8) : String :=
  toString a ++ "." ++ toString b ++ "." ++ toString c ++ "." ++ toString d

private def hexText (segment : UInt16) : String := String.ofList (Nat.toDigits 16 segment.toNat)

private def hexJoin (segments : List UInt16) : String := ":".intercalate (segments.map hexText)

/-- Start and length of the first longest run of zero segments. -/
private def longestZeros : List UInt16 → Nat → Nat × Nat → Nat × Nat → Nat × Nat
  | [], _, _, best => best
  | s :: rest, i, (start, length), best =>
      if s = 0 then
        let current := if length = 0 then (i, 1) else (start, length + 1)
        longestZeros rest (i + 1) current (if best.2 < current.2 then current else best)
      else longestZeros rest (i + 1) (0, 0) best

/-- The displayed form: dotted quad, or hexadecimal segments with the first longest run of two or
    more zeros elided; an IPv4-mapped address shows its dotted quad. -/
def toString : IpAddr → String
  | .v4 a b c d => v4Text a b c d
  | .v6 segments =>
      match segments.toList with
      | [0, 0, 0, 0, 0, 0xffff, ab, cd] =>
          "::ffff:" ++ v4Text (ab >>> 8).toUInt8 ab.toUInt8 (cd >>> 8).toUInt8 cd.toUInt8
      | parts =>
          let (start, length) := longestZeros parts 0 (0, 0) (0, 0)
          if 1 < length then
            hexJoin (parts.take start) ++ "::" ++ hexJoin (parts.drop (start + length))
          else hexJoin parts

end IpAddr

/-- A transport peer. -/
structure SocketAddr where
  ip : IpAddr
  port : UInt16
  deriving DecidableEq

/-- Lifecycle phase of a connection in the authoritative network state. -/
inductive SessionPhase where
  | connected
  | identified
  | active
  | closed
  deriving DecidableEq, Repr

/-- VATSIM-style client identification supplied before login. -/
structure Identification where
  callsign : Callsign
  clientId : String
  clientName : String
  networkId : Option String
  deriving DecidableEq

/-- Protocol-independent login request passed to the authentication port. -/
structure LoginCommand where
  callsign : Callsign
  clientType : ClientType
  networkId : String
  password : String
  requestedRating : Int32
  protocolRevision : UInt16
  realName : String
  simulatorType : Option Int32
  deriving DecidableEq

/-- Public, password-free presence announced to authenticated peers. -/
structure ClientPresence where
  callsign : Callsign
  clientType : ClientType
  networkId : String
  realName : String
  rating : Int32
  protocolRevision : UInt16
  simulatorType : Option Int32
  deriving DecidableEq

/-! ## Routing vocabulary -/

/-- Typed delivery destination understood by the network core. -/
inductive Destination where
  | server
  | direct (callsign : Callsign)
  | all
  | atc
  | pilots
  | range (value : String)
  deriving DecidableEq

/-- Parses a classic destination token into a routing intent. -/
def Destination.parse (value : String) : Except ModelError Destination :=
  if value.isEmpty then .error .emptyDestination
  else
    let upper := toAsciiUppercase value
    if upper = "SERVER" then .ok .server
    else if upper = "*" then .ok .all
    else if upper = "*A" then .ok .atc
    else if upper = "*P" then .ok .pilots
    else if value.toList.head? = some '@' then .ok (.range value)
    else (Callsign.parse value).map .direct

/-- Semantic query category shared across protocol encodings. -/
inductive QueryKind where
  | realName
  | flightPlan
  | capabilities
  | atis
  | systemInfo
  | aircraftConfiguration
  | raw (value : String)
  deriving DecidableEq

/-- Direction of an ATC handoff transaction relayed by the network. -/
inductive HandoffKind where
  | request
  | accept
  deriving DecidableEq, Repr

/-- Typed legacy client-data exchange retained by classic FSD clients. -/
inductive ClientDataKind where
  | squawkBox
  | proController
  | communicationRequest
  | communicationReply
  deriving DecidableEq, Repr

/-! ## Errors -/

/-- Classic FSD error codes retained as cross-backend semantic errors. -/
inductive ErrorCode where
  | noError
  | callsignInUse
  | invalidCallsign
  | alreadyRegistered
  | syntaxError
  | invalidSource
  | invalidCredentials
  | noSuchCallsign
  | noFlightPlan
  | noWeather
  | invalidProtocolRevision
  | requestedLevelTooHigh
  | serverFull
  | suspended
  | unauthorizedClient
  deriving DecidableEq, Repr

namespace ErrorCode

/-- The wire number of the code. -/
def value : ErrorCode → UInt16
  | .noError => 0
  | .callsignInUse => 1
  | .invalidCallsign => 2
  | .alreadyRegistered => 3
  | .syntaxError => 4
  | .invalidSource => 5
  | .invalidCredentials => 6
  | .noSuchCallsign => 7
  | .noFlightPlan => 8
  | .noWeather => 9
  | .invalidProtocolRevision => 10
  | .requestedLevelTooHigh => 11
  | .serverFull => 12
  | .suspended => 13
  | .unauthorizedClient => 16

/-- The canonical human-readable classic FSD description. -/
def description : ErrorCode → String
  | .noError => "No error"
  | .callsignInUse => "Callsign in use"
  | .invalidCallsign => "Invalid callsign"
  | .alreadyRegistered => "Already registerd"
  | .syntaxError => "Syntax error"
  | .invalidSource => "Invalid source callsign"
  | .invalidCredentials => "Invalid CID/password"
  | .noSuchCallsign => "No such callsign"
  | .noFlightPlan => "No flightplan"
  | .noWeather => "No such weather profile"
  | .invalidProtocolRevision => "Invalid protocol revision"
  | .requestedLevelTooHigh => "Requested level too high"
  | .serverFull => "Too many clients connected"
  | .suspended => "CID/PID was suspended"
  | .unauthorizedClient => "Unauthorized client software"

end ErrorCode

/-- Authentication failures exposed to the network core. -/
inductive AuthError where
  | invalidCredentials
  | clientNotAuthorized
  | suspended
  | backend (message : String)
  | invalidPasswordHash
  deriving DecidableEq

/-! ## Commands and events -/

/-- A validated client command produced by a protocol backend. -/
inductive Command where
  | noop (source : Callsign)
  | identify (command : Identification)
  | login (command : LoginCommand)
  | logoff (source : Callsign)
  | position (position : Position)
  | text (source : Callsign) (destination : Destination) (message : String)
  | flightPlan (plan : FlightPlan)
  | query (source : Callsign) (destination : Destination) (kind : QueryKind)
      (arguments : List String)
  | response (source : Callsign) (destination : Destination) (kind : QueryKind)
      (arguments : List String)
  | ping (source : Callsign) (destination : Destination) (payload : String)
  | pong (source : Callsign) (destination : Destination) (payload : String)
  | handoff (source target : Callsign) (kind : HandoffKind) (fields : List String)
  | clientData (source target : Callsign) (kind : ClientDataKind) (fields : List String)
  | weatherRequest (source : Callsign) (station : String) (parsed : Bool)
  | kill (source target : Callsign) (reason : String)
  deriving DecidableEq

/-- The command's claimed source callsign for ownership checks. -/
def Command.source : Command → Option Callsign
  | .identify command => some command.callsign
  | .login command => some command.callsign
  | .noop source => some source
  | .logoff source => some source
  | .text source _ _ => some source
  | .query source _ _ _ => some source
  | .response source _ _ _ => some source
  | .ping source _ _ => some source
  | .pong source _ _ => some source
  | .handoff source _ _ _ => some source
  | .clientData source _ _ _ => some source
  | .weatherRequest source _ _ => some source
  | .kill source _ _ => some source
  | .position update => some update.callsign
  | .flightPlan plan => some plan.callsign

/-- Protocol-independent result emitted by the network core. -/
inductive Event where
  | error (callsign : Option Callsign) (code : ErrorCode) (environment description : String)
  | welcome (callsign : Callsign) (message : String)
  | clientAdded (client : ClientPresence)
  | clientRemoved (callsign : Callsign) (clientType : ClientType) (networkId : String)
  | position (position : Position)
  | text (source : Callsign) (destination : Destination) (message : String)
  | flightPlan (plan : FlightPlan) (destination : Destination)
  | query (source : String) (destination : Destination) (kind : QueryKind) (arguments : List String)
  | response (source : String) (destination : Destination) (kind : QueryKind)
      (arguments : List String)
  | ping (source : Callsign) (destination : Destination) (payload : String)
  | pong (source : String) (destination : Destination) (payload : String)
  | handoff (source target : Callsign) (kind : HandoffKind) (fields : List String)
  | clientData (source target : Callsign) (kind : ClientDataKind) (fields : List String)
  | weatherReport (source : String) (destination : Callsign) (station report : String)
  | weatherProfile (destination : Callsign) (station : String) (profile : WeatherProfile)
  | windDelta (speed direction : Int32)
  | disconnect (target : Callsign) (reason : String)
  deriving DecidableEq

end AsterFsd
