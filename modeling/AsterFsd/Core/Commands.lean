import AsterFsd.Core.Authentication
import AsterFsd.Core.Routing

/-! # Commands of an active session

`executeActive` checks phase and source ownership and hands the command to its handler, all under
one write lock. A weather request only reads the state; its reply depends on the provider's answer.
-/

namespace AsterFsd.Network

/-- The client type whose positions have this form. -/
def expectedType : Position → ClientType
  | .pilot _ => .pilot
  | .atc _ => .atc

def handleStateCommand (state : NetworkState) (connectionId : ConnectionId) (callsign : Callsign)
    (clientType : ClientType) (command : Command) : NetworkState × Effects :=
  match command with
  | .logoff _ => disconnectLocked state connectionId "client logoff"
  | .position position =>
      match position.validate with
      | .error error =>
          (state, errorEffect connectionId (some callsign) .syntaxError (toString error))
      | .ok () =>
          if clientType ≠ expectedType position then
            (state, errorEffect connectionId (some callsign) .syntaxError "position type")
          else if connectionId ∉ state.sessions then (state, {})
          else
            let state := { state with
              sessions := state.sessions.modify connectionId fun session =>
                { session with position := some position } }
            (state, send (positionRecipients state connectionId) (.position position))
  | .flightPlan plan =>
      if connectionId ∉ state.sessions then (state, {})
      else
        let state := { state with
          sessions := state.sessions.modify connectionId fun session =>
            { session with flightPlan := some plan } }
        (state, send (flightPlanRecipients state connectionId 400.0) (.flightPlan plan .atc))
  | _ => (state, {})

def handlePing (state : NetworkState) (connectionId : ConnectionId) (source : Callsign)
    (destination : Destination) (payload : String) : Effects :=
  if destination = .server then send [connectionId] (.pong "server" (.direct source) payload)
  else
    send (resolveDestination state connectionId destination .source)
      (.ping source destination payload)

/-- Where a relayed command goes and as what event. -/
def routed : Command → Option (Destination × RangePolicy × Event)
  | .text source destination message =>
      some (destination, .message, .text source destination message)
  | .response source destination kind arguments =>
      some (destination, .source, .response (toString source) destination kind arguments)
  | .pong source destination payload =>
      some (destination, .source, .pong (toString source) destination payload)
  | .handoff source target kind fields =>
      some (.direct target, .source, .handoff source target kind fields)
  | .clientData source target kind fields =>
      some (.direct target, .source, .clientData source target kind fields)
  | _ => none

def handleRoutedCommand (state : NetworkState) (connectionId : ConnectionId) (command : Command) :
    Effects :=
  match routed command with
  | none => {}
  | some (destination, rangePolicy, event) =>
      send (resolveDestination state connectionId destination rangePolicy) event

def handleKill (state : NetworkState) (connectionId : ConnectionId) (callsign : Callsign)
    (rating : Int32) (target : Callsign) (reason : String) : NetworkState × Effects :=
  match state.callsigns.lookup target with
  | none =>
      (state, errorEffect connectionId (some callsign) .noSuchCallsign (toString target))
  | some targetId =>
      if rating < 11 then
        (state,
          send [connectionId] (.welcome callsign "You are not allowed to kill users!"))
      else
        let effects := send [connectionId]
          (.welcome callsign ("Attempting to kill " ++ toString target))
        let effects := effects.extend (send [targetId] (.disconnect target reason))
        let (state, removal) := disconnectLocked state targetId reason
        (state, effects.extend removal)

/-- The flight-plan query the server answers itself. -/
def flightPlanQuery (state : NetworkState) (connectionId : ConnectionId) (source : Callsign)
    (arguments : List String) : Effects :=
  match arguments.head?.bind fun value => (Callsign.parse value).toOption with
  | none => errorEffect connectionId (some source) .syntaxError ""
  | some target =>
      match state.callsigns.lookup target with
      | none => errorEffect connectionId (some source) .noSuchCallsign (toString target)
      | some targetId =>
          match (state.sessions.lookup targetId).bind (·.flightPlan) with
          | none => errorEffect connectionId (some source) .noFlightPlan ""
          | some plan => send [connectionId] (.flightPlan plan (.direct source))

def handleQuery (state : NetworkState) (connectionId : ConnectionId) (source : Callsign)
    (destination : Destination) (kind : QueryKind) (arguments : List String) : Effects :=
  if destination ≠ .server then
    send (resolveDestination state connectionId destination .source)
      (.query (toString source) destination kind arguments)
  else
    match kind with
    | .flightPlan => flightPlanQuery state connectionId source arguments
    | .realName | .capabilities | .atis | .systemInfo | .aircraftConfiguration | .raw _ => {}

/-- The handler of a command whose source is the issuer's own callsign. -/
def handleCommand (state : NetworkState) (connectionId : ConnectionId) (presence : ClientPresence)
    (command : Command) : NetworkState × Effects :=
  match command with
  | .logoff _ | .position _ | .flightPlan _ =>
      handleStateCommand state connectionId presence.callsign presence.clientType command
  | .query source destination kind arguments =>
      (state, handleQuery state connectionId source destination kind arguments)
  | .ping source destination payload =>
      (state, handlePing state connectionId source destination payload)
  | .text .. | .response .. | .pong .. | .handoff .. | .clientData .. =>
      (state, handleRoutedCommand state connectionId command)
  | .kill _ target reason =>
      handleKill state connectionId presence.callsign presence.rating target reason
  | .noop _ | .identify _ | .login _ | .weatherRequest .. => (state, {})

def executeActive (state : NetworkState) (connectionId : ConnectionId) (command : Command) :
    NetworkState × Effects :=
  match state.sessions.lookup connectionId with
  | none => (state, {})
  | some session =>
      if session.phase ≠ .active then (state, {})
      else
        match session.presence with
        | none => (state, {})
        | some presence =>
            if command.source ≠ some presence.callsign then
              (state, errorEffect connectionId (some presence.callsign) .invalidSource
                (command.source.elim "" toString))
            else handleCommand state connectionId presence command

/-! ## Weather -/

/-- The read phase of `weather_request`: the coordinates to look up. -/
def weatherRequestCoordinates (state : NetworkState) (connectionId : ConnectionId)
    (source : Callsign) : Except Effects (Option (Float × Float)) :=
  match state.sessions.lookup connectionId with
  | none => .error {}
  | some session =>
      if session.phase ≠ .active then .error {}
      else if session.callsign ≠ some source then
        .error (errorEffect connectionId session.callsign .invalidSource (toString source))
      else .ok (session.position.map (·.coordinates))

def noWeather (connectionId : ConnectionId) (source : Callsign) (station : String) : Effects :=
  errorEffect connectionId (some source) .noWeather station

def parsedWeatherEffect (connectionId : ConnectionId) (source : Callsign) (station : String)
    (profile : Option WeatherProfile) : Effects :=
  match profile with
  | none => noWeather connectionId source station
  | some profile =>
      match profile.validate with
      | .error _ => noWeather connectionId source station
      | .ok () => send [connectionId] (.weatherProfile source station profile)

def rawWeatherEffect (connectionId : ConnectionId) (source : Callsign) (station : String)
    (report : Option String) : Effects :=
  match report with
  | none => noWeather connectionId source station
  | some report =>
      if report.toList.any fun c => c = '\r' ∨ c = '\n' then noWeather connectionId source station
      else send [connectionId] (.weatherReport "server" source station report)

/-- What `weather_request` makes of the provider's answer. -/
def weatherAnswered (connectionId : ConnectionId) (source : Callsign) (station : String)
    (parsed : Bool) (answer : Except WeatherProviderError (Option WeatherObservation)) : Effects :=
  match answer with
  | .ok (some observation) =>
      if parsed then parsedWeatherEffect connectionId source station observation.profile
      else rawWeatherEffect connectionId source station observation.rawMetar
  | .ok none | .error _ => noWeather connectionId source station

end AsterFsd.Network
