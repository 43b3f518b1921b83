import AsterFsd.Core.State

/-! # Identification and login

`identify` and `login` take the lock twice, with a call to the authenticator in between. Each is
given here as its sections: what runs under the first lock (`identifyGeneration`,
`loginGeneration`), what is made of the authenticator's answer (`identifyAnswered`,
`loginAnswered`), and what runs under the write lock (`identifyCommit`, `activateLogin`).
-/

namespace AsterFsd.Network

/-! ## Identify -/

/-- The read phase of `identify`: the generation to re-check after the await. -/
def identifyGeneration (state : NetworkState) (connectionId : ConnectionId) : Except Effects Nat :=
  match state.sessions.lookup connectionId with
  | none => .error {}
  | some session =>
      if session.phase ≠ .connected then
        .error (errorEffect connectionId session.callsign .alreadyRegistered "")
      else .ok session.generation

/-- What `identify` makes of the authenticator's answer. -/
def identifyAnswered (connectionId : ConnectionId) (command : Identification)
    (answer : Except AuthError Unit) : Except Effects Unit :=
  match answer with
  | .error _ =>
      .error (errorAndClose connectionId (some command.callsign) .unauthorizedClient
        command.clientId)
  | .ok () => .ok ()

/-- The write phase of `identify`. -/
def identifyCommit (state : NetworkState) (connectionId : ConnectionId) (command : Identification)
    (generation : Nat) : NetworkState × Effects :=
  match state.sessions.lookup connectionId with
  | none => (state, {})
  | some session =>
      if session.phase ≠ .connected ∨ session.generation ≠ generation then
        (state, errorEffect connectionId session.callsign .alreadyRegistered "")
      else
        ({ state with
            sessions := state.sessions.modify connectionId fun session =>
              { session with
                identification := some command
                phase := .identified
                generation := session.generation + 1 } },
          {})

/-! ## Login -/

/-- The protocol revision a login on this dialect must state. -/
def expectedRevision : ProtocolDialect → UInt16
  | .classic => CLASSIC_PROTOCOL_REVISION
  | .asterV1 => 1
  | .vatsim => VATSIM_PROTOCOL_REVISION

/-- The read phase of `login`: the generation to re-check after the await. -/
def loginGeneration (state : NetworkState) (connectionId : ConnectionId) (command : LoginCommand) :
    Except Effects Nat :=
  match state.sessions.lookup connectionId with
  | none => .error {}
  | some session =>
      if session.phase = .active then
        .error (errorEffect connectionId session.callsign .alreadyRegistered "")
      else if session.dialect = .vatsim ∧ session.phase ≠ .identified then
        .error (errorAndClose connectionId (some command.callsign) .syntaxError "missing $ID")
      else if command.protocolRevision ≠ expectedRevision session.dialect then
        .error (errorAndClose connectionId (some command.callsign) .invalidProtocolRevision "")
      else if command.callsign ∈ state.callsigns then
        .error (errorAndClose connectionId (some command.callsign) .callsignInUse "")
      else .ok session.generation

/-- Whether the identity holds any rating on the scale of the requested role. -/
def identityIsActive (command : LoginCommand) (authenticated : AuthenticatedIdentity) : Bool :=
  match command.clientType with
  | .atc => authenticated.atcRating ≠ .suspended
  | .pilot | .observer => authenticated.pilotRating ≠ .unrated

/-- Whether the identity's rating on the scale of the requested role allows the requested one. -/
def ratingIsAuthorized (command : LoginCommand) (authenticated : AuthenticatedIdentity) : Bool :=
  match command.clientType with
  | .atc => authenticated.atcRating.allowsWireValue command.requestedRating
  | .pilot | .observer => authenticated.pilotRating.allowsWireValue command.requestedRating

def validateRating (connectionId : ConnectionId) (command : LoginCommand)
    (authenticated : AuthenticatedIdentity) : Except Effects Unit :=
  if authenticated.suspended || !identityIsActive command authenticated then
    .error (errorAndClose connectionId (some command.callsign) .suspended "")
  else if !ratingIsAuthorized command authenticated then
    .error (errorAndClose connectionId (some command.callsign) .requestedLevelTooHigh
      (toString command.requestedRating))
  else .ok ()

/-- What `login` makes of the authenticator's answer, rating check included. -/
def loginAnswered (connectionId : ConnectionId) (command : LoginCommand)
    (answer : Except AuthError AuthenticatedIdentity) : Except Effects AuthenticatedIdentity :=
  match answer with
  | .error .suspended =>
      .error (errorAndClose connectionId (some command.callsign) .suspended "")
  | .error _ =>
      .error (errorAndClose connectionId (some command.callsign) .invalidCredentials
        command.networkId)
  | .ok authenticated =>
      match validateRating connectionId command authenticated with
      | .error effects => .error effects
      | .ok () => .ok authenticated

/-- The query, responses and notice a VATSIM client expects right after login. -/
def vatsimLoginProfile (connectionId : ConnectionId) (peer : SocketAddr)
    (presence : ClientPresence) : List Delivery :=
  let destination := Destination.direct presence.callsign
  let toClient (event : Event) : Delivery := { recipients := [connectionId], event }
  [toClient (.query "SERVER" destination .capabilities [])] ++
    (if presence.clientType = .atc then
      [toClient (.response "SERVER" destination (.raw "ATC") ["N", toString presence.callsign]),
        toClient (.response "SERVER" destination .capabilities ["ATCINFO=1", "SECPOS=1"])]
    else []) ++
    [toClient (.response "SERVER" destination (.raw "IP") [peer.ip.toString])] ++
    (if presence.clientType = .pilot ∨ presence.clientType = .observer then
      [toClient (.error (some presence.callsign) .noFlightPlan (toString presence.callsign)
        ErrorCode.noFlightPlan.description)]
    else [])

/-- Adds the VATSIM profile to the effects of a login. -/
def appendVatsimLoginProfile (effects : Effects) (connectionId : ConnectionId) (peer : SocketAddr)
    (presence : ClientPresence) : Effects :=
  { effects with
    deliveries := effects.deliveries ++ vatsimLoginProfile connectionId peer presence }

def loginEffects (config : CoreConfig) (state : NetworkState) (connectionId : ConnectionId)
    (presence : ClientPresence) : Effects :=
  let peers := activeIds state (some connectionId)
  let announced : List Delivery :=
    if peers.isEmpty then [] else [{ recipients := peers, event := .clientAdded presence }]
  let welcomed : List Delivery :=
    (config.productMessage :: config.motd).map fun line =>
      { recipients := [connectionId], event := .welcome presence.callsign line }
  let effects : Effects := { deliveries := announced ++ welcomed }
  match (state.sessions.lookup connectionId).filter (·.dialect = .vatsim) with
  | none => effects
  | some session => appendVatsimLoginProfile effects connectionId session.peer presence

/-- The presence a login stores. -/
def loginPresence (command : LoginCommand) (authenticated : AuthenticatedIdentity) :
    ClientPresence where
  callsign := command.callsign
  clientType := command.clientType
  networkId := authenticated.networkId
  realName := authenticated.realName
  rating := command.requestedRating
  protocolRevision := command.protocolRevision
  simulatorType := command.simulatorType

/-- The stored identification names this callsign and network ID. -/
def identificationMatches (identification : Identification) (command : LoginCommand) : Bool :=
  identification.callsign = command.callsign && identification.networkId = some command.networkId

/-- The write phase of `login`. -/
def activateLogin (config : CoreConfig) (state : NetworkState) (connectionId : ConnectionId)
    (command : LoginCommand) (authenticated : AuthenticatedIdentity) (generation : Nat) :
    NetworkState × Effects :=
  if command.callsign ∈ state.callsigns then
    (state, errorAndClose connectionId (some command.callsign) .callsignInUse "")
  else
    match state.sessions.lookup connectionId with
    | none => (state, {})
    | some session =>
        if ¬ (session.phase = .connected ∨ session.phase = .identified) ∨
            session.generation ≠ generation then
          (state, errorEffect connectionId session.callsign .alreadyRegistered "")
        else if session.dialect = .vatsim ∧
            ¬ session.identification.any (identificationMatches · command) then
          (state, errorAndClose connectionId (some command.callsign) .invalidSource "")
        else
          let presence := loginPresence command authenticated
          let state : NetworkState :=
            { sessions := state.sessions.modify connectionId fun session =>
                { session with
                  phase := .active
                  presence := some presence
                  generation := session.generation + 1 }
              callsigns := state.callsigns.insert command.callsign connectionId }
          (state, loginEffects config state connectionId presence)

end AsterFsd.Network
