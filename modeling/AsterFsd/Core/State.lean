import AsterFsd.Lib.KeyedMap
import AsterFsd.Model.Message

/-! # The authoritative network state

Sessions by connection and the callsign index, the effects a command returns, and the lifecycle
operations that need no authentication: register and disconnect. A function of the source that holds
the write lock takes the state and returns it with its result.
-/

namespace AsterFsd

/-! ## Effects -/

/-- One event and its fully resolved recipient connection IDs. -/
structure Delivery where
  recipients : List ConnectionId
  event : Event
  deriving DecidableEq

/-- Direct transport close requested after semantic effects are delivered. -/
structure CloseConnection where
  connectionId : ConnectionId
  reason : String
  deriving DecidableEq

/-- Ordered semantic output of executing one command. -/
structure Effects where
  deliveries : List Delivery := []
  close : Option CloseConnection := none
  deriving DecidableEq

/-- Append another command's output; a close in it wins. -/
def Effects.extend (effects other : Effects) : Effects where
  deliveries := effects.deliveries ++ other.deliveries
  close := other.close <|> effects.close

/-! ## State -/

structure Session where
  connectionId : ConnectionId
  peer : SocketAddr
  dialect : ProtocolDialect
  phase : SessionPhase
  /-- A `u64` that only identify and login increment, so it never passes 2. -/
  generation : Nat
  identification : Option Identification
  presence : Option ClientPresence
  position : Option Position
  flightPlan : Option FlightPlan
  deriving DecidableEq

def Session.callsign (session : Session) : Option Callsign := session.presence.map (·.callsign)

/-- A point-in-time view of a session. -/
structure SessionSnapshot where
  phase : SessionPhase
  callsign : Option Callsign
  presence : Option ClientPresence
  deriving DecidableEq

/-- Before login the callsign is the one the client identified with, if it has. -/
def Session.snapshot (session : Session) : SessionSnapshot where
  phase := session.phase
  callsign := session.callsign <|> session.identification.map (·.callsign)
  presence := session.presence

/-- The two maps behind the lock. The iteration order of `sessions` is whatever the insertions left;
    nothing relies on it. -/
structure NetworkState where
  sessions : KeyedMap ConnectionId Session := ∅
  callsigns : KeyedMap Callsign ConnectionId := ∅

/-- Runtime policy owned by the shared network core. -/
structure CoreConfig where
  maxClients : Nat
  productMessage : String
  motd : List String

/-- Failure to register a newly accepted connection. -/
inductive RegisterError where
  | serverFull
  | duplicateConnection
  deriving DecidableEq

namespace Network

/-- The connections of the active sessions, without the excluded one. -/
def activeIds (state : NetworkState) (exclude : Option ConnectionId) : List ConnectionId :=
  (state.sessions.values.filter fun session =>
    session.phase = .active ∧ some session.connectionId ≠ exclude).map (·.connectionId)

def send (recipients : List ConnectionId) (event : Event) : Effects :=
  if recipients.isEmpty then {} else { deliveries := [{ recipients, event }] }

def errorEffect (connectionId : ConnectionId) (callsign : Option Callsign) (code : ErrorCode)
    (environment : String) : Effects :=
  send [connectionId] (.error callsign code environment code.description)

def errorAndClose (connectionId : ConnectionId) (callsign : Option Callsign) (code : ErrorCode)
    (environment : String) : Effects :=
  { errorEffect connectionId callsign code environment with
    close := some { connectionId, reason := code.description } }

/-- The session a fresh registration stores. -/
def freshSession (connectionId : ConnectionId) (peer : SocketAddr) (dialect : ProtocolDialect) :
    Session where
  connectionId := connectionId
  peer := peer
  dialect := dialect
  phase := .connected
  generation := 0
  identification := none
  presence := none
  position := none
  flightPlan := none

/-- Registers a newly accepted connection before any protocol command runs. -/
def register (config : CoreConfig) (state : NetworkState) (connectionId : ConnectionId)
    (peer : SocketAddr) (dialect : ProtocolDialect) : NetworkState × Except RegisterError Unit :=
  if connectionId ∈ state.sessions then (state, .error .duplicateConnection)
  else if config.maxClients ≤ state.sessions.size then (state, .error .serverFull)
  else
    ({ state with
        sessions := state.sessions.insert connectionId (freshSession connectionId peer dialect) },
      .ok ())

/-- The snapshot of a registered connection. -/
def snapshot (state : NetworkState) (connectionId : ConnectionId) : Option SessionSnapshot :=
  (state.sessions.lookup connectionId).map Session.snapshot

/-- Broadcasts a server-originated event to all active sessions. -/
def broadcast (state : NetworkState) (event : Event) : Effects := send (activeIds state none) event

def disconnectLocked (state : NetworkState) (connectionId : ConnectionId) (reason : String) :
    NetworkState × Effects :=
  match state.sessions.lookup connectionId with
  | none => (state, {})
  | some session =>
      let state := { state with sessions := state.sessions.erase connectionId }
      let close := some { connectionId, reason : CloseConnection }
      match session.presence with
      | none => (state, { close })
      | some presence =>
          let state := { state with callsigns := state.callsigns.erase presence.callsign }
          let peers := activeIds state none
          if peers.isEmpty then (state, { close })
          else
            (state,
              { deliveries := [{
                  recipients := peers
                  event := .clientRemoved presence.callsign presence.clientType
                    presence.networkId }]
                close })

/-- Removes a connection and releases all authoritative indexes. -/
def disconnect (state : NetworkState) (connectionId : ConnectionId) (reason : String) :
    NetworkState × Effects := disconnectLocked state connectionId reason

end Network

end AsterFsd
