import AsterFsd.Server.Connection

/-! # The configuration of the service

The settings read from the configuration file, their validation, and the settings of the server and of the
network core that are made of them. A validated configuration starts a server; whether a client that
logs in can be told what the network tells it depends on the lines that its listener carries.
-/

namespace AsterFsd

/-! ## The configuration file -/

/-- The white space of Unicode. -/
def isWhitespace (c : Char) : Bool :=
  let n := c.toNat
  (9 ≤ n && n ≤ 13) || n = 32 || n = 0x85 || n = 0xa0 || n = 0x1680 || (0x2000 ≤ n && n ≤ 0x200a) ||
    n = 0x2028 || n = 0x2029 || n = 0x202f || n = 0x205f || n = 0x3000

def trim (text : String) : String :=
  String.ofList ((text.toList.dropWhile isWhitespace).reverse.dropWhile isWhitespace).reverse

namespace Service

/-- Configuration validation failures detected before any listener binds. -/
inductive ConfigError where
  | emptyServerName
  | invalidProductMessage
  | noListeners
  | duplicateListener
  | invalidListenerLimit
  | classicFrameLimit
  | invalidServerLimit
  | invalidDatabasePool
  | emptyLoggingLevel
  deriving DecidableEq, Repr

/-- Product identity and shared runtime limits. -/
structure ServerConfig where
  name : String := "AsterFSD"
  version : String := "0.2.0"
  productMessage : String := "AsterFSD 0.2.0"
  maxClients : Nat := 1000
  mailboxCapacity : Nat := 256
  windDeltaIntervalSeconds : Nat := 70
  motd : List String := []

/-- Configuration of one named TCP protocol listener. -/
structure ListenerConfig where
  name : String
  protocol : ProtocolDialect
  address : String := "0.0.0.0"
  port : UInt16
  maxFrameBytes : Nat := 511
  idleTimeoutSeconds : Nat := 500

/-- The log filter. -/
structure LoggingConfig where
  level : String := "info"

/-- Limits of the persistent database pool. -/
structure DatabaseConfig where
  maxConnections : UInt32 := 100
  minConnections : UInt32 := 5

/-- The listener without a configuration. -/
def defaultListeners : List ListenerConfig := [{ name := "classic", protocol := .classic, port := 6809 }]

/-- Complete service configuration. -/
structure Config where
  server : ServerConfig := {}
  listeners : List ListenerConfig := defaultListeners
  logging : LoggingConfig := {}
  database : DatabaseConfig := {}

/-- Validates the listeners after those with these names and addresses. -/
def validateListeners (names : List String) (addresses : List (String × UInt16)) :
    List ListenerConfig → Except ConfigError Unit
  | [] => .ok ()
  | listener :: listeners =>
      if listener.maxFrameBytes = 0 ∨ listener.idleTimeoutSeconds = 0 then .error .invalidListenerLimit
      else if listener.protocol = .classic ∧ 511 < listener.maxFrameBytes then .error .classicFrameLimit
      else if listener.name ∈ names ∨ (listener.address, listener.port) ∈ addresses then
        .error .duplicateListener
      else
        validateListeners (listener.name :: names) ((listener.address, listener.port) :: addresses)
          listeners

namespace Config

/-- Validates cross-field limits and uniqueness before runtime construction. -/
def validate (config : Config) : Except ConfigError Unit :=
  if (trim config.server.name).isEmpty then .error .emptyServerName
  else if (trim config.server.productMessage).isEmpty ∨ ¬ Text.Unbroken config.server.productMessage then
    .error .invalidProductMessage
  else if (trim config.logging.level).isEmpty then .error .emptyLoggingLevel
  else if config.server.maxClients = 0 ∨ config.server.mailboxCapacity = 0 ∨
      config.server.windDeltaIntervalSeconds = 0 then .error .invalidServerLimit
  else if config.listeners.isEmpty then .error .noListeners
  else do
    validateListeners [] [] config.listeners
    if config.database.minConnections = 0 ∨ config.database.maxConnections = 0 ∨
        config.database.maxConnections < config.database.minConnections then
      throw .invalidDatabasePool

end Config

end Service

/-! ## The settings of a server -/

/-- Configuration for one explicitly selected protocol listener. -/
structure RuntimeListenerConfig where
  name : String
  address : String
  port : UInt16
  protocol : ProtocolDialect
  maxFrameBytes : Nat
  idleTimeoutSeconds : Nat

/-- Transport-level server configuration shared by all listeners. -/
structure RuntimeServerConfig where
  serverName : String
  serverVersion : String
  mailboxCapacity : Nat
  windDeltaIntervalSeconds : Nat
  listeners : List RuntimeListenerConfig

/-- What a connection task is told of its listener. -/
def RuntimeListenerConfig.listener (config : RuntimeListenerConfig) : ListenerConfig where
  protocol := config.protocol
  maxFrameBytes := config.maxFrameBytes

/-- What the tasks of a server are told of its configuration. -/
def RuntimeServerConfig.server (config : RuntimeServerConfig) : ServerConfig where
  serverName := config.serverName
  serverVersion := config.serverVersion
  mailboxCapacity := config.mailboxCapacity

/-- Server construction failures. -/
inductive ServerError where
  | invalidMailboxCapacity
  | noListeners
  | invalidInterval
  deriving DecidableEq, Repr

/-- A server that is not bound yet. -/
structure UnboundServer where
  config : RuntimeServerConfig
  network : CoreConfig

/-- Validates runtime limits and builds an unbound server. -/
def UnboundServer.new (config : RuntimeServerConfig) (network : CoreConfig) :
    Except ServerError UnboundServer :=
  if config.mailboxCapacity = 0 then .error .invalidMailboxCapacity
  else if config.listeners.isEmpty then .error .noListeners
  else if config.windDeltaIntervalSeconds = 0 ∨ config.listeners.any (·.idleTimeoutSeconds = 0) then
    .error .invalidInterval
  else .ok { config, network }

/-- What the tasks of the server are built with. -/
def UnboundServer.setup (server : UnboundServer) (json : SerdeJson) : Setup where
  core := server.network
  server := server.config.server
  json := json

namespace Service

def ListenerConfig.runtime (listener : ListenerConfig) : RuntimeListenerConfig where
  name := listener.name
  address := listener.address
  port := listener.port
  protocol := listener.protocol
  maxFrameBytes := listener.maxFrameBytes
  idleTimeoutSeconds := listener.idleTimeoutSeconds

namespace Config

/-- Converts file configuration into the transport server's owned settings. -/
def runtimeServerConfig (config : Config) : RuntimeServerConfig where
  serverName := config.server.name
  serverVersion := config.server.version
  mailboxCapacity := config.server.mailboxCapacity
  windDeltaIntervalSeconds := config.server.windDeltaIntervalSeconds
  listeners := config.listeners.map ListenerConfig.runtime

/-- Converts file configuration into shared network-core policy. -/
def runtimeCoreConfig (config : Config) : CoreConfig where
  maxClients := config.server.maxClients
  productMessage := config.server.productMessage
  motd := config.server.motd

end Config

/-! ## What validation guarantees -/

theorem validateListeners_ok {names : List String} {addresses : List (String × UInt16)}
    {listeners : List ListenerConfig} (valid : validateListeners names addresses listeners = .ok ()) :
    ∀ listener ∈ listeners, listener.maxFrameBytes ≠ 0 ∧ listener.idleTimeoutSeconds ≠ 0 := by
  induction listeners generalizing names addresses with
  | nil => exact List.forall_mem_nil _
  | cons listener listeners ih =>
      unfold validateListeners at valid
      split_ifs at valid with limit
      exact List.forall_mem_cons.mpr ⟨not_or.mp limit, ih valid⟩

namespace Config

/-- What a server relies on. -/
structure Valid (config : Config) : Prop where
  message : Text.Unbroken config.server.productMessage
  mailbox : config.server.mailboxCapacity ≠ 0
  interval : config.server.windDeltaIntervalSeconds ≠ 0
  listening : config.listeners ≠ []
  limits : ∀ listener ∈ config.listeners,
    listener.maxFrameBytes ≠ 0 ∧ listener.idleTimeoutSeconds ≠ 0

theorem validate_ok {config : Config} (valid : config.validate = .ok ()) : config.Valid := by
  unfold validate at valid
  split_ifs at valid with named message logged limits listening pool
  -- The pool is checked after the listeners.
  all_goals
    obtain ⟨checked, listeners, -⟩ := bind_ok.mp valid
    obtain ⟨-, unbroken⟩ := not_or.mp message
    obtain ⟨-, capacities⟩ := not_or.mp limits
    obtain ⟨mailbox, interval⟩ := not_or.mp capacities
    exact {
      message := not_not.mp unbroken
      mailbox := mailbox
      interval := interval
      listening := by simpa using listening
      limits := validateListeners_ok listeners }

/-- A server is built of a validated configuration. -/
theorem new_runtime {config : Config} (valid : config.Valid) :
    UnboundServer.new config.runtimeServerConfig config.runtimeCoreConfig =
      .ok ⟨config.runtimeServerConfig, config.runtimeCoreConfig⟩ := by
  have listening : ¬ config.runtimeServerConfig.listeners.isEmpty = true := by
    simpa [runtimeServerConfig] using valid.listening
  have waiting : ¬ config.runtimeServerConfig.listeners.any (·.idleTimeoutSeconds = 0) = true := by
    intro stalled
    obtain ⟨listener, member, stopped⟩ := List.any_eq_true.mp stalled
    obtain ⟨source, found, rfl⟩ := List.mem_map.mp member
    exact (valid.limits source found).2 (of_decide_eq_true stopped)
  have mailbox : ¬ config.runtimeServerConfig.mailboxCapacity = 0 := valid.mailbox
  have interval : ¬ config.runtimeServerConfig.windDeltaIntervalSeconds = 0 := valid.interval
  unfold UnboundServer.new
  rw [if_neg mailbox, if_neg listening, if_neg (not_or.mpr ⟨interval, waiting⟩)]

end Config

end Service

/-! ## The default configuration -/

namespace Sample

/-- The default configuration with these lines of the day. -/
def greeting (motd : List String) : Service.Config where
  server := { motd }

theorem greeting_valid (motd : List String) : (greeting motd).validate = .ok () := by
  have valid : (greeting []).validate = .ok () := by decide
  exact valid

/-- The server of the configuration. -/
def greetingServer (motd : List String) : UnboundServer :=
  ⟨(greeting motd).runtimeServerConfig, (greeting motd).runtimeCoreConfig⟩

def classicListener : RuntimeListenerConfig := ⟨"classic", "0.0.0.0", 6809, .classic, 511, 500⟩

end Sample

end AsterFsd
