import AsterFsd.Core.Commands
import AsterFsd.Lib.Machine

/-! # Concurrent calls

Any number of calls of the network core run at once, and they interleave at the points where they
take the lock or wait for the authenticator or the weather provider. A call is the command it executes
and the stage it has reached; one action performs one section under the lock, delivers one answer, or
returns. A connection ID is registered at most once, as the server draws it from a counter.
-/

namespace AsterFsd

abbrev CallId := Nat

/-- How far a call of `execute` has come. -/
inductive Stage where
  | invoked
  | authorizing (command : Identification) (generation : Nat)
  | identifying (command : Identification) (generation : Nat)
  | authenticating (command : LoginCommand) (generation : Nat)
  | activating (command : LoginCommand) (authenticated : AuthenticatedIdentity) (generation : Nat)
  | observing (source : Callsign) (station : String) (parsed : Bool)
      (coordinates : Option (Float × Float))
  | returning (effects : Effects)
  deriving DecidableEq

/-- The effects a call holds once it is about to return. -/
def Stage.effects : Stage → Effects
  | .returning effects => effects
  | _ => {}

/-- A call of `execute` in flight. -/
structure Call where
  connectionId : ConnectionId
  command : Command
  stage : Stage
  deriving DecidableEq

/-- A question to the authenticator or the weather provider with the answer it got. -/
inductive Answer where
  | authorized (clientId : String) (answer : Except AuthError Unit)
  | authenticated (networkId password : String) (answer : Except AuthError AuthenticatedIdentity)
  | observed (lookup : WeatherLookup)
      (answer : Except WeatherProviderError (Option WeatherObservation))

/-- The network core with the calls in flight, and the connection IDs ever registered. -/
structure World where
  state : NetworkState := {}
  registered : List ConnectionId := []
  calls : KeyedMap CallId Call := ∅
  nextCall : CallId := 0

inductive Action where
  | register (connectionId : ConnectionId) (peer : SocketAddr) (dialect : ProtocolDialect)
  | call (id : CallId) (connectionId : ConnectionId) (command : Command)
  | lock (id : CallId)
  | answered (id : CallId) (answer : Answer)
  | ret (id : CallId)
  | disconnect (connectionId : ConnectionId) (reason : String)
  | windDelta (speed direction : Int32)

/-- The connection IDs the action registers. -/
def Action.registers : Action → List ConnectionId
  | .register connectionId _ _ => [connectionId]
  | _ => []

/-- The call that the action is about. -/
def Action.call? : Action → Option CallId
  | .call id _ _ | .lock id | .answered id _ | .ret id => some id
  | _ => none

namespace Network

/-- The section a call performs under the lock: the first lock of `execute`, or the write phase of
    `identify` or `login`. The other stages wait for an answer or are done. -/
def lockSection (config : CoreConfig) (state : NetworkState) (connectionId : ConnectionId)
    (command : Command) : Stage → Option (NetworkState × Stage)
  | .invoked =>
      match command with
      | .identify command =>
          match identifyGeneration state connectionId with
          | .error effects => some (state, .returning effects)
          | .ok generation => some (state, .authorizing command generation)
      | .login command =>
          match loginGeneration state connectionId command with
          | .error effects => some (state, .returning effects)
          | .ok generation => some (state, .authenticating command generation)
      | .weatherRequest source station parsed =>
          match weatherRequestCoordinates state connectionId source with
          | .error effects => some (state, .returning effects)
          | .ok coordinates => some (state, .observing source station parsed coordinates)
      | command =>
          let (state, effects) := executeActive state connectionId command
          some (state, .returning effects)
  | .identifying command generation =>
      let (state, effects) := identifyCommit state connectionId command generation
      some (state, .returning effects)
  | .activating command authenticated generation =>
      let (state, effects) := activateLogin config state connectionId command authenticated generation
      some (state, .returning effects)
  | _ => none

/-- A waiting call receives the answer to the question it asked. -/
def answerStage (connectionId : ConnectionId) : Stage → Answer → Option Stage
  | .authorizing command generation, .authorized clientId answer =>
      if clientId ≠ command.clientId then none
      else
        match identifyAnswered connectionId command answer with
        | .error effects => some (.returning effects)
        | .ok () => some (.identifying command generation)
  | .authenticating command generation, .authenticated networkId password answer =>
      if networkId ≠ command.networkId ∨ password ≠ command.password then none
      else
        match loginAnswered connectionId command answer with
        | .error effects => some (.returning effects)
        | .ok authenticated => some (.activating command authenticated generation)
  | .observing source station parsed coordinates, .observed lookup answer =>
      if lookup ≠ { station, coordinates } then none
      else some (.returning (weatherAnswered connectionId source station parsed answer))
  | _, _ => none

end Network

namespace World

/-- The call reaches another stage. -/
def advance (w : World) (id : CallId) (call : Call) (stage : Stage) : World :=
  { w with calls := w.calls.insert id { call with stage } }

/-- One action, with the effects it hands to the task that performs it. -/
def perform (config : CoreConfig) (w : World) : Action → Option (World × Effects)
  | .register connectionId peer dialect =>
      if connectionId ∈ w.registered then none
      else
        some ({ w with
          state := (Network.register config w.state connectionId peer dialect).1
          registered := connectionId :: w.registered }, {})
  | .call id connectionId command =>
      if id ≠ w.nextCall then none
      else
        some ({ w with
          calls := w.calls.insert id { connectionId, command, stage := .invoked }
          nextCall := id + 1 }, {})
  | .lock id =>
      match w.calls.lookup id with
      | none => none
      | some call =>
          match Network.lockSection config w.state call.connectionId call.command call.stage with
          | none => none
          | some (state, stage) => some ({ w.advance id call stage with state }, stage.effects)
  | .answered id answer =>
      match w.calls.lookup id with
      | none => none
      | some call =>
          match Network.answerStage call.connectionId call.stage answer with
          | none => none
          | some stage => some (w.advance id call stage, stage.effects)
  | .ret id =>
      match w.calls.lookup id with
      | some { stage := .returning _, .. } => some ({ w with calls := w.calls.erase id }, {})
      | _ => none
  | .disconnect connectionId reason =>
      let (state, effects) := Network.disconnect w.state connectionId reason
      some ({ w with state }, effects)
  | .windDelta speed direction => some (w, Network.broadcast w.state (.windDelta speed direction))

/-- The state after one action. -/
def step (config : CoreConfig) (w : World) (action : Action) : Option World :=
  (w.perform config action).map Prod.fst

/-- The effects that one action commits. -/
def committed (config : CoreConfig) (w : World) (action : Action) : Effects :=
  ((w.perform config action).map Prod.snd).getD {}

/-! ## One lemma for each action -/

variable {config : CoreConfig} {w w' : World}

theorem step_register {connectionId : ConnectionId} {peer : SocketAddr} {dialect : ProtocolDialect} :
    w.step config (.register connectionId peer dialect) = some w' ↔
      connectionId ∉ w.registered ∧
        w' = { w with
          state := (Network.register config w.state connectionId peer dialect).1
          registered := connectionId :: w.registered } := by
  simp only [step, perform]
  split <;> simp_all [eq_comm]

theorem step_call {id : CallId} {connectionId : ConnectionId} {command : Command} :
    w.step config (.call id connectionId command) = some w' ↔
      id = w.nextCall ∧
        w' = { w with
          calls := w.calls.insert id { connectionId, command, stage := .invoked }
          nextCall := id + 1 } := by
  simp only [step, perform]
  split <;> simp_all [eq_comm]

theorem step_lock {id : CallId} :
    w.step config (.lock id) = some w' ↔
      ∃ call state stage, w.calls.lookup id = some call ∧
        Network.lockSection config w.state call.connectionId call.command call.stage =
          some (state, stage) ∧
        w' = { w.advance id call stage with state } := by
  simp only [step, perform]
  cases w.calls.lookup id with
  | none => simp
  | some call =>
      cases performed : Network.lockSection config w.state call.connectionId call.command
          call.stage with
      | none => simp [performed]
      | some result => simp [performed, Prod.ext_iff, eq_comm]

theorem step_answered {id : CallId} {answer : Answer} :
    w.step config (.answered id answer) = some w' ↔
      ∃ call stage, w.calls.lookup id = some call ∧
        Network.answerStage call.connectionId call.stage answer = some stage ∧
        w' = w.advance id call stage := by
  simp only [step, perform]
  cases w.calls.lookup id with
  | none => simp
  | some call =>
      cases received : Network.answerStage call.connectionId call.stage answer with
      | none => simp [received]
      | some stage => simp [received, eq_comm]

theorem step_ret {id : CallId} :
    w.step config (.ret id) = some w' ↔
      ∃ connectionId command effects,
        w.calls.lookup id = some ⟨connectionId, command, .returning effects⟩ ∧
        w' = { w with calls := w.calls.erase id } := by
  simp only [step, perform]
  split
  · rename_i connectionId command effects found
    simp [found, eq_comm]
  · rename_i other
    simp only [Option.map_none, reduceCtorEq, false_iff, not_exists, not_and]
    intro connectionId command effects found
    exact absurd found (other connectionId command effects)

theorem step_disconnect {connectionId : ConnectionId} {reason : String} :
    w.step config (.disconnect connectionId reason) = some w' ↔
      w' = { w with state := (Network.disconnect w.state connectionId reason).1 } := by
  simp [step, perform, eq_comm]

theorem step_windDelta {speed direction : Int32} :
    w.step config (.windDelta speed direction) = some w' ↔ w' = w := by
  simp [step, perform, eq_comm]

/-- Only a registration registers a connection ID. -/
theorem step_registered_eq {action : Action} (step : w.step config action = some w') :
    w'.registered = action.registers ++ w.registered := by
  cases action with
  | register connectionId peer dialect =>
      obtain ⟨-, rfl⟩ := step_register.mp step
      rfl
  | call id connectionId command =>
      obtain ⟨-, rfl⟩ := step_call.mp step
      rfl
  | lock id =>
      obtain ⟨call, state, stage, -, -, rfl⟩ := step_lock.mp step
      rfl
  | answered id answer =>
      obtain ⟨call, stage, -, -, rfl⟩ := step_answered.mp step
      rfl
  | ret id =>
      obtain ⟨connectionId, command, effects, -, rfl⟩ := step_ret.mp step
      rfl
  | disconnect connectionId reason =>
      obtain rfl := step_disconnect.mp step
      rfl
  | windDelta speed direction =>
      obtain rfl := step_windDelta.mp step
      rfl

/-- Call numbers are drawn in order. -/
theorem step_nextCall_le {action : Action} (step : w.step config action = some w') :
    w.nextCall ≤ w'.nextCall := by
  cases action with
  | register connectionId peer dialect =>
      obtain ⟨-, rfl⟩ := step_register.mp step
      exact Nat.le_refl _
  | call id connectionId command =>
      obtain ⟨rfl, rfl⟩ := step_call.mp step
      exact Nat.le_succ _
  | lock id =>
      obtain ⟨call, state, stage, -, -, rfl⟩ := step_lock.mp step
      exact Nat.le_refl _
  | answered id answer =>
      obtain ⟨call, stage, -, -, rfl⟩ := step_answered.mp step
      exact Nat.le_refl _
  | ret id =>
      obtain ⟨connectionId, command, effects, -, rfl⟩ := step_ret.mp step
      exact Nat.le_refl _
  | disconnect connectionId reason =>
      obtain rfl := step_disconnect.mp step
      exact Nat.le_refl _
  | windDelta speed direction =>
      obtain rfl := step_windDelta.mp step
      exact Nat.le_refl _

/-- A step leaves the calls alone that its action is not about. -/
theorem step_lookup_ne {action : Action} (step : w.step config action = some w') {id : CallId}
    (other : action.call? ≠ some id) : w'.calls.lookup id = w.calls.lookup id := by
  have apart : ∀ id', action.call? = some id' → id ≠ id' := by
    rintro id' same rfl
    exact other same
  cases action with
  | register connectionId peer dialect =>
      obtain ⟨-, rfl⟩ := step_register.mp step
      rfl
  | call id' connectionId command =>
      obtain ⟨-, rfl⟩ := step_call.mp step
      exact AList.lookup_insert_ne (apart id' rfl)
  | lock id' =>
      obtain ⟨call, state, stage, -, -, rfl⟩ := step_lock.mp step
      exact AList.lookup_insert_ne (apart id' rfl)
  | answered id' answer =>
      obtain ⟨call, stage, -, -, rfl⟩ := step_answered.mp step
      exact AList.lookup_insert_ne (apart id' rfl)
  | ret id' =>
      obtain ⟨connectionId, command, effects, -, rfl⟩ := step_ret.mp step
      exact AList.lookup_erase_ne (apart id' rfl)
  | disconnect connectionId reason =>
      obtain rfl := step_disconnect.mp step
      rfl
  | windDelta speed direction =>
      obtain rfl := step_windDelta.mp step
      rfl

theorem committed_lock {id : CallId} {call : Call} {state : NetworkState} {stage : Stage}
    (found : w.calls.lookup id = some call)
    (performed : Network.lockSection config w.state call.connectionId call.command call.stage =
      some (state, stage)) : committed config w (.lock id) = stage.effects := by
  simp [committed, perform, found, performed]

theorem committed_answered {id : CallId} {answer : Answer} {call : Call} {stage : Stage}
    (found : w.calls.lookup id = some call)
    (received : Network.answerStage call.connectionId call.stage answer = some stage) :
    committed config w (.answered id answer) = stage.effects := by
  simp [committed, perform, found, received]

end World

/-- The core with its concurrent callers. -/
def machine (config : CoreConfig) : Machine World Action where
  init := {}
  step := World.step config

end AsterFsd
