import AsterFsd.Core.Steps

/-! # Verdicts on credentials

Four error codes say what became of someone's credentials. They are told on an answer of the
authenticator and at no other time, and what they say is what the answer says.
-/

namespace AsterFsd

/-- The code is about credentials. -/
def ErrorCode.judges : ErrorCode → Bool
  | .unauthorizedClient => true
  | .invalidCredentials => true
  | .suspended => true
  | .requestedLevelTooHigh => true
  | _ => false

/-- The verdict that the event tells. -/
def Event.verdict : Event → Option ErrorCode
  | .error _ code _ _ => if code.judges then some code else none
  | _ => none

/-- The verdicts that the effects tell. -/
def Effects.verdicts (effects : Effects) : List ErrorCode :=
  effects.deliveries.filterMap (·.event.verdict)

/-- What a section under the lock may send: no verdict, no weather, and no position that is not valid. -/
def Event.Plain : Event → Prop
  | .error _ code _ _ => code.judges = false
  | .position update => update.validate = .ok ()
  | .weatherReport .. | .weatherProfile .. => False
  | _ => True

structure Effects.Plain (effects : Effects) : Prop where
  events : ∀ delivery ∈ effects.deliveries, delivery.event.Plain

theorem Event.Plain.verdict {event : Event} (plain : event.Plain) : event.verdict = none := by
  cases event with
  | error callsign code => simpa [Event.verdict, Event.Plain] using plain
  | _ => rfl

theorem Effects.Plain.verdicts {effects : Effects} (plain : effects.Plain) : effects.verdicts = [] :=
  List.filterMap_eq_nil_iff.mpr fun delivery member =>
    (plain.events delivery member).verdict

theorem Effects.Plain.extend {effects other : Effects} (plain : effects.Plain)
    (plain' : other.Plain) : (effects.extend other).Plain where
  events delivery member :=
    (List.mem_append.mp member).elim (plain.events delivery) (plain'.events delivery)

namespace Network

@[simp] theorem empty_verdicts : ({} : Effects).verdicts = [] := rfl

theorem empty_plain : ({} : Effects).Plain := ⟨List.forall_mem_nil _⟩

theorem send_plain {recipients : List ConnectionId} {event : Event} (plain : event.Plain) :
    (send recipients event).Plain := by
  refine ⟨?_⟩
  rw [send_deliveries]
  split
  · exact List.forall_mem_nil _
  · exact List.forall_mem_singleton.mpr plain

theorem errorEffect_plain {connectionId : ConnectionId} {callsign : Option Callsign}
    {code : ErrorCode} {environment : String} (neutral : code.judges = false) :
    (errorEffect connectionId callsign code environment).Plain := send_plain neutral

theorem errorAndClose_plain {connectionId : ConnectionId} {callsign : Option Callsign}
    {code : ErrorCode} {environment : String} (neutral : code.judges = false) :
    (errorAndClose connectionId callsign code environment).Plain where
  events := (errorEffect_plain neutral).events

theorem send_verdicts {recipients : List ConnectionId} {event : Event}
    (neutral : event.verdict = none) : (send recipients event).verdicts = [] := by
  rw [Effects.verdicts, send_deliveries]
  split
  · rfl
  · simp [neutral]

@[simp] theorem errorEffect_verdicts (connectionId : ConnectionId) (callsign : Option Callsign)
    (code : ErrorCode) (environment : String) :
    (errorEffect connectionId callsign code environment).verdicts =
      if code.judges then [code] else [] := by
  cases judges : code.judges <;>
    simp [Effects.verdicts, errorEffect, send_deliveries, Event.verdict, judges]

@[simp] theorem errorAndClose_verdicts (connectionId : ConnectionId) (callsign : Option Callsign)
    (code : ErrorCode) (environment : String) :
    (errorAndClose connectionId callsign code environment).verdicts =
      if code.judges then [code] else [] := errorEffect_verdicts connectionId callsign code environment

/-! ## Commands -/

theorem disconnectLocked_plain (state : NetworkState) (connectionId : ConnectionId)
    (reason : String) : (disconnectLocked state connectionId reason).2.Plain := by
  unfold disconnectLocked
  dsimp only
  split
  · exact ⟨List.forall_mem_nil _⟩
  · split
    · exact ⟨List.forall_mem_nil _⟩
    · split
      · exact ⟨List.forall_mem_nil _⟩
      · exact ⟨List.forall_mem_singleton.mpr trivial⟩

private theorem handleStateCommand_plain (state : NetworkState) (connectionId : ConnectionId)
    (callsign : Callsign) (clientType : ClientType) (command : Command) :
    (handleStateCommand state connectionId callsign clientType command).2.Plain := by
  unfold handleStateCommand
  split
  · exact disconnectLocked_plain ..
  · split
    · exact errorEffect_plain rfl
    · rename_i valid
      split
      · exact errorEffect_plain rfl
      · split
        · exact empty_plain
        · exact send_plain valid
  · split
    · exact empty_plain
    · exact send_plain trivial
  · exact empty_plain

private theorem handleQuery_plain (state : NetworkState) (connectionId : ConnectionId)
    (source : Callsign) (destination : Destination) (kind : QueryKind) (arguments : List String) :
    (handleQuery state connectionId source destination kind arguments).Plain := by
  unfold handleQuery flightPlanQuery
  split
  · exact send_plain trivial
  · cases kind with
    | flightPlan =>
        dsimp only
        split
        · exact errorEffect_plain rfl
        · split
          · exact errorEffect_plain rfl
          · split
            · exact errorEffect_plain rfl
            · exact send_plain trivial
    | _ => exact empty_plain

private theorem handleRoutedCommand_plain (state : NetworkState) (connectionId : ConnectionId)
    (command : Command) : (handleRoutedCommand state connectionId command).Plain := by
  unfold handleRoutedCommand
  cases command with
  | text | response | pong | handoff | clientData => exact send_plain trivial
  | _ => exact empty_plain

private theorem handleKill_plain (state : NetworkState) (connectionId : ConnectionId)
    (callsign : Callsign) (rating : Int32) (target : Callsign) (reason : String) :
    (handleKill state connectionId callsign rating target reason).2.Plain := by
  unfold handleKill
  split
  · exact errorEffect_plain rfl
  · split
    · dsimp only
      exact send_plain trivial
    · dsimp only
      exact .extend (.extend (send_plain (by trivial)) (send_plain (by trivial)))
        (disconnectLocked_plain ..)

theorem executeActive_plain (state : NetworkState) (connectionId : ConnectionId)
    (command : Command) : (executeActive state connectionId command).2.Plain := by
  unfold executeActive
  split
  · exact empty_plain
  · split
    · exact empty_plain
    · split
      · exact empty_plain
      · split
        · exact errorEffect_plain rfl
        · cases command with
          | logoff | position | flightPlan => exact handleStateCommand_plain ..
          | query => exact handleQuery_plain ..
          | ping =>
              simp only [handleCommand, handlePing]
              split <;> exact send_plain trivial
          | text | response | pong | handoff | clientData =>
              simp only [handleCommand]
              exact handleRoutedCommand_plain ..
          | kill => exact handleKill_plain ..
          | noop | identify | login | weatherRequest => exact empty_plain

/-! ## Sections and answers -/

private theorem vatsimLoginProfile_plain (connectionId : ConnectionId) (peer : SocketAddr)
    (presence : ClientPresence) :
    ∀ delivery ∈ vatsimLoginProfile connectionId peer presence, delivery.event.Plain := by
  unfold vatsimLoginProfile
  split <;> split <;> simp [Event.Plain, ErrorCode.judges]

private theorem loginEffects_plain (config : CoreConfig) (state : NetworkState)
    (connectionId : ConnectionId) (presence : ClientPresence) :
    (loginEffects config state connectionId presence).Plain := by
  have announced : ∀ peers : List ConnectionId, ∀ delivery ∈
      (if peers.isEmpty then [] else
        [{ recipients := peers, event := .clientAdded presence : Delivery }]),
      delivery.event.Plain := by
    intro peers
    split <;> simp [Event.Plain]
  have welcomed : ∀ lines : List String, ∀ delivery ∈
      (lines.map fun line =>
        { recipients := [connectionId], event := .welcome presence.callsign line : Delivery }),
      delivery.event.Plain := by
    intro lines
    simp [Event.Plain]
  refine ⟨?_⟩
  unfold loginEffects
  dsimp only
  split
  · exact List.forall_mem_append.mpr ⟨announced _, welcomed _⟩
  · exact List.forall_mem_append.mpr ⟨List.forall_mem_append.mpr ⟨announced _, welcomed _⟩,
      vatsimLoginProfile_plain connectionId _ presence⟩

private theorem identifyCommit_plain (state : NetworkState) (connectionId : ConnectionId)
    (command : Identification) (generation : Nat) :
    (identifyCommit state connectionId command generation).2.Plain := by
  unfold identifyCommit
  split
  · exact empty_plain
  · split
    · exact errorEffect_plain rfl
    · exact empty_plain

private theorem activateLogin_plain (config : CoreConfig) (state : NetworkState)
    (connectionId : ConnectionId) (command : LoginCommand) (authenticated : AuthenticatedIdentity)
    (generation : Nat) :
    (activateLogin config state connectionId command authenticated generation).2.Plain := by
  unfold activateLogin
  split
  · exact errorAndClose_plain rfl
  · split
    · exact empty_plain
    · split
      · exact errorEffect_plain rfl
      · split
        · exact errorAndClose_plain rfl
        · exact loginEffects_plain ..

private theorem identifyGeneration_plain {state : NetworkState} {connectionId : ConnectionId}
    {effects : Effects} (refused : identifyGeneration state connectionId = .error effects) :
    effects.Plain := by
  unfold identifyGeneration at refused
  split at refused
  · cases refused
    exact empty_plain
  · split at refused
    · cases refused
      exact errorEffect_plain rfl
    · cases refused

private theorem loginGeneration_plain {state : NetworkState} {connectionId : ConnectionId}
    {command : LoginCommand} {effects : Effects}
    (refused : loginGeneration state connectionId command = .error effects) :
    effects.Plain := by
  unfold loginGeneration at refused
  split at refused
  · cases refused
    exact empty_plain
  · split at refused
    · cases refused
      exact errorEffect_plain rfl
    · split at refused
      · cases refused
        exact errorAndClose_plain rfl
      · split at refused
        · cases refused
          exact errorAndClose_plain rfl
        · split at refused
          · cases refused
            exact errorAndClose_plain rfl
          · cases refused

private theorem weatherRequestCoordinates_plain {state : NetworkState}
    {connectionId : ConnectionId} {source : Callsign} {effects : Effects}
    (refused : weatherRequestCoordinates state connectionId source = .error effects) :
    effects.Plain := by
  unfold weatherRequestCoordinates at refused
  split at refused
  · cases refused
    exact empty_plain
  · split at refused
    · cases refused
      exact empty_plain
    · split at refused
      · cases refused
        exact errorEffect_plain rfl
      · cases refused

/-- What a section under the lock sends is plain. -/
theorem lockSection_plain {config : CoreConfig} {state state' : NetworkState}
    {connectionId : ConnectionId} {command : Command} {stage stage' : Stage}
    (performed : lockSection config state connectionId command stage = some (state', stage')) :
    stage'.effects.Plain := by
  cases stage with
  | invoked =>
      cases command with
      | identify command =>
          simp only [lockSection] at performed
          split at performed
          · rename_i refused
            cases performed
            exact identifyGeneration_plain refused
          · cases performed
            exact empty_plain
      | login command =>
          simp only [lockSection] at performed
          split at performed
          · rename_i refused
            cases performed
            exact loginGeneration_plain refused
          · cases performed
            exact empty_plain
      | weatherRequest source station parsed =>
          simp only [lockSection] at performed
          split at performed
          · rename_i refused
            cases performed
            exact weatherRequestCoordinates_plain refused
          · cases performed
            exact empty_plain
      | _ =>
          simp only [lockSection, Option.some.injEq, Prod.mk.injEq] at performed
          obtain ⟨-, rfl⟩ := performed
          exact executeActive_plain ..
  | identifying =>
      simp only [lockSection, Option.some.injEq, Prod.mk.injEq] at performed
      obtain ⟨-, rfl⟩ := performed
      exact identifyCommit_plain ..
  | activating =>
      simp only [lockSection, Option.some.injEq, Prod.mk.injEq] at performed
      obtain ⟨-, rfl⟩ := performed
      exact activateLogin_plain ..
  | _ => cases performed

private theorem weatherAnswered_verdicts (connectionId : ConnectionId) (source : Callsign)
    (station : String) (parsed : Bool)
    (answer : Except WeatherProviderError (Option WeatherObservation)) :
    (weatherAnswered connectionId source station parsed answer).verdicts = [] := by
  unfold weatherAnswered parsedWeatherEffect rawWeatherEffect noWeather
  repeat' split
  all_goals first | exact errorEffect_verdicts .. | exact send_verdicts rfl

/-- A verdict and the answer it is about. -/
inductive Judged : Stage → Answer → ErrorCode → Prop where
  | unauthorized {command : Identification} {generation : Nat} {error : AuthError} :
      Judged (.authorizing command generation) (.authorized command.clientId (.error error))
        .unauthorizedClient
  | unauthenticated {command : LoginCommand} {generation : Nat} {error : AuthError} :
      Judged (.authenticating command generation)
        (.authenticated command.networkId command.password (.error error))
        (if error = .suspended then .suspended else .invalidCredentials)
  | suspended {command : LoginCommand} {generation : Nat} {identity : AuthenticatedIdentity}
      (barred : identity.suspended = true ∨ identityIsActive command identity = false) :
      Judged (.authenticating command generation)
        (.authenticated command.networkId command.password (.ok identity)) .suspended
  | tooHigh {command : LoginCommand} {generation : Nat} {identity : AuthenticatedIdentity}
      (unsuspended : identity.suspended = false) (rated : identityIsActive command identity = true)
      (beyond : ratingIsAuthorized command identity = false) :
      Judged (.authenticating command generation)
        (.authenticated command.networkId command.password (.ok identity)) .requestedLevelTooHigh

/-- A verdict after an answer is on that answer. -/
theorem answerStage_verdicts {connectionId : ConnectionId} {stage stage' : Stage} {answer : Answer}
    (received : answerStage connectionId stage answer = some stage') {code : ErrorCode}
    (told : code ∈ stage'.effects.verdicts) : Judged stage answer code := by
  unfold answerStage at received
  split at received
  · split at received
    · cases received
    · rename_i asked
      obtain rfl := not_not.mp asked
      split at received
      · rename_i refused
        cases received
        unfold identifyAnswered at refused
        split at refused
        · cases refused
          simp only [Stage.effects, errorAndClose_verdicts] at told
          obtain rfl := List.mem_singleton.mp told
          exact .unauthorized
        · cases refused
      · cases received
        cases told
  · rename_i command generation networkId password answer
    split at received
    · cases received
    · rename_i asked
      obtain ⟨rfl, rfl⟩ : networkId = command.networkId ∧ password = command.password := by tauto
      split at received
      · rename_i refused
        cases received
        unfold loginAnswered at refused
        split at refused
        · cases refused
          simp only [Stage.effects, errorAndClose_verdicts] at told
          obtain rfl := List.mem_singleton.mp told
          exact .unauthenticated
        · rename_i error other
          cases refused
          simp only [Stage.effects, errorAndClose_verdicts] at told
          obtain rfl := List.mem_singleton.mp told
          have judged : Judged (.authenticating command generation)
              (.authenticated command.networkId command.password (.error error))
              (if error = .suspended then .suspended else .invalidCredentials) := .unauthenticated
          rwa [if_neg other] at judged
        · split at refused
          · rename_i invalid
            cases refused
            unfold validateRating at invalid
            split at invalid
            · rename_i barred
              cases invalid
              simp only [Stage.effects, errorAndClose_verdicts] at told
              obtain rfl := List.mem_singleton.mp told
              refine .suspended ?_
              simpa using barred
            · rename_i admitted
              split at invalid
              · rename_i beyond
                cases invalid
                simp only [Stage.effects, errorAndClose_verdicts] at told
                obtain rfl := List.mem_singleton.mp told
                simp only [Bool.not_eq_true, Bool.or_eq_false_iff, Bool.not_eq_false'] at admitted
                exact .tooHigh admitted.1 admitted.2 (by simpa using beyond)
              · cases invalid
          · cases refused
      · cases received
        cases told
  · split at received
    · cases received
    · cases received
      rw [Stage.effects, weatherAnswered_verdicts] at told
      cases told
  · cases received

end Network

/-- Nothing but an answer of the authenticator tells a verdict. -/
theorem World.step_verdicts {config : CoreConfig} {w w' : World} {action : Action}
    (step : w.step config action = some w') {code : ErrorCode}
    (told : code ∈ (w.committed config action).verdicts) :
    ∃ id call answer, action = .answered id answer ∧ w.calls.lookup id = some call ∧
      Network.Judged call.stage answer code := by
  cases action with
  | register =>
      simp only [committed, perform] at told
      split at told <;> cases told
  | call =>
      simp only [committed, perform] at told
      split at told <;> cases told
  | lock id =>
      obtain ⟨call, state, stage, found, performed, -⟩ := World.step_lock.mp step
      rw [World.committed_lock found performed, (Network.lockSection_plain performed).verdicts] at told
      cases told
  | answered id answer =>
      obtain ⟨call, stage, found, received, -⟩ := World.step_answered.mp step
      rw [World.committed_answered found received] at told
      exact ⟨id, call, answer, rfl, found, Network.answerStage_verdicts received told⟩
  | ret id =>
      obtain ⟨c, command, effects, found, -⟩ := World.step_ret.mp step
      simp [committed, perform, found] at told
  | disconnect c reason =>
      have none_ : (w.committed config (.disconnect c reason)).verdicts = [] :=
        (Network.disconnectLocked_plain w.state c reason).verdicts
      rw [none_] at told
      cases told
  | windDelta speed direction =>
      have none_ : (w.committed config (.windDelta speed direction)).verdicts = [] :=
        Network.send_verdicts rfl
      rw [none_] at told
      cases told

end AsterFsd
