import AsterFsd.Core.Change

/-! # What a step of a call can do

The sections of a call and the answers it receives, listed by outcome, and from them the change that
any step of the machine makes.
-/

namespace AsterFsd

/-- The commands that bring a connection into the network. -/
def Command.enters : Command → Bool
  | .identify _ => true
  | .login _ => true
  | _ => false

namespace Network

/-- Everything a section under the lock can do. Only the calls that bring a connection in close it with
    a refusal. -/
inductive Sectioned (config : CoreConfig) (state : NetworkState) (connectionId : ConnectionId) :
    Command → Stage → NetworkState → Stage → Prop where
  | refused {command : Command} {stage : Stage} {effects : Effects}
      (refusal : Refusal connectionId effects)
      (entry : effects.close = none ∨ command.enters = true ∨ stage ≠ .invoked) :
      Sectioned config state connectionId command stage state (.returning effects)
  | identifyRead {command : Identification} {session : Session}
      (found : state.sessions.lookup connectionId = some session)
      (fresh : session.phase = .connected) :
      Sectioned config state connectionId (.identify command) .invoked state
        (.authorizing command session.generation)
  | loginRead {command : LoginCommand} {session : Session}
      (found : state.sessions.lookup connectionId = some session)
      (admitted : LoginAdmitted state command session) :
      Sectioned config state connectionId (.login command) .invoked state
        (.authenticating command session.generation)
  | weatherRead {source : Callsign} {station : String} {parsed : Bool}
      {coordinates : Option (Float × Float)} :
      Sectioned config state connectionId (.weatherRequest source station parsed) .invoked state
        (.observing source station parsed coordinates)
  | executed {command : Command}
      (outcome : Executed state connectionId command (executeActive state connectionId command)) :
      Sectioned config state connectionId command .invoked
        (executeActive state connectionId command).1
        (.returning (executeActive state connectionId command).2)
  | identified {command : Command} {identification : Identification} {session : Session}
      (found : state.sessions.lookup connectionId = some session)
      (fresh : session.phase = .connected) :
      Sectioned config state connectionId command (.identifying identification session.generation)
        ((Change.identify connectionId identification).apply state) (.returning {})
  | activated {command : Command} {login : LoginCommand} {authenticated : AuthenticatedIdentity}
      {generation : Nat} {session : Session}
      (found : state.sessions.lookup connectionId = some session)
      (ready : LoginReady state login generation session) :
      Sectioned config state connectionId command (.activating login authenticated generation)
        ((Change.activate connectionId (loginPresence login authenticated)).apply state)
        (.returning (loginEffects config
          ((Change.activate connectionId (loginPresence login authenticated)).apply state)
          connectionId (loginPresence login authenticated)))

theorem weatherRequestCoordinates_cases (state : NetworkState) (connectionId : ConnectionId)
    (source : Callsign) :
    (∃ effects, weatherRequestCoordinates state connectionId source = .error effects ∧
        Refusal connectionId effects ∧ effects.close = none) ∨
      ∃ coordinates, weatherRequestCoordinates state connectionId source = .ok coordinates := by
  unfold weatherRequestCoordinates
  split
  · exact .inl ⟨_, rfl, .silence, rfl⟩
  · split
    · exact .inl ⟨_, rfl, .silence, rfl⟩
    · split
      · exact .inl ⟨_, rfl, .error .., rfl⟩
      · exact .inr ⟨_, rfl⟩

theorem lockSection_sectioned {config : CoreConfig} {state state' : NetworkState}
    {connectionId : ConnectionId} {command : Command} {stage stage' : Stage}
    (performed : lockSection config state connectionId command stage = some (state', stage')) :
    Sectioned config state connectionId command stage state' stage' := by
  cases stage with
  | invoked =>
      cases command with
      | identify command =>
          obtain ⟨effects, read, refusal⟩ | ⟨session, read, found, fresh⟩ :=
            identifyGeneration_cases state connectionId
          · simp only [lockSection, read, Option.some.injEq, Prod.mk.injEq] at performed
            obtain ⟨rfl, rfl⟩ := performed
            exact .refused refusal (.inr (.inl rfl))
          · simp only [lockSection, read, Option.some.injEq, Prod.mk.injEq] at performed
            obtain ⟨rfl, rfl⟩ := performed
            exact .identifyRead found fresh
      | login command =>
          obtain ⟨effects, read, refusal⟩ | ⟨session, read, found, admitted⟩ :=
            loginGeneration_cases state connectionId command
          · simp only [lockSection, read, Option.some.injEq, Prod.mk.injEq] at performed
            obtain ⟨rfl, rfl⟩ := performed
            exact .refused refusal (.inr (.inl rfl))
          · simp only [lockSection, read, Option.some.injEq, Prod.mk.injEq] at performed
            obtain ⟨rfl, rfl⟩ := performed
            exact .loginRead found admitted
      | weatherRequest source station parsed =>
          obtain ⟨effects, read, refusal, stays⟩ | ⟨coordinates, read⟩ :=
            weatherRequestCoordinates_cases state connectionId source
          · simp only [lockSection, read, Option.some.injEq, Prod.mk.injEq] at performed
            obtain ⟨rfl, rfl⟩ := performed
            exact .refused refusal (.inl stays)
          · simp only [lockSection, read, Option.some.injEq, Prod.mk.injEq] at performed
            obtain ⟨rfl, rfl⟩ := performed
            exact .weatherRead
      | _ =>
          simp only [lockSection, Option.some.injEq, Prod.mk.injEq] at performed
          obtain ⟨rfl, rfl⟩ := performed
          exact .executed (executeActive_executed state connectionId _)
  | identifying identification generation =>
      simp only [lockSection, Option.some.injEq, Prod.mk.injEq] at performed
      obtain ⟨rfl, rfl⟩ := performed
      obtain ⟨effects, commit, refusal⟩ | ⟨session, found, fresh, rfl, commit⟩ :=
        identifyCommit_cases state connectionId identification generation
      · rw [commit]
        exact .refused refusal (.inr (.inr (by simp)))
      · rw [commit]
        exact .identified found fresh
  | activating login authenticated generation =>
      simp only [lockSection, Option.some.injEq, Prod.mk.injEq] at performed
      obtain ⟨rfl, rfl⟩ := performed
      obtain ⟨effects, commit, refusal⟩ | ⟨session, found, ready, commit⟩ :=
        activateLogin_cases config state connectionId login authenticated generation
      · rw [commit]
        exact .refused refusal (.inr (.inr (by simp)))
      · rw [commit]
        exact .activated found ready
  | _ => cases performed

/-- Everything an answer can lead to. -/
inductive Answered (connectionId : ConnectionId) : Stage → Answer → Stage → Prop where
  | unauthorized {command : Identification} {generation : Nat} {answer : Answer}
      {effects : Effects} (refusal : Refusal connectionId effects) :
      Answered connectionId (.authorizing command generation) answer (.returning effects)
  | rejected {command : LoginCommand} {generation : Nat} {answer : Answer} {effects : Effects}
      (refusal : Refusal connectionId effects) :
      Answered connectionId (.authenticating command generation) answer (.returning effects)
  | authorized {command : Identification} {generation : Nat} :
      Answered connectionId (.authorizing command generation)
        (.authorized command.clientId (.ok ())) (.identifying command generation)
  | authenticated {command : LoginCommand} {generation : Nat} {identity : AuthenticatedIdentity}
      (authorized : Authorized command identity) :
      Answered connectionId (.authenticating command generation)
        (.authenticated command.networkId command.password (.ok identity))
        (.activating command identity generation)
  | observed {source : Callsign} {station : String} {parsed : Bool}
      {coordinates : Option (Float × Float)} {answer : Answer} {event : Event}
      (unannounced : event.announces = false) :
      Answered connectionId (.observing source station parsed coordinates) answer
        (.returning (send [connectionId] event))

theorem weatherAnswered_cases (connectionId : ConnectionId) (source : Callsign) (station : String)
    (parsed : Bool) (answer : Except WeatherProviderError (Option WeatherObservation)) :
    ∃ event, event.announces = false ∧
      weatherAnswered connectionId source station parsed answer = send [connectionId] event := by
  unfold weatherAnswered parsedWeatherEffect rawWeatherEffect noWeather errorEffect
  repeat' split
  all_goals exact ⟨_, rfl, rfl⟩

theorem answerStage_answered {connectionId : ConnectionId} {stage stage' : Stage} {answer : Answer}
    (received : answerStage connectionId stage answer = some stage') :
    Answered connectionId stage answer stage' := by
  unfold answerStage at received
  split at received
  · rename_i command generation clientId answer
    split at received
    · cases received
    · rename_i asked
      obtain rfl : clientId = command.clientId := not_not.mp asked
      obtain ⟨effects, refused, refusal⟩ | ⟨accepted, rfl⟩ :=
        identifyAnswered_cases connectionId command answer
      · simp only [refused, Option.some.injEq] at received
        subst received
        exact .unauthorized refusal
      · simp only [accepted, Option.some.injEq] at received
        subst received
        exact .authorized
  · rename_i command generation networkId password answer
    split at received
    · cases received
    · rename_i asked
      obtain ⟨rfl, rfl⟩ : networkId = command.networkId ∧ password = command.password := by tauto
      obtain ⟨effects, refused, refusal⟩ | ⟨identity, accepted, rfl, authorized⟩ :=
        loginAnswered_cases connectionId command answer
      · simp only [refused, Option.some.injEq] at received
        subst received
        exact .rejected refusal
      · simp only [accepted, Option.some.injEq] at received
        subst received
        exact .authenticated authorized
  · rename_i source station parsed coordinates lookup answer
    split at received
    · cases received
    · obtain ⟨event, unannounced, sent⟩ :=
        weatherAnswered_cases connectionId source station parsed answer
      simp only [sent, Option.some.injEq] at received
      subst received
      exact .observed unannounced
  · cases received

/-! ## The change of a step -/

/-- An allowed change with its announcements. -/
structure Makes (config : CoreConfig) (state state' : NetworkState) (effects : Effects)
    (change : Change) : Prop where
  allowed : change.Allowed config state
  apply_eq : state' = change.apply state
  announced : effects.announcements = change.announced state

/-- Which stage of a call of `connectionId` makes the change; no call registers a connection. -/
def SectionCauses (state : NetworkState) (connectionId : ConnectionId) (stage : Stage) :
    Change → Prop
  | .connect .. => False
  | .identify c command => c = connectionId ∧ ∃ generation, stage = .identifying command generation
  | .activate c presence =>
      c = connectionId ∧ ∃ command authenticated generation session,
        stage = .activating command authenticated generation ∧
        presence = loginPresence command authenticated ∧
        state.sessions.lookup connectionId = some session ∧
        LoginReady state command generation session
  | _ => True

theorem Makes.keep {config : CoreConfig} {state : NetworkState} {effects : Effects}
    (unannounced : effects.announcements = []) : Makes config state state effects .keep :=
  ⟨trivial, rfl, unannounced⟩

theorem announced_announces {state : NetworkState} {change : Change} {delivery : Delivery}
    (member : delivery ∈ change.announced state) : delivery.event.announces = true := by
  cases change with
  | activate connectionId presence =>
      simp only [Change.announced] at member
      split at member
      · cases member
      · rw [List.mem_singleton.mp member]
        rfl
  | remove connectionId =>
      simp only [Change.announced] at member
      split at member
      · cases member
      · split at member
        · cases member
        · rw [List.mem_singleton.mp member]
          rfl
  | keep | connect | identify | move | file => cases member

theorem filter_announced (state : NetworkState) (change : Change) :
    (change.announced state).filter (·.event.announces) = change.announced state :=
  List.filter_eq_self.mpr fun _ member => announced_announces member

theorem vatsimLoginProfile_unannounced (connectionId : ConnectionId) (peer : SocketAddr)
    (presence : ClientPresence) :
    (vatsimLoginProfile connectionId peer presence).filter (·.event.announces) = [] := by
  unfold vatsimLoginProfile
  split <;> split <;> rfl

theorem loginEffects_announcements (config : CoreConfig) (state : NetworkState)
    (connectionId : ConnectionId) (presence : ClientPresence) :
    (loginEffects config ((Change.activate connectionId presence).apply state) connectionId
        presence).announcements = (Change.activate connectionId presence).announced state := by
  have welcomed : ∀ lines : List String,
      ((lines.map fun line =>
        { recipients := [connectionId], event := .welcome presence.callsign line : Delivery }).filter
          (·.event.announces)) = [] := by
    intro lines
    simp [Event.announces]
  have announced := filter_announced state (.activate connectionId presence)
  unfold loginEffects Effects.announcements
  simp only [Change.announced] at announced ⊢
  split
  · simp only [List.filter_append, welcomed, List.append_nil, announced]
  · simp only [appendVatsimLoginProfile, List.filter_append, welcomed, List.append_nil, announced,
      vatsimLoginProfile_unannounced]

theorem loginEffects_close (config : CoreConfig) (state : NetworkState)
    (connectionId : ConnectionId) (presence : ClientPresence) :
    (loginEffects config state connectionId presence).close = none := by
  unfold loginEffects appendVatsimLoginProfile
  dsimp only
  split <;> rfl

theorem disconnectLocked_makes (config : CoreConfig) (state : NetworkState)
    (connectionId : ConnectionId) (reason : String) :
    ∃ change, (change = .keep ∨ change = .remove connectionId) ∧
      Makes config state (disconnectLocked state connectionId reason).1
        (disconnectLocked state connectionId reason).2 change := by
  cases found : state.sessions.lookup connectionId with
  | none =>
      rw [disconnectLocked_absent found]
      exact ⟨.keep, .inl rfl, .keep rfl⟩
  | some session =>
      rw [disconnectLocked_present found]
      exact ⟨.remove connectionId, .inr rfl, ⟨session, found⟩, rfl,
        filter_announced state (.remove connectionId)⟩

theorem killNotices_announcements (connectionId : ConnectionId) (callsign : Callsign)
    (targetId : ConnectionId) (target : Callsign) (reason : String) :
    (killNotices connectionId callsign targetId target reason).announcements = [] := rfl

theorem extend_announcements (effects other : Effects) :
    (effects.extend other).announcements = effects.announcements ++ other.announcements := by
  simp [Effects.announcements, Effects.extend]

theorem Executed.makes (config : CoreConfig) (stage : Stage) {state : NetworkState}
    {connectionId : ConnectionId} {command : Command} {result : NetworkState × Effects}
    (outcome : Executed state connectionId command result) :
    ∃ change, Makes config state result.1 result.2 change ∧
      SectionCauses state connectionId stage change := by
  cases outcome with
  | kept unannounced => exact ⟨.keep, .keep unannounced, trivial⟩
  | moved issuer own _ _ =>
      exact ⟨.move connectionId _, ⟨⟨_, _, issuer, own⟩, rfl, send_announcements rfl⟩, trivial⟩
  | filed issuer own =>
      exact ⟨.file connectionId _, ⟨⟨_, _, issuer, own⟩, rfl, send_announcements rfl⟩, trivial⟩
  | left issuer =>
      exact ⟨.remove connectionId,
        ⟨⟨_, issuer.1⟩, rfl, filter_announced state (.remove connectionId)⟩, trivial⟩
  | killed issuer online permitted =>
      obtain ⟨change, removal, made⟩ := disconnectLocked_makes config state _ _
      refine ⟨change, ⟨made.allowed, made.apply_eq, ?_⟩, ?_⟩
      · rw [extend_announcements, killNotices_announcements, List.nil_append, made.announced]
      · obtain rfl | rfl := removal <;> trivial

theorem identify_allowed (config : CoreConfig) {state : NetworkState} {connectionId : ConnectionId}
    {command : Identification} {session : Session}
    (found : state.sessions.lookup connectionId = some session)
    (fresh : session.phase = .connected) :
    (Change.identify connectionId command).Allowed config state := ⟨session, found, fresh⟩

theorem activate_allowed (config : CoreConfig) {state : NetworkState} {connectionId : ConnectionId}
    {command : LoginCommand} (authenticated : AuthenticatedIdentity) {generation : Nat}
    {session : Session} (found : state.sessions.lookup connectionId = some session)
    (ready : LoginReady state command generation session) :
    (Change.activate connectionId (loginPresence command authenticated)).Allowed config state :=
  ⟨ready.unused, session, found, ready.waiting⟩

theorem Sectioned.makes {config : CoreConfig} {state state' : NetworkState}
    {connectionId : ConnectionId} {command : Command} {stage stage' : Stage}
    (outcome : Sectioned config state connectionId command stage state' stage') :
    ∃ change, Makes config state state' stage'.effects change ∧
      SectionCauses state connectionId stage change := by
  cases outcome with
  | refused refusal => exact ⟨.keep, .keep refusal.announcements, trivial⟩
  | identifyRead | loginRead | weatherRead => exact ⟨.keep, .keep rfl, trivial⟩
  | executed outcome => exact outcome.makes config _
  | identified found fresh =>
      exact ⟨.identify connectionId _, ⟨identify_allowed config found fresh, rfl, rfl⟩, rfl, _, rfl⟩
  | activated found ready =>
      exact ⟨.activate connectionId _,
        ⟨activate_allowed config _ found ready, rfl, loginEffects_announcements ..⟩,
        rfl, _, _, _, _, rfl, rfl, found, ready⟩

theorem Answered.unannounced {connectionId : ConnectionId} {stage stage' : Stage} {answer : Answer}
    (outcome : Answered connectionId stage answer stage') : stage'.effects.announcements = [] := by
  cases outcome with
  | unauthorized refusal | rejected refusal => exact refusal.announcements
  | observed unannounced => exact send_announcements unannounced
  | authorized | authenticated => rfl

end Network

open Network in
/-- How the step from `w` to `w'` comes to make the change: only a connection that was never registered
    is registered, and only a call at its write phase identifies or activates. -/
def World.Causes (w w' : World) (action : Action) : Change → Prop
  | .connect c _ _ => c ∉ w.registered ∧ c ∈ w'.registered
  | .identify c command =>
      ∃ id call generation, action = .lock id ∧ w.calls.lookup id = some call ∧
        call.connectionId = c ∧ call.stage = .identifying command generation
  | .activate c presence =>
      ∃ id call command authenticated generation session, action = .lock id ∧
        w.calls.lookup id = some call ∧ call.connectionId = c ∧
        call.stage = .activating command authenticated generation ∧
        presence = loginPresence command authenticated ∧
        w.state.sessions.lookup c = some session ∧
        LoginReady w.state command generation session
  | _ => True

theorem World.Causes.fresh {w w' : World} {action : Action} {change : Change} {c : ConnectionId}
    (causes : w.Causes w' action change) (connects : change.connects = some c) :
    c ∉ w.registered ∧ c ∈ w'.registered := by
  cases change with
  | connect =>
      obtain rfl := Option.some.inj connects
      exact causes
  | _ => cases connects

open Network in
/-- Every step of the machine makes one change and announces exactly what the change calls for. -/
theorem World.step_makes {config : CoreConfig} {w w' : World} {action : Action}
    (step : w.step config action = some w') :
    ∃ change, Makes config w.state w'.state (w.committed config action) change ∧
      w.Causes w' action change := by
  cases action with
  | register c peer dialect =>
      obtain ⟨unregistered, rfl⟩ := World.step_register.mp step
      have quiet : w.committed config (.register c peer dialect) = {} := by
        simp [World.committed, World.perform, unregistered]
      rw [quiet]
      obtain kept | ⟨allowed, connected⟩ := register_cases config w.state c peer dialect
      · exact ⟨.keep, ⟨trivial, kept, rfl⟩, trivial⟩
      · exact ⟨.connect c peer dialect, ⟨allowed, connected, rfl⟩, unregistered, List.mem_cons_self⟩
  | call id c command =>
      obtain ⟨fresh, rfl⟩ := World.step_call.mp step
      refine ⟨.keep, .keep ?_, trivial⟩
      simp [World.committed, World.perform, fresh]
  | lock id =>
      obtain ⟨call, state, stage, found, performed, rfl⟩ := World.step_lock.mp step
      rw [World.committed_lock found performed]
      obtain ⟨change, made, causes⟩ := (lockSection_sectioned performed).makes
      refine ⟨change, made, ?_⟩
      cases change with
      | connect => exact causes.elim
      | identify =>
          obtain ⟨rfl, generation, stage⟩ := causes
          exact ⟨id, call, generation, rfl, found, rfl, stage⟩
      | activate =>
          obtain ⟨rfl, command, authenticated, generation, session, stage, same, stored, ready⟩ :=
            causes
          exact ⟨id, call, command, authenticated, generation, session, rfl, found, rfl, stage, same,
            stored, ready⟩
      | keep | move | file | remove => trivial
  | answered id answer =>
      obtain ⟨call, stage, found, received, rfl⟩ := World.step_answered.mp step
      rw [World.committed_answered found received]
      exact ⟨.keep, .keep (answerStage_answered received).unannounced, trivial⟩
  | ret id =>
      obtain ⟨c, command, effects, found, rfl⟩ := World.step_ret.mp step
      refine ⟨.keep, .keep ?_, trivial⟩
      simp [World.committed, World.perform, found]
  | disconnect c reason =>
      obtain rfl := World.step_disconnect.mp step
      obtain ⟨change, removal, made⟩ := disconnectLocked_makes config w.state c reason
      refine ⟨change, made, ?_⟩
      obtain rfl | rfl := removal <;> trivial
  | windDelta speed direction =>
      obtain rfl := World.step_windDelta.mp step
      exact ⟨.keep, .keep (send_announcements rfl), trivial⟩

open Network in
/-- Where a call in flight after a step comes from. -/
theorem World.step_calls {config : CoreConfig} {w w' : World} {action : Action}
    (step : w.step config action = some w') {id : CallId} {call : Call}
    (found : w'.calls.lookup id = some call) :
    w.calls.lookup id = some call ∨
      (∃ c command, action = .call id c command ∧ id = w.nextCall ∧ call = ⟨c, command, .invoked⟩) ∨
      (∃ before stage, action = .lock id ∧ w.calls.lookup id = some before ∧
        call = { before with stage } ∧
        lockSection config w.state before.connectionId before.command before.stage =
          some (w'.state, stage)) ∨
      (∃ before answer stage, action = .answered id answer ∧ w.calls.lookup id = some before ∧
        call = { before with stage } ∧
        Answered before.connectionId before.stage answer stage) := by
  cases action with
  | register =>
      obtain ⟨-, rfl⟩ := World.step_register.mp step
      exact .inl found
  | call id' c command =>
      obtain ⟨fresh, rfl⟩ := World.step_call.mp step
      by_cases here : id = id'
      · subst here
        simp only [AList.lookup_insert, Option.some.injEq] at found
        exact .inr (.inl ⟨c, command, rfl, fresh, found.symm⟩)
      · exact .inl ((AList.lookup_insert_ne here).symm.trans found)
  | lock id' =>
      obtain ⟨before, state, stage, stored, performed, rfl⟩ := World.step_lock.mp step
      by_cases here : id = id'
      · subst here
        simp only [advance, AList.lookup_insert, Option.some.injEq] at found
        exact .inr (.inr (.inl ⟨before, stage, rfl, stored, found.symm, performed⟩))
      · exact .inl ((AList.lookup_insert_ne here).symm.trans found)
  | answered id' answer =>
      obtain ⟨before, stage, stored, received, rfl⟩ := World.step_answered.mp step
      by_cases here : id = id'
      · subst here
        simp only [advance, AList.lookup_insert, Option.some.injEq] at found
        exact .inr (.inr (.inr ⟨before, answer, stage, rfl, stored, found.symm,
          answerStage_answered received⟩))
      · exact .inl ((AList.lookup_insert_ne here).symm.trans found)
  | ret id' =>
      obtain ⟨_, _, _, -, rfl⟩ := World.step_ret.mp step
      by_cases here : id = id'
      · subst here
        simp at found
      · exact .inl ((AList.lookup_erase_ne here).symm.trans found)
  | disconnect =>
      obtain rfl := World.step_disconnect.mp step
      exact .inl found
  | windDelta =>
      obtain rfl := World.step_windDelta.mp step
      exact .inl found

/-- The stage of a call carries the data of its command. -/
def Call.Fits (call : Call) : Prop :=
  match call.stage with
  | .authorizing command _ | .identifying command _ => call.command = .identify command
  | .authenticating command _ | .activating command _ _ => call.command = .login command
  | .observing source station parsed _ => call.command = .weatherRequest source station parsed
  | .invoked | .returning _ => True

theorem Network.Sectioned.fits {config : CoreConfig} {state state' : NetworkState} {c : ConnectionId}
    {command : Command} {stage stage' : Stage}
    (outcome : Sectioned config state c command stage state' stage') :
    Call.Fits ⟨c, command, stage'⟩ := by
  cases outcome with
  | identifyRead | loginRead | weatherRead => rfl
  | refused | executed | identified | activated => trivial

theorem Network.Answered.fits {c : ConnectionId} {command : Command} {stage stage' : Stage}
    {answer : Answer} (fits : Call.Fits ⟨c, command, stage⟩)
    (outcome : Answered c stage answer stage') : Call.Fits ⟨c, command, stage'⟩ := by
  cases outcome with
  | authorized | authenticated => exact fits
  | unauthorized | rejected | observed => trivial

theorem reachable_fits {config : CoreConfig} {w : World} (reach : (machine config).Reachable w)
    {id : CallId} {call : Call} (found : w.calls.lookup id = some call) : call.Fits := by
  have all : ∀ id call, w.calls.lookup id = some call → call.Fits := by
    refine reach.invariant (fun w => ∀ id call, w.calls.lookup id = some call → call.Fits)
      (by simp [machine]) ?_
    intro w action w' held step id call found
    obtain stored | ⟨c, command, rfl, -, rfl⟩ | ⟨before, stage, rfl, stored, rfl, performed⟩ |
      ⟨before, answer, stage, rfl, stored, rfl, outcome⟩ := World.step_calls step found
    · exact held id call stored
    · trivial
    · exact (Network.lockSection_sectioned performed).fits
    · exact outcome.fits (held id before stored)
  exact all id call found

/-! ## Registered connections -/

theorem World.step_registered {config : CoreConfig} {w w' : World} {action : Action}
    (step : w.step config action = some w') {c : ConnectionId} (known : c ∈ w.registered) :
    c ∈ w'.registered := by
  rw [World.step_registered_eq step]
  exact List.mem_append_right _ known

/-- Only a registration adds a session. -/
theorem World.step_sessions {config : CoreConfig} {w w' : World} {action : Action}
    (step : w.step config action = some w') (registers : action.registers = []) {c : ConnectionId}
    (stored : c ∈ w'.state.sessions) : c ∈ w.state.sessions := by
  obtain ⟨session, found⟩ := KeyedMap.exists_lookup stored
  obtain ⟨change, made, causes⟩ := World.step_makes step
  rw [made.apply_eq] at found
  obtain ⟨before, stored, -⟩ | ⟨connected, -⟩ := Change.lookup_apply found
  · exact KeyedMap.mem_of_lookup stored
  · obtain ⟨unknown, known⟩ := causes.fresh connected
    rw [World.step_registered_eq step, registers, List.nil_append] at known
    exact absurd known unknown

open Network in
/-- A session has the dialect under which its connection was registered. -/
theorem World.step_dialect {config : CoreConfig} {w w' : World} {action : Action}
    (step : w.step config action = some w') {c : ConnectionId} {session : Session}
    (found : w'.state.sessions.lookup c = some session) :
    (∃ before, w.state.sessions.lookup c = some before ∧ session.dialect = before.dialect) ∨
      ∃ peer, action = .register c peer session.dialect := by
  have kept : ∀ {change : Change}, change.connects ≠ some c →
      (change.apply w.state).sessions.lookup c = some session →
      ∃ before, w.state.sessions.lookup c = some before ∧ session.dialect = before.dialect := by
    intro change other found
    obtain ⟨before, stored, rfl | ⟨-, rfl⟩⟩ | ⟨connected, -⟩ := Change.lookup_apply found
    · exact ⟨_, stored, rfl⟩
    · exact ⟨before, stored, change.update_dialect before⟩
    · exact absurd connected other
  by_cases registers : ∃ id peer dialect, action = .register id peer dialect
  · obtain ⟨id, peer, dialect, rfl⟩ := registers
    obtain ⟨-, rfl⟩ := World.step_register.mp step
    obtain same | ⟨-, connected⟩ := register_cases config w.state id peer dialect
    · exact .inl ⟨session, same ▸ found, rfl⟩
    · have found : ((Change.connect id peer dialect).apply w.state).sessions.lookup c = some session :=
        connected ▸ found
      by_cases here : c = id
      · subst here
        obtain rfl := Option.some.inj ((AList.lookup_insert _).symm.trans found)
        exact .inr ⟨peer, rfl⟩
      · have other : (Change.connect id peer dialect).connects ≠ some c :=
          fun same => here (Option.some.inj same).symm
        exact .inl (kept other found)
  · obtain ⟨change, made, causes⟩ := World.step_makes step
    rw [made.apply_eq] at found
    refine .inl (kept (fun connected => ?_) found)
    obtain ⟨unknown, known⟩ := causes.fresh connected
    have none_ : action.registers = [] := by
      cases action with
      | register id peer dialect => exact absurd ⟨id, peer, dialect, rfl⟩ registers
      | _ => rfl
    rw [World.step_registered_eq step, none_, List.nil_append] at known
    exact unknown known

/-- A connection that was registered and has no session never has one again. -/
theorem World.step_gone {config : CoreConfig} {w w' : World} {action : Action}
    (step : w.step config action = some w') {c : ConnectionId} (known : c ∈ w.registered)
    (gone : w.state.sessions.lookup c = none) : w'.state.sessions.lookup c = none := by
  obtain ⟨change, made, causes⟩ := World.step_makes step
  rw [made.apply_eq]
  cases found : (change.apply w.state).sessions.lookup c with
  | none => rfl
  | some session =>
      obtain ⟨before, stored, -⟩ | ⟨connected, -⟩ := Change.lookup_apply found
      · simp [gone] at stored
      · exact absurd known (causes.fresh connected).1

theorem World.run_gone {config : CoreConfig} {w w' : World} {as : List Action}
    (ran : (machine config).run w as = some w') {c : ConnectionId} (known : c ∈ w.registered)
    (gone : w.state.sessions.lookup c = none) :
    c ∈ w'.registered ∧ w'.state.sessions.lookup c = none :=
  Machine.run_keeps (fun w => c ∈ w.registered ∧ w.state.sessions.lookup c = none)
    (fun _ _ _ held step =>
      ⟨World.step_registered step held.1, World.step_gone step held.1 held.2⟩)
    ⟨known, gone⟩ ran

/-- Every session belongs to a registered connection. -/
theorem reachable_registered {config : CoreConfig} {w : World}
    (reach : (machine config).Reachable w) {c : ConnectionId} {session : Session}
    (found : w.state.sessions.lookup c = some session) : c ∈ w.registered := by
  have all : ∀ c session, w.state.sessions.lookup c = some session → c ∈ w.registered := by
    refine reach.invariant
      (fun w => ∀ c session, w.state.sessions.lookup c = some session → c ∈ w.registered)
      (by simp [machine]) ?_
    intro w action w' held step c session found
    obtain ⟨change, made, causes⟩ := World.step_makes step
    rw [made.apply_eq] at found
    obtain ⟨before, stored, -⟩ | ⟨connected, -⟩ := Change.lookup_apply found
    · exact World.step_registered step (held c before stored)
    · exact (causes.fresh connected).2
  exact all c session found

end AsterFsd
