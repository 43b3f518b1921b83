import AsterFsd.Core.Framing

/-! # Calls as single steps

`identify`, `login` and `weather_request` give up the lock while they wait for an answer. As long as a
connection runs one call at a time and is not disconnected under it, that cannot be told from a core
that executes every call in one step: a refusal that rests on the first look at the state, or on the
answer, takes effect at that first look; a commit takes effect at the write phase, where the checks of
the first look still hold because nobody else touches a session that is not active.
-/

namespace AsterFsd

/-! ## The atomic core -/

/-- What the authenticator and the weather provider answer to a call, should it ask them. -/
structure Answers where
  authorized : Except AuthError Unit
  authenticated : Except AuthError AuthenticatedIdentity
  observed : Except WeatherProviderError (Option WeatherObservation)

/-- An answer that a call received is the one given for it. -/
def Answers.Agrees (answers : Answers) : Answer → Prop
  | .authorized _ answer => answer = answers.authorized
  | .authenticated _ _ answer => answer = answers.authenticated
  | .observed _ answer => answer = answers.observed

namespace Network

def atomicIdentify (state : NetworkState) (connectionId : ConnectionId) (command : Identification)
    (answer : Except AuthError Unit) : NetworkState × Effects :=
  match identifyGeneration state connectionId with
  | .error effects => (state, effects)
  | .ok generation =>
      match identifyAnswered connectionId command answer with
      | .error effects => (state, effects)
      | .ok () => identifyCommit state connectionId command generation

/-- All checks of a login (phase, identification, revision, callsign, credentials, rating, matching
    identification) and the activation. -/
def atomicLogin (config : CoreConfig) (state : NetworkState) (connectionId : ConnectionId)
    (command : LoginCommand) (answer : Except AuthError AuthenticatedIdentity) :
    NetworkState × Effects :=
  match loginGeneration state connectionId command with
  | .error effects => (state, effects)
  | .ok generation =>
      match loginAnswered connectionId command answer with
      | .error effects => (state, effects)
      | .ok authenticated =>
          activateLogin config state connectionId command authenticated generation

def atomicWeather (state : NetworkState) (connectionId : ConnectionId) (source : Callsign)
    (station : String) (parsed : Bool)
    (answer : Except WeatherProviderError (Option WeatherObservation)) : NetworkState × Effects :=
  match weatherRequestCoordinates state connectionId source with
  | .error effects => (state, effects)
  | .ok _ => (state, weatherAnswered connectionId source station parsed answer)

/-- `execute` in one step, with the answers it would get. -/
def atomicExecute (config : CoreConfig) (state : NetworkState) (connectionId : ConnectionId)
    (command : Command) (answers : Answers) : NetworkState × Effects :=
  match command with
  | .identify command => atomicIdentify state connectionId command answers.authorized
  | .login command => atomicLogin config state connectionId command answers.authenticated
  | .weatherRequest source station parsed =>
      atomicWeather state connectionId source station parsed answers.observed
  | command => executeActive state connectionId command

end Network

/-- One action of the atomic core: a call executes in one step and never waits. -/
def World.atomicStep (config : CoreConfig) (oracle : CallId → Answers) (w : World) :
    Action → Option World
  | .lock id =>
      match w.calls.lookup id with
      | some { connectionId, command, stage := .invoked } =>
          let (state, effects) :=
            Network.atomicExecute config w.state connectionId command (oracle id)
          some { w.advance id { connectionId, command, stage := .invoked } (.returning effects) with
            state }
      | _ => none
  | .answered .. => none
  | action => w.step config action

def atomicMachine (config : CoreConfig) (oracle : CallId → Answers) : Machine World Action where
  init := {}
  step := World.atomicStep config oracle

/-! ## What callers see -/

inductive Observation where
  | registered (connectionId : ConnectionId) (result : Except RegisterError Unit)
  | called (id : CallId) (connectionId : ConnectionId) (command : Command)
  | returned (id : CallId) (effects : Effects)
  | disconnected (connectionId : ConnectionId) (effects : Effects)
  | broadcast (effects : Effects)

/-- The sections of a call and the answers it gets are internal; everything else is seen, with its
    result. -/
def observe (config : CoreConfig) (w : World) : Action → List Observation
  | .register connectionId peer dialect =>
      [.registered connectionId (Network.register config w.state connectionId peer dialect).2]
  | .call id connectionId command => [.called id connectionId command]
  | .lock _ | .answered .. => []
  | .ret id => (w.calls.lookup id).toList.map fun call => .returned id call.stage.effects
  | .disconnect connectionId reason =>
      [.disconnected connectionId (Network.disconnect w.state connectionId reason).2]
  | .windDelta speed direction =>
      [.broadcast (Network.broadcast w.state (.windDelta speed direction))]

/-- No call of this connection is in flight. -/
def World.idle (w : World) (c : ConnectionId) : Bool :=
  w.calls.values.all fun call => call.connectionId ≠ c

theorem World.idle_iff {w : World} {c : ConnectionId} :
    w.idle c = true ↔ ∀ id call, w.calls.lookup id = some call → call.connectionId ≠ c := by
  simp only [World.idle, List.all_eq_true, KeyedMap.mem_values_iff, decide_eq_true_eq]
  exact ⟨fun all id call found => all call ⟨id, found⟩,
    fun all call ⟨id, found⟩ => all id call found⟩

/-- A connection calls and disconnects only while no call of its own is in flight. -/
def Disciplined (w : World) : Action → Prop
  | .call _ c _ | .disconnect c _ => w.idle c = true
  | _ => True

instance (w : World) : (action : Action) → Decidable (Disciplined w action)
  | .call _ c _ | .disconnect c _ => inferInstanceAs (Decidable (w.idle c = true))
  | .register .. | .lock _ | .answered .. | .ret _ | .windDelta .. => .isTrue trivial

open Network

variable {config : CoreConfig} {oracle : CallId → Answers} {w v w' : World} {id : CallId}
  {c : ConnectionId} {state : NetworkState} {answers : Answers}

/-! ## The simulation -/

/-- The stage that a call has in the atomic core: it has returned as soon as its refusal, or its weather
    report, is determined, and has not started as long as it may still commit. -/
def settled (answers : Answers) (connectionId : ConnectionId) : Stage → Stage
  | .authorizing command _ =>
      match identifyAnswered connectionId command answers.authorized with
      | .error effects => .returning effects
      | .ok () => .invoked
  | .authenticating command _ =>
      match loginAnswered connectionId command answers.authenticated with
      | .error effects => .returning effects
      | .ok _ => .invoked
  | .observing source station parsed _ =>
      .returning (weatherAnswered connectionId source station parsed answers.observed)
  | .invoked | .identifying .. | .activating .. => .invoked
  | .returning effects => .returning effects

def settle (answers : Answers) (call : Call) : Call :=
  { call with stage := settled answers call.connectionId call.stage }

/-- The session a call between its phases found, as it still is. -/
def Pending (answers : Answers) (state : NetworkState) (call : Call) : Prop :=
  match call.stage with
  | .authorizing _ generation =>
      ∃ session, state.sessions.lookup call.connectionId = some session ∧
        session.phase = .connected ∧ session.generation = generation
  | .identifying command generation =>
      identifyAnswered call.connectionId command answers.authorized = .ok () ∧
        ∃ session, state.sessions.lookup call.connectionId = some session ∧
          session.phase = .connected ∧ session.generation = generation
  | .authenticating command generation =>
      ∃ session, state.sessions.lookup call.connectionId = some session ∧
        session.generation = generation ∧ LoginAwaited command session
  | .activating command authenticated generation =>
      loginAnswered call.connectionId command answers.authenticated = .ok authenticated ∧
        ∃ session, state.sessions.lookup call.connectionId = some session ∧
          session.generation = generation ∧ LoginAwaited command session
  | _ => True

theorem Pending.kept {state' : NetworkState} {call : Call} (pending : Pending answers state call)
    (kept : ∀ session, state.sessions.lookup call.connectionId = some session →
      session.phase ≠ .active → state'.sessions.lookup call.connectionId = some session) :
    Pending answers state' call := by
  obtain ⟨connectionId, command, stage⟩ := call
  cases stage with
  | authorizing =>
      obtain ⟨session, found, fresh, generation⟩ := pending
      exact ⟨session, kept session found (by simp [fresh]), fresh, generation⟩
  | identifying =>
      obtain ⟨accepted, session, found, fresh, generation⟩ := pending
      exact ⟨accepted, session, kept session found (by simp [fresh]), fresh, generation⟩
  | authenticating =>
      obtain ⟨session, found, generation, awaited⟩ := pending
      exact ⟨session, kept session found awaited.inactive, generation, awaited⟩
  | activating =>
      obtain ⟨accepted, session, found, generation, awaited⟩ := pending
      exact ⟨accepted, session, kept session found awaited.inactive, generation, awaited⟩
  | invoked | observing | returning => trivial

/-- A section of another connection's call leaves a session alone that is not active. -/
theorem Network.Sectioned.keeps_inactive {state' : NetworkState} {command : Command}
    {stage stage' : Stage} {maxClients : Nat} (consistent : state.Consistent maxClients)
    (outcome : Sectioned config state c command stage state' stage') {i : ConnectionId}
    {session : Session} (other : i ≠ c) (found : state.sessions.lookup i = some session)
    (inactive : session.phase ≠ .active) : state'.sessions.lookup i = some session := by
  obtain framed | ⟨target, targetId, ⟨_, _, _, _, _, _, online⟩, rfl⟩ := outcome.framed consistent
  · rw [framed.sessions i other, found]
  · obtain ⟨targetSession, _, active, -⟩ := consistent.active_of_lookup online
    have apart : i ≠ targetId := by
      rintro rfl
      obtain rfl : session = targetSession := Option.some.inj (found.symm.trans active.1)
      exact inactive active.2.1
    rw [NetworkState.without, AList.lookup_erase_ne apart, found]

theorem register_keeps (peer : SocketAddr) (dialect : ProtocolDialect) {i : ConnectionId}
    {session : Session} (found : state.sessions.lookup i = some session) :
    (register config state c peer dialect).1.sessions.lookup i = some session := by
  obtain kept | ⟨⟨absent, -⟩, connected⟩ := register_cases config state c peer dialect
  · rw [kept, found]
  · have apart : i ≠ c := by
      rintro rfl
      exact absent (KeyedMap.mem_of_lookup found)
    rw [connected, Change.apply, AList.lookup_insert_ne apart, found]

/-- The write phase of `identify` does what the whole call would do now. -/
theorem atomicExecute_identifying {command : Identification} {generation : Nat}
    {request : Command}
    (pending : Pending answers state ⟨c, request, .identifying command generation⟩) :
    atomicExecute config state c (.identify command) answers =
      identifyCommit state c command generation := by
  obtain ⟨accepted, session, found, fresh, rfl⟩ := pending
  have read : identifyGeneration state c = .ok session.generation := by
    simp [identifyGeneration, found, fresh]
  simp only [atomicExecute, atomicIdentify, read, accepted]

/-- The write phase of `login` does what the whole call would do now. -/
theorem atomicExecute_activating {command : LoginCommand} {authenticated : AuthenticatedIdentity}
    {generation : Nat} {request : Command}
    (pending : Pending answers state ⟨c, request, .activating command authenticated generation⟩) :
    atomicExecute config state c (.login command) answers =
      activateLogin config state c command authenticated generation := by
  obtain ⟨accepted, session, found, rfl, awaited⟩ := pending
  have admitted : ¬ (session.dialect = .vatsim ∧ session.phase ≠ .identified) :=
    fun vatsim => vatsim.2 (awaited.identified vatsim.1)
  have read : loginGeneration state c command =
      if command.callsign ∈ state.callsigns then
        .error (errorAndClose c (some command.callsign) .callsignInUse "")
      else .ok session.generation := by
    simp only [loginGeneration, found]
    rw [if_neg awaited.inactive, if_neg admitted, if_neg (not_not.mpr awaited.revision)]
  by_cases used : command.callsign ∈ state.callsigns
  · -- Both look at the callsign index before anything else that could differ.
    simp only [atomicExecute, atomicLogin, read, if_pos used, activateLogin]
  · simp only [atomicExecute, atomicLogin, read, if_neg used, accepted]

/-- The split core `w` and the atomic core `v` hold the same state, and each call is in `v` where it
    counts as being. -/
structure Related (oracle : CallId → Answers) (w v : World) : Prop where
  state : v.state = w.state
  registered : v.registered = w.registered
  nextCall : v.nextCall = w.nextCall
  calls : ∀ id, v.calls.lookup id = (w.calls.lookup id).map (settle (oracle id))
  pending : ∀ id call, w.calls.lookup id = some call → Pending (oracle id) w.state call
  single : ∀ id id' call call', w.calls.lookup id = some call → w.calls.lookup id' = some call' →
    call.connectionId = call'.connectionId → id = id'

private theorem lookup_insert_settled {calls calls' : KeyedMap CallId Call}
    (same : ∀ id, calls'.lookup id = (calls.lookup id).map (settle (oracle id))) {call call' : Call}
    (settles : settle (oracle id) call = call') (other : CallId) :
    (calls'.insert id call').lookup other =
      ((calls.insert id call).lookup other).map (settle (oracle other)) := by
  by_cases here : other = id
  · subst here
    simp [settles]
  · rw [AList.lookup_insert_ne here, AList.lookup_insert_ne here, same other]

/-- The calls stay one to a connection when one of them moves on. -/
private theorem single_insert {calls : KeyedMap CallId Call} {before : Call}
    (single : ∀ id id' call call', calls.lookup id = some call → calls.lookup id' = some call' →
      call.connectionId = call'.connectionId → id = id')
    (found : calls.lookup id = some before) (after : Call)
    (same : after.connectionId = before.connectionId) :
    ∀ i j call call', (calls.insert id after).lookup i = some call →
      (calls.insert id after).lookup j = some call' →
      call.connectionId = call'.connectionId → i = j := by
  have earlier : ∀ i call, (calls.insert id after).lookup i = some call →
      ∃ old, calls.lookup i = some old ∧ old.connectionId = call.connectionId := by
    intro i call stored
    by_cases here : i = id
    · subst here
      obtain rfl := Option.some.inj ((AList.lookup_insert ..).symm.trans stored)
      exact ⟨before, found, same.symm⟩
    · exact ⟨call, (AList.lookup_insert_ne here).symm.trans stored, rfl⟩
  intro i j call call' first second shared
  obtain ⟨old, stored, kept⟩ := earlier i call first
  obtain ⟨old', stored', kept'⟩ := earlier j call' second
  exact single i j old old' stored stored' (by rw [kept, kept', shared])

/-- A section of one call leaves what the other calls wait for. -/
private theorem pending_section (reach : (machine config).Reachable w) (related : Related oracle w v)
    {call : Call} {stage : Stage} (found : w.calls.lookup id = some call)
    (performed : lockSection config w.state call.connectionId call.command call.stage =
      some (state, stage)) (own : Pending (oracle id) state { call with stage }) :
    ∀ other found', (w.advance id call stage).calls.lookup other = some found' →
      Pending (oracle other) state found' := by
  intro other call' stored
  by_cases here : other = id
  · subst here
    obtain rfl := Option.some.inj ((AList.lookup_insert ..).symm.trans stored)
    exact own
  · have stored : w.calls.lookup other = some call' := (AList.lookup_insert_ne here).symm.trans stored
    have apart : call'.connectionId ≠ call.connectionId := fun same =>
      here (related.single other id call' call stored found same)
    exact (related.pending other call' stored).kept fun session =>
      (lockSection_sectioned performed).keeps_inactive (reachable_consistent reach) apart

/-- How a section looks in the atomic core: either the call executes there now, or it does not move. -/
private inductive Settles (config : CoreConfig) (answers : Answers) (state state' : NetworkState)
    (call : Call) (stage : Stage) : Prop where
  | executes (effects : Effects)
      (waiting : settled answers call.connectionId call.stage = .invoked)
      (executed : atomicExecute config state call.connectionId call.command answers =
        (state', effects))
      (settles : settled answers call.connectionId stage = .returning effects)
      (pending : Pending answers state' { call with stage })
  | stutters (same : state' = state)
      (settles : settled answers call.connectionId stage =
        settled answers call.connectionId call.stage)
      (pending : Pending answers state' { call with stage })

private theorem settles_identify {command : Identification} {state' : NetworkState} {stage : Stage}
    (performed : lockSection config state c (.identify command) .invoked = some (state', stage)) :
    Settles config answers state state' ⟨c, .identify command, .invoked⟩ stage := by
  obtain ⟨effects, read, refusal⟩ | ⟨session, read, found, fresh⟩ := identifyGeneration_cases state c
  · simp only [lockSection, read, Option.some.injEq, Prod.mk.injEq] at performed
    obtain ⟨rfl, rfl⟩ := performed
    exact .executes effects rfl (by simp only [atomicExecute, atomicIdentify, read]) rfl trivial
  · simp only [lockSection, read, Option.some.injEq, Prod.mk.injEq] at performed
    obtain ⟨rfl, rfl⟩ := performed
    have pending : Pending answers state
        ⟨c, .identify command, .authorizing command session.generation⟩ := ⟨session, found, fresh, rfl⟩
    obtain ⟨effects, refused, -⟩ | ⟨accepted, -⟩ :=
      identifyAnswered_cases c command answers.authorized
    · exact .executes effects rfl (by simp only [atomicExecute, atomicIdentify, read, refused])
        (by simp only [settled, refused]) pending
    · exact .stutters rfl (by simp only [settled, accepted]) pending

private theorem settles_login {command : LoginCommand} {state' : NetworkState} {stage : Stage}
    (performed : lockSection config state c (.login command) .invoked = some (state', stage)) :
    Settles config answers state state' ⟨c, .login command, .invoked⟩ stage := by
  obtain ⟨effects, read, refusal⟩ | ⟨session, read, found, admitted⟩ :=
    loginGeneration_cases state c command
  · simp only [lockSection, read, Option.some.injEq, Prod.mk.injEq] at performed
    obtain ⟨rfl, rfl⟩ := performed
    exact .executes effects rfl (by simp only [atomicExecute, atomicLogin, read]) rfl trivial
  · simp only [lockSection, read, Option.some.injEq, Prod.mk.injEq] at performed
    obtain ⟨rfl, rfl⟩ := performed
    have pending : Pending answers state
        ⟨c, .login command, .authenticating command session.generation⟩ :=
      ⟨session, found, rfl, admitted.toLoginAwaited⟩
    obtain ⟨effects, refused, -⟩ | ⟨authenticated, accepted, -⟩ :=
      loginAnswered_cases c command answers.authenticated
    · exact .executes effects rfl (by simp only [atomicExecute, atomicLogin, read, refused])
        (by simp only [settled, refused]) pending
    · exact .stutters rfl (by simp only [settled, accepted]) pending

private theorem settles_weather {source : Callsign} {station : String} {parsed : Bool}
    {state' : NetworkState} {stage : Stage}
    (performed : lockSection config state c (.weatherRequest source station parsed) .invoked =
      some (state', stage)) :
    Settles config answers state state' ⟨c, .weatherRequest source station parsed, .invoked⟩
      stage := by
  obtain ⟨effects, read, -⟩ | ⟨coordinates, read⟩ := weatherRequestCoordinates_cases state c source
  · simp only [lockSection, read, Option.some.injEq, Prod.mk.injEq] at performed
    obtain ⟨rfl, rfl⟩ := performed
    exact .executes effects rfl (by simp only [atomicExecute, atomicWeather, read]) rfl trivial
  · simp only [lockSection, read, Option.some.injEq, Prod.mk.injEq] at performed
    obtain ⟨rfl, rfl⟩ := performed
    exact .executes _ rfl (by simp only [atomicExecute, atomicWeather, read]) rfl trivial

private theorem section_settles {call : Call} {state' : NetworkState} {stage : Stage}
    (fits : call.Fits) (pending : Pending answers state call)
    (performed : lockSection config state call.connectionId call.command call.stage =
      some (state', stage)) : Settles config answers state state' call stage := by
  obtain ⟨c, command, before⟩ := call
  cases before with
  | invoked =>
      cases command with
      | identify => exact settles_identify performed
      | login => exact settles_login performed
      | weatherRequest => exact settles_weather performed
      | _ =>
          simp only [lockSection, Option.some.injEq, Prod.mk.injEq] at performed
          obtain ⟨rfl, rfl⟩ := performed
          exact .executes _ rfl rfl rfl trivial
  | identifying identification generation =>
      obtain rfl : command = .identify identification := fits
      simp only [lockSection, Option.some.injEq, Prod.mk.injEq] at performed
      obtain ⟨rfl, rfl⟩ := performed
      exact .executes _ rfl (atomicExecute_identifying pending) rfl trivial
  | activating login authenticated generation =>
      obtain rfl : command = .login login := fits
      simp only [lockSection, Option.some.injEq, Prod.mk.injEq] at performed
      obtain ⟨rfl, rfl⟩ := performed
      exact .executes _ rfl (atomicExecute_activating pending) rfl trivial
  | authorizing | authenticating | observing | returning => cases performed

/-- An answer does not move a call in the atomic core: its effect was already settled. -/
private theorem answer_settles {call : Call} {answer : Answer} {stage : Stage}
    (agrees : answers.Agrees answer) (pending : Pending answers state call)
    (received : answerStage call.connectionId call.stage answer = some stage) :
    settled answers call.connectionId stage = settled answers call.connectionId call.stage ∧
      Pending answers state { call with stage } := by
  obtain ⟨c, command, before⟩ := call
  cases before with
  | authorizing identification generation =>
      cases answer with
      | authorized clientId answer =>
          obtain rfl : answer = answers.authorized := agrees
          simp only [answerStage] at received
          split at received
          · cases received
          · obtain ⟨effects, refused, -⟩ | ⟨accepted, -⟩ :=
              identifyAnswered_cases c identification answers.authorized
            · simp only [refused, Option.some.injEq] at received
              subst received
              exact ⟨by simp only [settled, refused], trivial⟩
            · simp only [accepted, Option.some.injEq] at received
              subst received
              exact ⟨by simp only [settled, accepted], accepted, pending⟩
      | authenticated | observed => cases received
  | authenticating login generation =>
      cases answer with
      | authenticated networkId password answer =>
          obtain rfl : answer = answers.authenticated := agrees
          simp only [answerStage] at received
          split at received
          · cases received
          · obtain ⟨effects, refused, -⟩ | ⟨authenticated, accepted, -⟩ :=
              loginAnswered_cases c login answers.authenticated
            · simp only [refused, Option.some.injEq] at received
              subst received
              exact ⟨by simp only [settled, refused], trivial⟩
            · simp only [accepted, Option.some.injEq] at received
              subst received
              exact ⟨by simp only [settled, accepted], accepted, pending⟩
      | authorized | observed => cases received
  | observing source station parsed coordinates =>
      cases answer with
      | observed lookup answer =>
          obtain rfl : answer = answers.observed := agrees
          simp only [answerStage] at received
          split at received
          · cases received
          · obtain rfl := Option.some.inj received
            exact ⟨rfl, trivial⟩
      | authorized | authenticated => cases received
  | invoked | identifying | activating | returning => cases received

/-! ## One step of the split core -/

/-- The answers that a step delivers are the ones taken as given. -/
def Given (oracle : CallId → Answers) : Action → Prop
  | .answered id answer => (oracle id).Agrees answer
  | _ => True

private theorem related_lock (reach : (machine config).Reachable w) (related : Related oracle w v)
    (step : w.step config (.lock id) = some w') :
    ∃ bs v', (atomicMachine config oracle).run v bs = some v' ∧ Related oracle w' v' ∧
      (atomicMachine config oracle).history (observe config) v bs = [] := by
  obtain ⟨call, state, stage, found, performed, rfl⟩ := World.step_lock.mp step
  have stored : v.calls.lookup id = some (settle (oracle id) call) := by
    rw [related.calls id, found, Option.map_some]
  have single := single_insert related.single found { call with stage } rfl
  cases section_settles (reachable_fits reach found) (related.pending id call found) performed with
  | executes effects waiting executed settles pending =>
      have pendings := pending_section reach related found performed pending
      have step' : v.atomicStep config oracle (.lock id) =
          some { v.advance id call (.returning effects) with state } := by
        simp only [World.atomicStep, stored, settle, waiting, related.state, executed, World.advance]
      refine ⟨[.lock id], _, Machine.run_cons.mpr ⟨_, step', rfl⟩, ?_, ?_⟩
      · refine ⟨rfl, related.registered, related.nextCall, ?_, pendings, single⟩
        exact lookup_insert_settled related.calls (by simp only [settle, settles])
      · have step' : (atomicMachine config oracle).step v (.lock id) = _ := step'
        simp only [Machine.history, observe, step', List.append_nil]
  | stutters same settles pending =>
      have pendings := pending_section reach related found performed pending
      refine ⟨[], v, rfl, ⟨related.state.trans same.symm, related.registered, related.nextCall, ?_,
        pendings, single⟩, rfl⟩
      intro other
      by_cases here : other = id
      · subst here
        rw [World.advance, AList.lookup_insert, stored]
        simp only [settle, settles, Option.map_some]
      · rw [World.advance, AList.lookup_insert_ne here, related.calls other]

private theorem related_answered (related : Related oracle w v) {answer : Answer}
    (agrees : (oracle id).Agrees answer) (step : w.step config (.answered id answer) = some w') :
    Related oracle w' v := by
  obtain ⟨call, stage, found, received, rfl⟩ := World.step_answered.mp step
  obtain ⟨settles, pending⟩ := answer_settles agrees (related.pending id call found) received
  refine ⟨related.state, related.registered, related.nextCall, ?_, ?_,
    single_insert related.single found { call with stage } rfl⟩
  · intro other
    by_cases here : other = id
    · subst here
      rw [World.advance, AList.lookup_insert, related.calls other, found]
      simp only [settle, settles, Option.map_some]
    · rw [World.advance, AList.lookup_insert_ne here, related.calls other]
  · intro other call' stored
    by_cases here : other = id
    · subst here
      obtain rfl := Option.some.inj ((AList.lookup_insert ..).symm.trans stored)
      exact pending
    · exact related.pending other call' ((AList.lookup_insert_ne here).symm.trans stored)

private theorem related_call (related : Related oracle w v) {command : Command}
    (disciplined : Disciplined w (.call id c command))
    (step : w.step config (.call id c command) = some w') :
    ∃ v', v.atomicStep config oracle (.call id c command) = some v' ∧ Related oracle w' v' := by
  obtain ⟨fresh, rfl⟩ := World.step_call.mp step
  have step' : v.step config (.call id c command) = some _ :=
    World.step_call.mpr ⟨fresh.trans related.nextCall.symm, rfl⟩
  refine ⟨_, step', related.state, related.registered, rfl, ?_, ?_, ?_⟩
  · exact lookup_insert_settled related.calls rfl
  · intro other call stored
    by_cases here : other = id
    · subst here
      obtain rfl := Option.some.inj ((AList.lookup_insert ..).symm.trans stored)
      trivial
    · exact related.pending other call ((AList.lookup_insert_ne here).symm.trans stored)
  · intro i j call call' first second shared
    have old : ∀ i call, i ≠ id →
        (w.calls.insert id ⟨c, command, .invoked⟩).lookup i = some call →
        w.calls.lookup i = some call :=
      fun i call other stored => (AList.lookup_insert_ne other).symm.trans stored
    by_cases here : i = id <;> by_cases there : j = id
    · rw [here, there]
    · subst here
      obtain rfl := Option.some.inj ((AList.lookup_insert ..).symm.trans first)
      exact absurd shared.symm (World.idle_iff.mp disciplined j call' (old j call' there second))
    · subst there
      obtain rfl := Option.some.inj ((AList.lookup_insert ..).symm.trans second)
      exact absurd shared (World.idle_iff.mp disciplined i call (old i call here first))
    · exact related.single i j call call' (old i call here first) (old j call' there second) shared

private theorem related_ret (related : Related oracle w v)
    (step : w.step config (.ret id) = some w') :
    ∃ v', v.atomicStep config oracle (.ret id) = some v' ∧ Related oracle w' v' := by
  obtain ⟨connectionId, command, effects, found, rfl⟩ := World.step_ret.mp step
  have stored : v.calls.lookup id = some ⟨connectionId, command, .returning effects⟩ := by
    rw [related.calls id, found]
    rfl
  have kept : ∀ other call, (w.calls.erase id).lookup other = some call →
      w.calls.lookup other = some call := by
    intro other call stored
    by_cases here : other = id
    · subst here
      simp at stored
    · rwa [AList.lookup_erase_ne here] at stored
  refine ⟨_, World.step_ret.mpr ⟨connectionId, command, effects, stored, rfl⟩, related.state,
    related.registered, related.nextCall, ?_,
    fun other call stored => related.pending other call (kept other call stored),
    fun i j call call' first second => related.single i j call call' (kept i call first)
      (kept j call' second)⟩
  intro other
  by_cases here : other = id
  · subst here
    simp
  · rw [AList.lookup_erase_ne here, AList.lookup_erase_ne here, related.calls other]

private theorem related_register (related : Related oracle w v) {peer : SocketAddr}
    {dialect : ProtocolDialect} (step : w.step config (.register c peer dialect) = some w') :
    ∃ v', v.atomicStep config oracle (.register c peer dialect) = some v' ∧
      Related oracle w' v' := by
  obtain ⟨unregistered, rfl⟩ := World.step_register.mp step
  have step' : v.step config (.register c peer dialect) = some _ :=
    World.step_register.mpr ⟨related.registered ▸ unregistered, rfl⟩
  refine ⟨_, step', ?_, ?_, related.nextCall, related.calls, ?_, related.single⟩
  · rw [related.state]
  · rw [related.registered]
  · intro other call stored
    exact (related.pending other call stored).kept
      fun session found _ => register_keeps peer dialect found

private theorem related_disconnect (related : Related oracle w v) {reason : String}
    (disciplined : Disciplined w (.disconnect c reason))
    (step : w.step config (.disconnect c reason) = some w') :
    ∃ v', v.atomicStep config oracle (.disconnect c reason) = some v' ∧ Related oracle w' v' := by
  obtain rfl := World.step_disconnect.mp step
  have step' : v.step config (.disconnect c reason) = some _ := World.step_disconnect.mpr rfl
  refine ⟨_, step', ?_, related.registered, related.nextCall, related.calls, ?_, related.single⟩
  · rw [related.state]
  · intro other call stored
    refine (related.pending other call stored).kept fun session found _ => ?_
    rw [disconnect, disconnectLocked_fst, Change.removed_sessions,
      if_neg (World.idle_iff.mp disciplined other call stored), found]

/-- A step looks the same from the atomic core. -/
private theorem observe_related (related : Related oracle w v) {action : Action}
    (step : w.step config action = some w') : observe config v action = observe config w action := by
  cases action with
  | ret id =>
      obtain ⟨connectionId, command, effects, found, -⟩ := World.step_ret.mp step
      simp only [observe, related.calls id, found, Option.map_some]
      rfl
  | register | disconnect | windDelta => simp only [observe, related.state]
  | call | lock | answered => rfl

/-- A step that both cores perform, with what it shows. -/
private theorem matched {v' : World} {action : Action} (related : Related oracle w v)
    (step : w.step config action = some w') (step' : v.atomicStep config oracle action = some v')
    (related' : Related oracle w' v') :
    ∃ bs v', (atomicMachine config oracle).run v bs = some v' ∧ Related oracle w' v' ∧
      (atomicMachine config oracle).history (observe config) v bs = observe config w action := by
  have step' : (atomicMachine config oracle).step v action = some v' := step'
  refine ⟨[action], v', Machine.run_cons.mpr ⟨v', step', rfl⟩, related', ?_⟩
  simp only [Machine.history, step', List.append_nil, observe_related related step]

private theorem related_step {action : Action} (reach : (machine config).Reachable w)
    (related : Related oracle w v) (disciplined : Disciplined w action) (given : Given oracle action)
    (step : w.step config action = some w') :
    ∃ bs v', (atomicMachine config oracle).run v bs = some v' ∧ Related oracle w' v' ∧
      (atomicMachine config oracle).history (observe config) v bs = observe config w action := by
  cases action with
  | register =>
      obtain ⟨v', step', related'⟩ := related_register related step
      exact matched related step step' related'
  | call =>
      obtain ⟨v', step', related'⟩ := related_call related disciplined step
      exact matched related step step' related'
  | lock id => exact related_lock reach related step
  | answered id answer => exact ⟨[], v, rfl, related_answered related given step, rfl⟩
  | ret =>
      obtain ⟨v', step', related'⟩ := related_ret related step
      exact matched related step step' related'
  | disconnect =>
      obtain ⟨v', step', related'⟩ := related_disconnect related disciplined step
      exact matched related step step' related'
  | windDelta =>
      obtain rfl := World.step_windDelta.mp step
      exact matched related step (World.step_windDelta.mpr rfl) related

/-- Every run in which a connection has at most one call in flight and is not disconnected under it is
    matched by a run of the atomic core with the same answers: callers see the same history, every
    returned result included and in the same order, so the atomic step of a call lies between its
    invocation and its return; and the two cores end in the same state. -/
theorem split_refines_atomic (config : CoreConfig) (oracle : CallId → Answers) (as : List Action)
    (w : World) (trace : (machine config).Trace as w)
    (disciplined : (machine config).Along Disciplined {} as)
    (given : ∀ action ∈ as, Given oracle action) :
    ∃ bs v, (atomicMachine config oracle).Trace bs v ∧ v.state = w.state ∧
      (atomicMachine config oracle).history (observe config) {} bs =
        (machine config).history (observe config) {} as := by
  have admitted : (machine config).Along (fun w action => Disciplined w action ∧ Given oracle action)
      {} as := by
    rw [Machine.along_iff] at disciplined ⊢
    intro before action after mid split ran
    exact ⟨disciplined before action after mid split ran, given action (by simp [split])⟩
  have start : Related oracle {} {} := ⟨rfl, rfl, rfl, by simp, by simp, by simp⟩
  obtain ⟨bs, v, matched, related, seen⟩ := trace.simulated (n := atomicMachine config oracle)
    (Related oracle) start
    (fun w v action w' reach related admits step =>
      related_step reach related admits.1 admits.2 step) admitted
  exact ⟨bs, v, matched, related.state, seen⟩

/-! ## Two logins at once -/

namespace Sample

/-- Two connections log in under one callsign at the same time; the one that called last commits
    first. -/
def racingLogins : List Action :=
  [.register ⟨1⟩ peer .classic, .register ⟨2⟩ peer .classic,
    .call 0 ⟨1⟩ (.login login), .call 1 ⟨2⟩ (.login login), .lock 0, .lock 1,
    .answered 0 (.authenticated "1000" "secret" (.ok identity)),
    .answered 1 (.authenticated "1000" "secret" (.ok identity)), .lock 1, .lock 0, .ret 0, .ret 1]

def accepting : CallId → Answers := fun _ => ⟨.ok (), .ok identity, .ok none⟩

end Sample

theorem split_refines_atomic_racingLogins :
    ∃ bs v, (atomicMachine Sample.config Sample.accepting).Trace bs v ∧
      v.state.callsigns.lookup Sample.callsign = some ⟨2⟩ ∧
      (atomicMachine Sample.config Sample.accepting).history (observe Sample.config) {} bs =
        (machine Sample.config).history (observe Sample.config) {} Sample.racingLogins := by
  have trace := (machine Sample.config).trace_final Sample.racingLogins (by decide)
  have won : ((machine Sample.config).final Sample.racingLogins (by decide)).state.callsigns.lookup
      Sample.callsign = some ⟨2⟩ := by decide
  obtain ⟨bs, v, matched, same, seen⟩ := split_refines_atomic Sample.config Sample.accepting
    Sample.racingLogins _ trace (by decide)
    (by simp [Sample.racingLogins, Sample.accepting, Given, Answers.Agrees])
  exact ⟨bs, v, matched, by rw [same]; exact won, seen⟩

end AsterFsd
