import AsterFsd.Core.Framing

/-! # Authentication evidence

An active session rests on what happened in the run before it was activated: a login call on its own
connection whose credentials the authenticator accepted, and for a VATSIM session an identification
that was accepted before. Both are read off the run itself.
-/

namespace AsterFsd

open Network

variable {config : CoreConfig} {as bs : List Action} {w w' : World} {action : Action}
  {id : CallId} {c : ConnectionId}

/-! ## Evidence in a run -/

/-- The run has a login call on `c` and then the authenticator's acceptance of its credentials. -/
def LoginAccepted (as : List Action) (id : CallId) (c : ConnectionId) (command : LoginCommand)
    (identity : AuthenticatedIdentity) : Prop :=
  [.call id c (.login command),
    .answered id (.authenticated command.networkId command.password (.ok identity))].Sublist as

/-- The run has an identify call on `c` and then the authorization of its client software. -/
def IdentifyAccepted (as : List Action) (id : CallId) (c : ConnectionId)
    (command : Identification) : Prop :=
  [.call id c (.identify command),
    .answered id (.authorized command.clientId (.ok ()))].Sublist as

theorem LoginAccepted.append {command : LoginCommand} {identity : AuthenticatedIdentity}
    (accepted : LoginAccepted as id c command identity) (bs : List Action) :
    LoginAccepted (as ++ bs) id c command identity :=
  accepted.trans (List.sublist_append_left as bs)

theorem IdentifyAccepted.append {command : Identification}
    (accepted : IdentifyAccepted as id c command) (bs : List Action) :
    IdentifyAccepted (as ++ bs) id c command :=
  accepted.trans (List.sublist_append_left as bs)

private theorem pair_sublist {first second : Action} (earlier : first ∈ as) :
    [first, second].Sublist (as ++ [second]) :=
  (List.singleton_sublist.mpr earlier).append (List.Sublist.refl [second])

/-- The login states the revision of the dialect of its connection. -/
def RevisionStated (w : World) (c : ConnectionId) (command : LoginCommand) : Prop :=
  c ∈ w.registered ∧ ∀ session, w.state.sessions.lookup c = some session →
    command.protocolRevision = expectedRevision session.dialect

/-- The dialect of a connection never changes, so the revision a login stated stays the right one. -/
theorem RevisionStated.step {command : LoginCommand} (stated : RevisionStated w c command)
    (step : w.step config action = some w') : RevisionStated w' c command := by
  obtain ⟨change, made, causes⟩ := World.step_makes step
  refine ⟨World.step_registered step stated.1, fun session found => ?_⟩
  rw [made.apply_eq] at found
  obtain ⟨before, stored, kept⟩ | ⟨connected, -⟩ := Change.lookup_apply found
  · rw [stated.2 before stored]
    obtain rfl | ⟨-, rfl⟩ := kept
    · rfl
    · rw [change.update_dialect]
  · exact absurd stated.1 (causes.fresh connected).1

/-! ## Evidence for a call -/

/-- What the run shows for a call that has reached this stage. -/
def Supported (as : List Action) (w : World) (id : CallId) (call : Call) : Prop :=
  match call.stage with
  | .invoked => .call id call.connectionId call.command ∈ as
  | .authorizing command _ => .call id call.connectionId (.identify command) ∈ as
  | .identifying command _ => IdentifyAccepted as id call.connectionId command
  | .authenticating command _ =>
      .call id call.connectionId (.login command) ∈ as ∧ RevisionStated w call.connectionId command
  | .activating command identity _ =>
      LoginAccepted as id call.connectionId command identity ∧ Authorized command identity ∧
        RevisionStated w call.connectionId command
  | .observing .. | .returning _ => True

theorem Supported.step {call : Call} (supported : Supported as w id call)
    (step : w.step config action = some w') : Supported (as ++ [action]) w' id call := by
  obtain ⟨connectionId, command, stage⟩ := call
  cases stage with
  | invoked | authorizing => exact List.mem_append_left _ supported
  | identifying => exact IdentifyAccepted.append supported _
  | authenticating => exact ⟨List.mem_append_left _ supported.1, supported.2.step step⟩
  | activating => exact ⟨supported.1.append _, supported.2.1, supported.2.2.step step⟩
  | observing | returning => trivial

/-- A section under the lock has the evidence for the stage it reaches. -/
private theorem Supported.section_ {call : Call} {stage : Stage} {state : NetworkState}
    (supported : Supported as w id call) (registered : ∀ session,
      w.state.sessions.lookup call.connectionId = some session → call.connectionId ∈ w.registered)
    (outcome : Sectioned config w.state call.connectionId call.command call.stage state stage) :
    Supported as w id { call with stage } := by
  obtain ⟨connectionId, command, before⟩ := call
  cases outcome with
  | identifyRead => exact supported
  | loginRead found admitted =>
      refine ⟨supported, registered _ found, fun session stored => ?_⟩
      cases found.symm.trans stored
      exact admitted.revision
  | refused | weatherRead | executed | identified | activated => trivial

/-- An answer is evidence for the stage it leads to. -/
private theorem Supported.answer {call : Call} {stage : Stage} {answer : Answer}
    (supported : Supported as w id call) (step : w.step config (.answered id answer) = some w')
    (outcome : Answered call.connectionId call.stage answer stage) :
    Supported (as ++ [.answered id answer]) w' id { call with stage } := by
  obtain ⟨connectionId, command, before⟩ := call
  cases outcome with
  | authorized => exact pair_sublist supported
  | authenticated authorized =>
      exact ⟨pair_sublist supported.1, authorized, supported.2.step step⟩
  | unauthorized | rejected | observed => trivial

/-- After every run, every call in flight has its evidence in that run. -/
theorem Trace.supported (trace : (machine config).Trace as w) {call : Call}
    (found : w.calls.lookup id = some call) : Supported as w id call := by
  have all : ∀ id call, w.calls.lookup id = some call → Supported as w id call := by
    refine trace.invariant
      (fun as w => ∀ id call, w.calls.lookup id = some call → Supported as w id call)
      (by simp [machine]) ?_
    intro as w action w' trace held step id call found
    obtain stored | ⟨c, command, rfl, -, rfl⟩ | ⟨before, stage, rfl, stored, rfl, performed⟩ |
      ⟨before, answer, stage, rfl, stored, rfl, outcome⟩ := World.step_calls step found
    · exact (held id call stored).step step
    · exact List.mem_append_right _ (List.mem_singleton_self _)
    · have reached := (held id before stored).section_
        (fun session => reachable_registered trace.reachable) (lockSection_sectioned performed)
      exact reached.step step
    · exact (held id before stored).answer step outcome
  exact all id call found

/-! ## Evidence for a session -/

/-- After every run, a stored identification was accepted by the authenticator in that run. -/
theorem Trace.identified (trace : (machine config).Trace as w) {session : Session}
    {identification : Identification} (found : w.state.sessions.lookup c = some session)
    (stored : session.identification = some identification) :
    ∃ id, IdentifyAccepted as id c identification := by
  have all : ∀ c session identification, w.state.sessions.lookup c = some session →
      session.identification = some identification →
      ∃ id, IdentifyAccepted as id c identification := by
    refine trace.invariant
      (fun as w => ∀ c session identification, w.state.sessions.lookup c = some session →
        session.identification = some identification →
        ∃ id, IdentifyAccepted as id c identification)
      (by simp [machine]) ?_
    intro as w action w' trace held step c session identification found stored
    obtain ⟨change, made, causes⟩ := World.step_makes step
    have earlier : ∀ before, w.state.sessions.lookup c = some before →
        before.identification = some identification →
        ∃ id, IdentifyAccepted (as ++ [action]) id c identification := by
      intro before kept same
      obtain ⟨id, accepted⟩ := held c before identification kept same
      exact ⟨id, accepted.append _⟩
    rw [made.apply_eq] at found
    obtain ⟨before, kept, rfl | ⟨own, rfl⟩⟩ | ⟨-, peer, dialect, rfl⟩ :=
      Change.lookup_apply found
    · exact earlier _ kept stored
    · cases change with
      | identify c' command =>
          obtain rfl : c' = c := Option.some.inj own
          obtain rfl : command = identification := Option.some.inj stored
          obtain ⟨id, call, generation, rfl, asked, rfl, stage⟩ := causes
          have supported := Trace.supported trace asked
          rw [Supported, stage] at supported
          exact ⟨id, IdentifyAccepted.append supported _⟩
      | keep | connect | activate | move | file | remove => exact earlier before kept stored
    · cases stored
  exact all c session identification found stored

/-- The run activated this session by a login with this command and this identity: the evidence lies
    before the step `lock id` that activated it. -/
structure Authenticated (as : List Action) (c : ConnectionId) (session : Session)
    (command : LoginCommand) (identity : AuthenticatedIdentity) : Prop where
  activated : ∃ before id after, as = before ++ .lock id :: after ∧
    LoginAccepted before id c command identity ∧
    (session.dialect = .vatsim → ∃ identification id', session.identification = some identification ∧
      IdentifyAccepted before id' c identification ∧
      identification.callsign = command.callsign ∧
      identification.networkId = some command.networkId)
  authorized : Authorized command identity
  revision : command.protocolRevision = expectedRevision session.dialect
  presence : session.presence = some (loginPresence command identity)

/-- The evidence stays good after another step, for a session with the same data. -/
private theorem Authenticated.later {session session' : Session} {command : LoginCommand}
    {identity : AuthenticatedIdentity} (known : Authenticated as c session command identity)
    (presence : session'.presence = session.presence) (dialect : session'.dialect = session.dialect)
    (identification : session'.identification = session.identification) :
    Authenticated (as ++ [action]) c session' command identity where
  activated := by
    obtain ⟨before, id, after, rfl, accepted, vatsim⟩ := known.activated
    refine ⟨before, id, after ++ [action], by simp, accepted, ?_⟩
    rwa [dialect, identification]
  authorized := known.authorized
  revision := by
    rw [dialect]
    exact known.revision
  presence := presence.trans known.presence

/-- The step that activates a session has the evidence for it. -/
private theorem Authenticated.now {session : Session} {presence : ClientPresence}
    (trace : (machine config).Trace as w) (causes : w.Causes w' action (.activate c presence))
    (found : w.state.sessions.lookup c = some session) :
    ∃ command identity,
      Authenticated (as ++ [action]) c ((Change.activate c presence).update session) command
        identity := by
  obtain ⟨id, call, command, identity, generation, other, rfl, asked, rfl, stage, rfl, stored,
    ready⟩ := causes
  obtain rfl : session = other := Option.some.inj (found.symm.trans stored)
  have supported := Trace.supported trace asked
  rw [Supported, stage] at supported
  obtain ⟨accepted, authorized, revision⟩ := supported
  refine ⟨command, identity, ⟨as, id, [], rfl, accepted, ?_⟩, authorized, revision.2 session found,
    rfl⟩
  intro vatsim
  obtain ⟨identification, kept, sameCallsign, sameNetworkId⟩ := ready.identification vatsim
  obtain ⟨id', identified⟩ := Trace.identified trace found kept
  exact ⟨identification, id', kept, identified, sameCallsign, sameNetworkId⟩

theorem Trace.authenticated (trace : (machine config).Trace as w) {session : Session}
    (found : w.state.sessions.lookup c = some session) (active : session.phase = .active) :
    ∃ command identity, Authenticated as c session command identity := by
  have all : ∀ c session, w.state.sessions.lookup c = some session → session.phase = .active →
      ∃ command identity, Authenticated as c session command identity := by
    refine trace.invariant
      (fun as w => ∀ c session, w.state.sessions.lookup c = some session →
        session.phase = .active → ∃ command identity, Authenticated as c session command identity)
      (by simp [machine]) ?_
    intro as w action w' trace held step c session found active
    obtain ⟨change, made, causes⟩ := World.step_makes step
    rw [made.apply_eq] at found
    obtain ⟨before, kept, rfl | ⟨own, rfl⟩⟩ | ⟨-, peer, dialect, rfl⟩ := Change.lookup_apply found
    · obtain ⟨command, identity, known⟩ := held c _ kept active
      exact ⟨command, identity, known.later rfl rfl rfl⟩
    · by_cases wasActive : before.phase = .active
      · obtain ⟨command, identity, known⟩ := held c before kept wasActive
        obtain ⟨-, presence, identification⟩ :=
          Change.update_active kept wasActive made.allowed own
        exact ⟨command, identity, known.later presence (change.update_dialect before) identification⟩
      · cases change with
        | activate c' presence =>
            obtain rfl : c' = c := Option.some.inj own
            exact Authenticated.now trace causes kept
        | identify => cases active
        | keep | connect | move | file | remove => exact absurd active wasActive
    · cases active
  exact all c session found active

/-! ## Soundness -/

/-- An active session was activated by a login call on its own connection whose credentials the
    authenticator accepted for an identity that is not suspended and whose rating allows the
    requested one; it states its dialect's revision and its presence is that of the login. A VATSIM
    session had, before that, an identification accepted for the same callsign and network ID. -/
theorem authentication_sound (config : CoreConfig) (as : List Action) (w : World)
    (trace : (machine config).Trace as w) (i : ConnectionId) (session : Session)
    (found : w.state.sessions.lookup i = some session) (active : session.phase = .active) :
    ∃ before id after L identity,
      as = before ++ .lock id :: after ∧ LoginAccepted before id i L identity ∧
      identity.suspended = false ∧
      (L.clientType = .atc → identity.atcRating ≠ .suspended ∧
        identity.atcRating.allowsWireValue L.requestedRating = true) ∧
      (L.clientType = .pilot ∨ L.clientType = .observer → identity.pilotRating ≠ .unrated ∧
        identity.pilotRating.allowsWireValue L.requestedRating = true) ∧
      L.protocolRevision = (match session.dialect with
        | .classic => 9
        | .vatsim => 100
        | .asterV1 => 1) ∧
      session.presence = some {
        callsign := L.callsign
        clientType := L.clientType
        networkId := identity.networkId
        realName := identity.realName
        rating := L.requestedRating
        protocolRevision := L.protocolRevision
        simulatorType := L.simulatorType } ∧
      (session.dialect = .vatsim → ∃ I id', session.identification = some I ∧
        IdentifyAccepted before id' i I ∧ I.callsign = L.callsign ∧
        I.networkId = some L.networkId) := by
  obtain ⟨L, identity, known⟩ := Trace.authenticated trace found active
  obtain ⟨before, id, after, split, accepted, vatsim⟩ := known.activated
  have identityActive := known.authorized.identityIsActive
  have ratingAllowed := known.authorized.ratingIsAuthorized
  refine ⟨before, id, after, L, identity, split, accepted, known.authorized.unsuspended, ?_, ?_, ?_,
    known.presence, vatsim⟩
  · intro atc
    simpa [identityIsActive, ratingIsAuthorized, atc] using And.intro identityActive ratingAllowed
  · rintro (pilot | observer)
    · simpa [identityIsActive, ratingIsAuthorized, pilot] using
        And.intro identityActive ratingAllowed
    · simpa [identityIsActive, ratingIsAuthorized, observer] using
        And.intro identityActive ratingAllowed
  · rw [known.revision]
    cases session.dialect <;> rfl

namespace Sample

def identification : Identification := ⟨callsign, "88e4", "vPilot", some "1000"⟩

/-- A VATSIM client identifies itself and then logs in. -/
def vatsimRun : List Action :=
  [.register ⟨1⟩ peer .vatsim, .call 0 ⟨1⟩ (.identify identification), .lock 0,
    .answered 0 (.authorized "88e4" (.ok ())), .lock 0, .ret 0] ++
  loginCall 1 ⟨1⟩ { login with protocolRevision := 100 } identity

end Sample

theorem authentication_sound_vatsim :
    ∃ w session, (machine Sample.config).Trace Sample.vatsimRun w ∧
      w.state.sessions.lookup ⟨1⟩ = some session ∧ session.phase = .active ∧
      ∃ before id I, session.identification = some I ∧ IdentifyAccepted before id ⟨1⟩ I := by
  have trace := (machine Sample.config).trace_final Sample.vatsimRun (by decide)
  have found := (Option.some_get (x := ((machine Sample.config).final Sample.vatsimRun
    (by decide)).state.sessions.lookup ⟨1⟩) (by decide)).symm
  obtain ⟨before, id, after, L, identity, -, -, -, -, -, -, -, vatsim⟩ :=
    authentication_sound _ _ _ trace ⟨1⟩ _ found (by decide)
  obtain ⟨I, id', stored, accepted, -⟩ := vatsim (by decide)
  exact ⟨_, _, trace, found, by decide, before, id', I, stored, accepted⟩

end AsterFsd
