import AsterFsd.Core.World

/-! # What an operation can do

Every operation of the core makes one of seven changes to the state, and what it announces to the
active sessions follows from the change. Each function under a lock gets one lemma here that lists its
outcomes; invariants are proved against the changes and never open the functions again.
-/

namespace AsterFsd

/-! ## Shapes of effects -/

/-- The event tells its recipients that a client came or went. -/
def Event.announces : Event → Bool
  | .clientAdded _ => true
  | .clientRemoved .. => true
  | _ => false

/-- The event tells its recipients that they are disconnected. -/
def Event.disconnects : Event → Bool
  | .disconnect .. => true
  | _ => false

namespace Effects

/-- The deliveries that tell their recipients that a client came or went. -/
def announcements (effects : Effects) : List Delivery :=
  effects.deliveries.filter (·.event.announces)

/-- Exactly one delivery, an error to `connectionId`, with or without a close. -/
def Rejects (effects : Effects) (connectionId : ConnectionId) : Prop :=
  ∃ callsign code environment description,
    effects.deliveries = [⟨[connectionId], .error callsign code environment description⟩]

/-- Every delivery goes to `connectionId` alone. -/
def Private (effects : Effects) (connectionId : ConnectionId) : Prop :=
  ∀ delivery ∈ effects.deliveries, ∀ recipient ∈ delivery.recipients, recipient = connectionId

@[simp] theorem announcements_empty : announcements {} = [] := rfl

theorem private_empty (connectionId : ConnectionId) : Private {} connectionId := by
  simp [Private]

theorem not_rejects_empty (connectionId : ConnectionId) : ¬ Rejects {} connectionId := by
  simp [Rejects]

end Effects

namespace Network

theorem send_deliveries (recipients : List ConnectionId) (event : Event) :
    (send recipients event).deliveries =
      if recipients.isEmpty then [] else [⟨recipients, event⟩] := by
  unfold send
  split <;> rfl

@[simp] theorem send_close (recipients : List ConnectionId) (event : Event) :
    (send recipients event).close = none := by
  unfold send
  split <;> rfl

theorem send_announcements {recipients : List ConnectionId} {event : Event}
    (unannounced : event.announces = false) : (send recipients event).announcements = [] := by
  unfold Effects.announcements
  rw [send_deliveries]
  split <;> simp [unannounced]

theorem send_undisturbing {recipients : List ConnectionId} {event : Event}
    (undisturbing : event.disconnects = false) :
    ∀ delivery ∈ (send recipients event).deliveries, delivery.event.disconnects = false := by
  rw [send_deliveries]
  split <;> simp [undisturbing]

theorem send_private (connectionId : ConnectionId) (event : Event) :
    (send [connectionId] event).Private connectionId := by
  simp [Effects.Private, send_deliveries]

/-- The answer to a refused request: silence, or an error to the issuer. -/
inductive Refusal (connectionId : ConnectionId) : Effects → Prop where
  | silence : Refusal connectionId {}
  | error (callsign code environment) :
      Refusal connectionId (errorEffect connectionId callsign code environment)
  | errorAndClose (callsign code environment) :
      Refusal connectionId (errorAndClose connectionId callsign code environment)

theorem Refusal.announcements {connectionId : ConnectionId} {effects : Effects}
    (refusal : Refusal connectionId effects) : effects.announcements = [] := by
  cases refusal <;> rfl

theorem Refusal.private {connectionId : ConnectionId} {effects : Effects}
    (refusal : Refusal connectionId effects) : effects.Private connectionId := by
  cases refusal with
  | silence => exact Effects.private_empty connectionId
  | error => exact send_private connectionId _
  | errorAndClose => exact send_private connectionId _

theorem Refusal.close {connectionId : ConnectionId} {effects : Effects} {close : CloseConnection}
    (refusal : Refusal connectionId effects) (closes : effects.close = some close) :
    close.connectionId = connectionId := by
  cases refusal with
  | silence => cases closes
  | error => simp [errorEffect] at closes
  | errorAndClose =>
      simp only [Network.errorAndClose, Option.some.injEq] at closes
      rw [← closes]

end Network

/-! ## Changes -/

inductive Change where
  | keep
  | connect (connectionId : ConnectionId) (peer : SocketAddr) (dialect : ProtocolDialect)
  | identify (connectionId : ConnectionId) (command : Identification)
  | activate (connectionId : ConnectionId) (presence : ClientPresence)
  | move (connectionId : ConnectionId) (position : Position)
  | file (connectionId : ConnectionId) (plan : FlightPlan)
  | remove (connectionId : ConnectionId)

/-- The session holds this connection's place in the network under this presence. -/
def NetworkState.ActiveAs (state : NetworkState) (connectionId : ConnectionId)
    (session : Session) (presence : ClientPresence) : Prop :=
  state.sessions.lookup connectionId = some session ∧ session.phase = .active ∧
    session.presence = some presence

/-- The state without one session and without one callsign. -/
def NetworkState.without (state : NetworkState) (i : ConnectionId) (k : Callsign) : NetworkState where
  sessions := state.sessions.erase i
  callsigns := state.callsigns.erase k

namespace Change

/-- The session after the change of its own connection. -/
def update : Change → Session → Session
  | .identify _ command, session =>
      { session with
        identification := some command
        phase := .identified
        generation := session.generation + 1 }
  | .activate _ presence, session =>
      { session with
        phase := .active
        presence := some presence
        generation := session.generation + 1 }
  | .move _ position, session => { session with position := some position }
  | .file _ plan, session => { session with flightPlan := some plan }
  | _, session => session

theorem update_dialect (change : Change) (session : Session) :
    (change.update session).dialect = session.dialect := by
  cases change <;> rfl

theorem update_peer (change : Change) (session : Session) :
    (change.update session).peer = session.peer := by
  cases change <;> rfl

/-- The state without the session and its index entry. -/
def removed (state : NetworkState) (connectionId : ConnectionId) : NetworkState :=
  match state.sessions.lookup connectionId with
  | none => state
  | some session =>
      match session.presence with
      | none => { state with sessions := state.sessions.erase connectionId }
      | some presence => state.without connectionId presence.callsign

theorem removed_of_absent {state : NetworkState} {connectionId : ConnectionId} {session : Session}
    (found : state.sessions.lookup connectionId = some session) (absent : session.presence = none) :
    removed state connectionId =
      { state with sessions := state.sessions.erase connectionId } := by
  simp [removed, found, absent]

theorem removed_of_present {state : NetworkState} {connectionId : ConnectionId} {session : Session}
    {presence : ClientPresence} (found : state.sessions.lookup connectionId = some session)
    (present : session.presence = some presence) :
    removed state connectionId = state.without connectionId presence.callsign := by
  simp [removed, found, present]

/-- The sessions that remain. -/
theorem removed_sessions (state : NetworkState) (connectionId i : ConnectionId) :
    (removed state connectionId).sessions.lookup i =
      if i = connectionId then none else state.sessions.lookup i := by
  by_cases here : i = connectionId
  · subst here
    rw [if_pos rfl]
    cases found : state.sessions.lookup i with
    | none => simp [removed, found]
    | some session =>
        cases present : session.presence with
        | none => simp [removed_of_absent found present]
        | some presence => simp [removed_of_present found present, NetworkState.without]
  · rw [if_neg here]
    cases found : state.sessions.lookup connectionId with
    | none => simp [removed, found]
    | some session =>
        cases present : session.presence with
        | none => rw [removed_of_absent found present, AList.lookup_erase_ne here]
        | some presence =>
            rw [removed_of_present found present, NetworkState.without, AList.lookup_erase_ne here]

def apply (state : NetworkState) (change : Change) : NetworkState :=
  match change with
  | .keep => state
  | .connect connectionId peer dialect =>
      { state with
        sessions :=
          state.sessions.insert connectionId (Network.freshSession connectionId peer dialect) }
  | .activate connectionId presence =>
      { sessions := state.sessions.modify connectionId change.update
        callsigns := state.callsigns.insert presence.callsign connectionId }
  | .identify connectionId _ | .move connectionId _ | .file connectionId _ =>
      { state with sessions := state.sessions.modify connectionId change.update }
  | .remove connectionId => removed state connectionId

/-- What the source checks before it makes the change. -/
def Allowed (config : CoreConfig) (state : NetworkState) : Change → Prop
  | .keep => True
  | .connect connectionId _ _ =>
      connectionId ∉ state.sessions ∧ state.sessions.size < config.maxClients
  | .identify connectionId _ =>
      ∃ session, state.sessions.lookup connectionId = some session ∧ session.phase = .connected
  | .activate connectionId presence =>
      presence.callsign ∉ state.callsigns ∧
        ∃ session, state.sessions.lookup connectionId = some session ∧
          (session.phase = .connected ∨ session.phase = .identified)
  | .move connectionId position =>
      ∃ session presence, state.ActiveAs connectionId session presence ∧
        position.callsign = presence.callsign
  | .file connectionId plan =>
      ∃ session presence, state.ActiveAs connectionId session presence ∧
        plan.callsign = presence.callsign
  | .remove connectionId => ∃ session, state.sessions.lookup connectionId = some session

/-- What the change tells the active sessions. -/
def announced (state : NetworkState) (change : Change) : List Delivery :=
  match change with
  | .activate connectionId presence =>
      let peers := Network.activeIds (change.apply state) (some connectionId)
      if peers.isEmpty then [] else [⟨peers, .clientAdded presence⟩]
  | .remove connectionId =>
      match (state.sessions.lookup connectionId).bind (·.presence) with
      | none => []
      | some presence =>
          let peers := Network.activeIds (change.apply state) none
          if peers.isEmpty then []
          else
            [⟨peers,
              .clientRemoved presence.callsign presence.clientType presence.networkId⟩]
  | _ => []

/-- The connection whose session the change touches. -/
def subject : Change → Option ConnectionId
  | .keep => none
  | .connect connectionId _ _ => some connectionId
  | .identify connectionId _ => some connectionId
  | .activate connectionId _ => some connectionId
  | .move connectionId _ => some connectionId
  | .file connectionId _ => some connectionId
  | .remove connectionId => some connectionId

/-- The connection that the change registers. -/
def connects : Change → Option ConnectionId
  | .connect connectionId _ _ => some connectionId
  | _ => none

/-- Where a session stored after a change comes from. -/
theorem lookup_apply {change : Change} {state : NetworkState} {i : ConnectionId}
    {session : Session} (found : (change.apply state).sessions.lookup i = some session) :
    (∃ before, state.sessions.lookup i = some before ∧
        (session = before ∨ change.subject = some i ∧ session = change.update before)) ∨
      change.connects = some i ∧
        ∃ peer dialect, session = Network.freshSession i peer dialect := by
  have modified : ∀ c, change.subject = some c →
      (state.sessions.modify c change.update).lookup i = some session →
      ∃ before, state.sessions.lookup i = some before ∧
        (session = before ∨ change.subject = some i ∧ session = change.update before) := by
    intro c subject found
    by_cases here : i = c
    · subst here
      obtain ⟨before, stored, rfl⟩ := Option.map_eq_some_iff.mp
        ((KeyedMap.lookup_modify_self ..).symm.trans found)
      exact ⟨before, stored, .inr ⟨subject, rfl⟩⟩
    · exact ⟨session, (KeyedMap.lookup_modify_ne _ here _).symm.trans found, .inl rfl⟩
  cases change with
  | keep => exact .inl ⟨session, found, .inl rfl⟩
  | connect c peer dialect =>
      by_cases here : i = c
      · subst here
        exact .inr ⟨rfl, peer, dialect, by simpa [apply, eq_comm] using found⟩
      · exact .inl ⟨session, (AList.lookup_insert_ne here).symm.trans found, .inl rfl⟩
  | identify c command => exact .inl (modified c rfl found)
  | activate c presence => exact .inl (modified c rfl found)
  | move c position => exact .inl (modified c rfl found)
  | file c plan => exact .inl (modified c rfl found)
  | remove c =>
      refine .inl ⟨session, ?_, .inl rfl⟩
      rw [apply, removed_sessions] at found
      split at found
      · cases found
      · exact found

/-- The sessions of the other connections are as they were. -/
theorem lookup_apply_ne {change : Change} {state : NetworkState} {i : ConnectionId}
    (other : change.subject ≠ some i) :
    (change.apply state).sessions.lookup i = state.sessions.lookup i := by
  cases change with
  | keep => rfl
  | connect c peer dialect => exact AList.lookup_insert_ne fun same => other (by rw [same]; rfl)
  | identify c | activate c | move c | file c =>
      exact KeyedMap.lookup_modify_ne _ (fun same => other (by rw [same]; rfl)) _
  | remove c =>
      rw [apply, removed_sessions, if_neg fun same => other (by rw [same]; rfl)]

end Change

/-! ## Outcomes of the functions under a lock -/

namespace Network

theorem register_cases (config : CoreConfig) (state : NetworkState) (connectionId : ConnectionId)
    (peer : SocketAddr) (dialect : ProtocolDialect) :
    (register config state connectionId peer dialect).1 = state ∨
      (Change.connect connectionId peer dialect).Allowed config state ∧
        (register config state connectionId peer dialect).1 =
          (Change.connect connectionId peer dialect).apply state := by
  unfold register
  by_cases known : connectionId ∈ state.sessions
  · exact .inl (by rw [if_pos known])
  · by_cases full : config.maxClients ≤ state.sessions.size
    · exact .inl (by rw [if_neg known, if_pos full])
    · refine .inr ⟨⟨known, by omega⟩, ?_⟩
      rw [if_neg known, if_neg full]
      rfl

/-- A refused registration leaves the state alone. -/
theorem register_error {config : CoreConfig} {state : NetworkState} {connectionId : ConnectionId}
    {peer : SocketAddr} {dialect : ProtocolDialect} {error : RegisterError}
    (refused : (register config state connectionId peer dialect).2 = .error error) :
    (register config state connectionId peer dialect).1 = state := by
  unfold register at refused ⊢
  split
  · rfl
  · rename_i unknown
    rw [if_neg unknown] at refused
    split
    · rfl
    · rename_i room
      rw [if_neg room] at refused
      cases refused

theorem disconnectLocked_fst (state : NetworkState) (connectionId : ConnectionId)
    (reason : String) :
    (disconnectLocked state connectionId reason).1 = Change.removed state connectionId := by
  unfold disconnectLocked Change.removed
  cases state.sessions.lookup connectionId with
  | none => rfl
  | some session =>
      cases presence : session.presence with
      | none => simp [presence]
      | some presence =>
          simp only [presence]
          split <;> rfl

theorem disconnectLocked_absent {state : NetworkState} {connectionId : ConnectionId}
    (absent : state.sessions.lookup connectionId = none) (reason : String) :
    disconnectLocked state connectionId reason = (state, {}) := by
  simp [disconnectLocked, absent]

/-- Removing a stored session announces it to the others and closes its connection. -/
theorem disconnectLocked_present {state : NetworkState} {connectionId : ConnectionId}
    {session : Session} (found : state.sessions.lookup connectionId = some session)
    (reason : String) :
    disconnectLocked state connectionId reason =
      ((Change.remove connectionId).apply state,
        { deliveries := (Change.remove connectionId).announced state
          close := some { connectionId, reason } }) := by
  unfold disconnectLocked
  simp only [Change.apply, Change.announced, Change.removed, found, Option.bind_some]
  cases session.presence with
  | none => rfl
  | some presence =>
      simp only [NetworkState.without]
      split <;> simp_all

theorem identifyGeneration_cases (state : NetworkState) (connectionId : ConnectionId) :
    (∃ effects, identifyGeneration state connectionId = .error effects ∧
        Refusal connectionId effects) ∨
      ∃ session, identifyGeneration state connectionId = .ok session.generation ∧
        state.sessions.lookup connectionId = some session ∧ session.phase = .connected := by
  unfold identifyGeneration
  cases found : state.sessions.lookup connectionId with
  | none => exact .inl ⟨_, rfl, .silence⟩
  | some session =>
      by_cases fresh : session.phase = .connected
      · exact .inr ⟨session, by simp [fresh], rfl, fresh⟩
      · exact .inl ⟨_, by simp only [ne_eq, fresh, not_false_eq_true, if_true]; rfl, .error ..⟩

theorem identifyCommit_cases (state : NetworkState) (connectionId : ConnectionId)
    (command : Identification) (generation : Nat) :
    (∃ effects, identifyCommit state connectionId command generation = (state, effects) ∧
        Refusal connectionId effects) ∨
      ∃ session, state.sessions.lookup connectionId = some session ∧
        session.phase = .connected ∧ session.generation = generation ∧
        identifyCommit state connectionId command generation =
          ((Change.identify connectionId command).apply state, {}) := by
  unfold identifyCommit
  cases found : state.sessions.lookup connectionId with
  | none => exact .inl ⟨_, rfl, .silence⟩
  | some session =>
      by_cases ready : session.phase = .connected ∧ session.generation = generation
      · exact .inr ⟨session, rfl, ready.1, ready.2, by simp [ready]; rfl⟩
      · refine .inl ⟨_, ?_, .error session.callsign .alreadyRegistered ""⟩
        simp only
        rw [if_pos (by tauto)]

theorem identifyAnswered_cases (connectionId : ConnectionId) (command : Identification)
    (answer : Except AuthError Unit) :
    (∃ effects, identifyAnswered connectionId command answer = .error effects ∧
        Refusal connectionId effects) ∨
      identifyAnswered connectionId command answer = .ok () ∧ answer = .ok () := by
  cases answer with
  | error => exact .inl ⟨_, rfl, .errorAndClose ..⟩
  | ok => exact .inr ⟨rfl, rfl⟩

/-- What the read phase of a login finds in its own session before it asks the authenticator. -/
structure LoginAwaited (command : LoginCommand) (session : Session) : Prop where
  inactive : session.phase ≠ .active
  identified : session.dialect = .vatsim → session.phase = .identified
  revision : command.protocolRevision = expectedRevision session.dialect

/-- The conditions under which the read phase of a login goes on to the authenticator. -/
structure LoginAdmitted (state : NetworkState) (command : LoginCommand) (session : Session) :
    Prop extends LoginAwaited command session where
  unused : command.callsign ∉ state.callsigns

theorem loginGeneration_cases (state : NetworkState) (connectionId : ConnectionId)
    (command : LoginCommand) :
    (∃ effects, loginGeneration state connectionId command = .error effects ∧
        Refusal connectionId effects) ∨
      ∃ session, loginGeneration state connectionId command = .ok session.generation ∧
        state.sessions.lookup connectionId = some session ∧
        LoginAdmitted state command session := by
  unfold loginGeneration
  cases found : state.sessions.lookup connectionId with
  | none => exact .inl ⟨_, rfl, .silence⟩
  | some session =>
      simp only
      by_cases active : session.phase = .active
      · exact .inl ⟨_, if_pos active, .error ..⟩
      rw [if_neg active]
      by_cases unidentified : session.dialect = .vatsim ∧ session.phase ≠ .identified
      · exact .inl ⟨_, if_pos unidentified, .errorAndClose ..⟩
      rw [if_neg unidentified]
      by_cases revision : command.protocolRevision = expectedRevision session.dialect
      · rw [if_neg (not_not.mpr revision)]
        by_cases used : command.callsign ∈ state.callsigns
        · exact .inl ⟨_, if_pos used, .errorAndClose ..⟩
        · exact .inr ⟨session, if_neg used, rfl, ⟨active, by tauto, revision⟩, used⟩
      · exact .inl ⟨_, if_pos revision, .errorAndClose ..⟩

/-- What a login needs of the identity it authenticated. -/
structure Authorized (command : LoginCommand) (authenticated : AuthenticatedIdentity) : Prop where
  unsuspended : authenticated.suspended = false
  identityIsActive : identityIsActive command authenticated = true
  ratingIsAuthorized : ratingIsAuthorized command authenticated = true

theorem validateRating_cases (connectionId : ConnectionId) (command : LoginCommand)
    (authenticated : AuthenticatedIdentity) :
    (∃ effects, validateRating connectionId command authenticated = .error effects ∧
        Refusal connectionId effects) ∨
      validateRating connectionId command authenticated = .ok () ∧
        Authorized command authenticated := by
  unfold validateRating
  split
  · exact .inl ⟨_, rfl, .errorAndClose ..⟩
  · rename_i active
    split
    · exact .inl ⟨_, rfl, .errorAndClose ..⟩
    · rename_i allowed
      simp only [Bool.or_eq_true, Bool.not_eq_true', not_or, Bool.not_eq_true,
        Bool.not_eq_false] at active allowed
      exact .inr ⟨rfl, active.1, active.2, allowed⟩

theorem loginAnswered_cases (connectionId : ConnectionId) (command : LoginCommand)
    (answer : Except AuthError AuthenticatedIdentity) :
    (∃ effects, loginAnswered connectionId command answer = .error effects ∧
        Refusal connectionId effects) ∨
      ∃ authenticated, loginAnswered connectionId command answer = .ok authenticated ∧
        answer = .ok authenticated ∧ Authorized command authenticated := by
  cases answer with
  | error error =>
      cases error <;> exact .inl ⟨_, rfl, .errorAndClose ..⟩
  | ok authenticated =>
      obtain ⟨effects, refused, refusal⟩ | ⟨accepted, authorized⟩ :=
        validateRating_cases connectionId command authenticated
      · exact .inl ⟨effects, by simp [loginAnswered, refused], refusal⟩
      · exact .inr ⟨authenticated, by simp [loginAnswered, accepted], rfl, authorized⟩

/-- The conditions under which the write phase of a login activates the session. -/
structure LoginReady (state : NetworkState) (command : LoginCommand) (generation : Nat)
    (session : Session) : Prop where
  unused : command.callsign ∉ state.callsigns
  waiting : session.phase = .connected ∨ session.phase = .identified
  generation : session.generation = generation
  identification : session.dialect = .vatsim →
    ∃ identification, session.identification = some identification ∧
      identification.callsign = command.callsign ∧
      identification.networkId = some command.networkId

theorem activateLogin_cases (config : CoreConfig) (state : NetworkState)
    (connectionId : ConnectionId) (command : LoginCommand)
    (authenticated : AuthenticatedIdentity) (generation : Nat) :
    (∃ effects,
        activateLogin config state connectionId command authenticated generation =
          (state, effects) ∧ Refusal connectionId effects) ∨
      ∃ session, state.sessions.lookup connectionId = some session ∧
        LoginReady state command generation session ∧
        activateLogin config state connectionId command authenticated generation =
          let presence := loginPresence command authenticated
          let state := (Change.activate connectionId presence).apply state
          (state, loginEffects config state connectionId presence) := by
  unfold activateLogin
  by_cases used : command.callsign ∈ state.callsigns
  · exact .inl ⟨_, if_pos used, .errorAndClose ..⟩
  rw [if_neg used]
  cases found : state.sessions.lookup connectionId with
  | none => exact .inl ⟨_, rfl, .silence⟩
  | some session =>
      simp only
      by_cases stale : ¬ (session.phase = .connected ∨ session.phase = .identified) ∨
          session.generation ≠ generation
      · exact .inl ⟨_, if_pos stale, .error ..⟩
      rw [if_neg stale]
      by_cases foreign : session.dialect = .vatsim ∧
          ¬ session.identification.any (identificationMatches · command)
      · exact .inl ⟨_, if_pos foreign, .errorAndClose ..⟩
      rw [if_neg foreign]
      refine .inr ⟨session, rfl, ⟨used, by tauto, by tauto, ?_⟩, rfl⟩
      intro vatsim
      have known : session.identification.any (identificationMatches · command) = true := by
        by_contra unknown
        exact foreign ⟨vatsim, unknown⟩
      obtain ⟨identification, stored, «matches»⟩ := (Option.any_eq_true _ _).mp known
      simp only [identificationMatches, Bool.and_eq_true, decide_eq_true_eq] at «matches»
      exact ⟨identification, stored, «matches»⟩

/-! ## Outcomes of an active session's command -/

/-- The notice to the issuer and the disconnect notice to the target of an accepted kill. -/
def killNotices (connectionId : ConnectionId) (callsign : Callsign) (targetId : ConnectionId)
    (target : Callsign) (reason : String) : Effects :=
  (send [connectionId] (.welcome callsign ("Attempting to kill " ++ toString target))).extend
    (send [targetId] (.disconnect target reason))

/-- Everything `executeActive` can do. In the last four outcomes the issuer is active and the command
    states its own callsign. -/
inductive Executed (state : NetworkState) (connectionId : ConnectionId) :
    Command → NetworkState × Effects → Prop where
  | kept {command : Command} {effects : Effects} (unannounced : effects.announcements = [])
      (undisturbing : ∀ delivery ∈ effects.deliveries, delivery.event.disconnects = false)
      (stays : effects.close = none) : Executed state connectionId command (state, effects)
  | moved {session : Session} {presence : ClientPresence} {position : Position}
      (issuer : state.ActiveAs connectionId session presence)
      (own : position.callsign = presence.callsign) (valid : position.validate = .ok ())
      (fits : presence.clientType = expectedType position) :
      Executed state connectionId (.position position)
        ((Change.move connectionId position).apply state,
          send (positionRecipients ((Change.move connectionId position).apply state) connectionId)
            (.position position))
  | filed {session : Session} {presence : ClientPresence} {plan : FlightPlan}
      (issuer : state.ActiveAs connectionId session presence)
      (own : plan.callsign = presence.callsign) :
      Executed state connectionId (.flightPlan plan)
        ((Change.file connectionId plan).apply state,
          send (flightPlanRecipients ((Change.file connectionId plan).apply state) connectionId 400.0)
            (.flightPlan plan .atc))
  | left {session : Session} {presence : ClientPresence}
      (issuer : state.ActiveAs connectionId session presence) :
      Executed state connectionId (.logoff presence.callsign)
        ((Change.remove connectionId).apply state,
          { deliveries := (Change.remove connectionId).announced state
            close := some { connectionId, reason := "client logoff" } })
  | killed {session : Session} {presence : ClientPresence} {target : Callsign} {reason : String}
      {targetId : ConnectionId} (issuer : state.ActiveAs connectionId session presence)
      (online : state.callsigns.lookup target = some targetId) (permitted : 11 ≤ presence.rating) :
      Executed state connectionId (.kill presence.callsign target reason)
        ((disconnectLocked state targetId reason).1,
          (killNotices connectionId presence.callsign targetId target reason).extend
            (disconnectLocked state targetId reason).2)

private theorem Executed.sent {state : NetworkState} {connectionId : ConnectionId}
    {command : Command} (recipients : List ConnectionId) {event : Event}
    (unannounced : event.announces = false) (undisturbing : event.disconnects = false) :
    Executed state connectionId command (state, send recipients event) :=
  .kept (send_announcements unannounced) (send_undisturbing undisturbing)
    (send_close recipients event)

private theorem Executed.silent {state : NetworkState} {connectionId : ConnectionId}
    {command : Command} : Executed state connectionId command (state, {}) := .kept rfl (by simp) rfl

theorem routed_unannounced {command : Command} {destination : Destination} {policy : RangePolicy}
    {event : Event} (relayed : routed command = some (destination, policy, event)) :
    event.announces = false ∧ event.disconnects = false := by
  cases command <;> simp only [routed, Option.some.injEq, Prod.mk.injEq, reduceCtorEq] at relayed <;>
    (obtain ⟨-, -, rfl⟩ := relayed; exact ⟨rfl, rfl⟩)

private theorem handleRoutedCommand_executed (state : NetworkState) (connectionId : ConnectionId)
    (command : Command) :
    Executed state connectionId command
      (state, handleRoutedCommand state connectionId command) := by
  unfold handleRoutedCommand
  split
  · exact .silent
  · rename_i relayed
    exact .sent _ (routed_unannounced relayed).1 (routed_unannounced relayed).2

private theorem handleQuery_executed (state : NetworkState) (connectionId : ConnectionId)
    (command : Command) (source : Callsign) (destination : Destination) (kind : QueryKind)
    (arguments : List String) :
    Executed state connectionId command
      (state, handleQuery state connectionId source destination kind arguments) := by
  unfold handleQuery
  split
  · exact .sent _ rfl rfl
  · split
    · unfold flightPlanQuery
      repeat' split
      all_goals exact .sent _ rfl rfl
    all_goals exact .silent

private theorem handleStateCommand_executed {state : NetworkState} {connectionId : ConnectionId}
    {session : Session} {presence : ClientPresence} {command : Command}
    (issuer : state.ActiveAs connectionId session presence)
    (own : command.source = some presence.callsign) :
    Executed state connectionId command
      (handleStateCommand state connectionId presence.callsign presence.clientType command) := by
  have stored : connectionId ∈ state.sessions := KeyedMap.mem_of_lookup issuer.1
  cases command with
  | logoff source =>
      obtain rfl : source = presence.callsign := Option.some.inj own
      simp only [handleStateCommand, disconnectLocked_present issuer.1]
      exact .left issuer
  | position position =>
      simp only [handleStateCommand]
      cases valid : position.validate with
      | error error => exact .sent _ rfl rfl
      | ok =>
          dsimp only
          by_cases fits : presence.clientType = expectedType position
          · rw [if_neg (not_not.mpr fits), if_neg (not_not.mpr stored)]
            exact .moved issuer (Option.some.inj own) valid fits
          · rw [if_pos fits]
            exact .sent _ rfl rfl
  | flightPlan plan =>
      simp only [handleStateCommand]
      rw [if_neg (not_not.mpr stored)]
      exact .filed issuer (Option.some.inj own)
  | _ => exact .silent

private theorem handleKill_executed {state : NetworkState} {connectionId : ConnectionId}
    {session : Session} {presence : ClientPresence} {source target : Callsign} {reason : String}
    (issuer : state.ActiveAs connectionId session presence) (own : source = presence.callsign) :
    Executed state connectionId (.kill source target reason)
      (handleKill state connectionId presence.callsign presence.rating target reason) := by
  subst own
  unfold handleKill
  split
  · exact .sent _ rfl rfl
  · rename_i targetId online
    split
    · exact .sent _ rfl rfl
    · rename_i permitted
      exact .killed issuer online (Int32.not_lt.mp permitted)

theorem executeActive_executed (state : NetworkState) (connectionId : ConnectionId)
    (command : Command) :
    Executed state connectionId command (executeActive state connectionId command) := by
  unfold executeActive
  split
  · exact .silent
  rename_i session found
  split
  · exact .silent
  rename_i active
  split
  · exact .silent
  rename_i presence present
  split
  · exact .sent _ rfl rfl
  rename_i own
  have issuer : state.ActiveAs connectionId session presence := ⟨found, not_not.mp active, present⟩
  have own : command.source = some presence.callsign := not_not.mp own
  cases command with
  | logoff | position | flightPlan => exact handleStateCommand_executed issuer own
  | query => exact handleQuery_executed ..
  | ping =>
      simp only [handleCommand, handlePing]
      split <;> exact .sent _ rfl rfl
  | text | response | pong | handoff | clientData => exact handleRoutedCommand_executed ..
  | kill => exact handleKill_executed issuer (Option.some.inj own)
  | noop | identify | login | weatherRequest => exact .silent

/-- A kill that meets every check is carried out. -/
theorem executeActive_kill {state : NetworkState} {connectionId targetId : ConnectionId}
    {session : Session} {presence : ClientPresence} {target : Callsign}
    (issuer : state.ActiveAs connectionId session presence)
    (online : state.callsigns.lookup target = some targetId) (permitted : 11 ≤ presence.rating)
    (reason : String) :
    executeActive state connectionId (.kill presence.callsign target reason) =
      ((disconnectLocked state targetId reason).1,
        (killNotices connectionId presence.callsign targetId target reason).extend
          (disconnectLocked state targetId reason).2) := by
  have allowed : ¬ presence.rating < 11 := Int32.not_lt.mpr permitted
  simp [executeActive, issuer.1, issuer.2.1, issuer.2.2, Command.source, handleCommand, handleKill,
    online, allowed, killNotices]

theorem executeActive_absent {state : NetworkState} {connectionId : ConnectionId}
    (absent : state.sessions.lookup connectionId = none) (command : Command) :
    executeActive state connectionId command = (state, {}) := by
  simp [executeActive, absent]

end Network

end AsterFsd
