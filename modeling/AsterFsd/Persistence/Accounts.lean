import AsterFsd.Persistence.Deployment

/-! # Accounts

An account that is created can be used at once and leaves every other account as it was, and nobody is
active in the network without one: the presence of a session is the account the store had when the
login asked for it, whatever happened to the store since.
-/

namespace AsterFsd.Persistence

open SeaOrmAuthenticator Deployment

variable {database : Database} {argon2 : Argon2} {config : CoreConfig} {store store' : Store database}

/-! ## Creating an account -/

theorem createUser_ok {networkId passwordHash realName : String} {atcRating : AtcRating}
    {pilotRating : PilotRating} {id : Int32} {now : DateTimeUtc} {fault : Option DbErr}
    {user : User.Model} :
    createUser store networkId passwordHash realName atcRating pilotRating id now fault =
        .ok (store', user) ↔
      fault = none ∧ user = ⟨id, networkId, passwordHash, realName, atcRating, pilotRating, now, now⟩ ∧
        ∃ users, store.users.insert user.row = some users ∧ store' = { store with users } := by
  unfold createUser
  cases fault with
  | some error => simp
  | none =>
      dsimp only
      split
      · rename_i refused
        refine ⟨fun made => (nomatch made), ?_⟩
        rintro ⟨-, rfl, users, inserted, -⟩
        simp [refused] at inserted
      · rename_i users inserted
        simp only [Except.ok.injEq, Prod.mk.injEq, true_and]
        constructor
        · rintro ⟨rfl, rfl⟩
          exact ⟨rfl, users, inserted, rfl⟩
        · rintro ⟨rfl, users', inserted', rfl⟩
          cases inserted.symm.trans inserted'
          exact ⟨rfl, rfl⟩

/-- The query for a user looks at the users alone. -/
private theorem findUser_congr {networkId : String}
    (same : store'.users.find (User.named database.collation networkId) =
      store.users.find (User.named database.collation networkId)) (fault : Option DbErr) :
    findUser store' networkId fault = findUser store networkId fault := by
  unfold findUser
  rw [same]

/-- An account whose password was hashed for it answers to every spelling of its network ID with the
    data it was created with. All other logins and all client checks go as before, and a second
    account of that network ID is refused. -/
theorem created_account (database : Database) (argon2 : Argon2) (lawful : argon2.Lawful)
    (store store' : Store database) (random : List UInt8)
    (networkId password hash realName : String) (atcRating : AtcRating) (pilotRating : PilotRating)
    (id : Int32) (now : DateTimeUtc) (fault : Option DbErr) (user : User.Model)
    (hashed : argon2.hashPassword random password = .ok hash)
    (created : createUser store networkId hash realName atcRating pilotRating id now fault =
      .ok (store', user)) :
    (∀ spelling, database.collation.same networkId spelling = true →
      authenticate argon2 store' spelling password none (.ok ()) =
        .ok ⟨networkId, realName, atcRating, pilotRating, false⟩) ∧
    (∀ other attempt fault' joined, database.collation.same networkId other = false →
      authenticate argon2 store' other attempt fault' joined =
        authenticate argon2 store other attempt fault' joined) ∧
    (∀ clientId fault', authorizeClient store' clientId fault' =
      authorizeClient store clientId fault') ∧
    ∀ spelling hash' realName' atcRating' pilotRating' id' now' fault',
      database.collation.same networkId spelling = true →
      ∃ error, createUser store' spelling hash' realName' atcRating' pilotRating' id' now' fault' =
        .error error := by
  obtain ⟨rfl, rfl, users, inserted, rfl⟩ := createUser_ok.mp created
  refine ⟨?_, ?_, fun _ _ => rfl, ?_⟩
  · intro spelling same
    have stored := Table.find_insert_self inserted
      (User.named_unique database.collation spelling) same
    have found : findUser { store with users } spelling none = .ok
        ⟨id, networkId, hash, realName, atcRating, pilotRating, now, now⟩ := by
      unfold findUser
      simp only [stored, User.Row.read_iff.mpr rfl]
    simp only [authenticate, found]
    exact verified_ok.mpr ⟨rfl, lawful.verifies hashed, rfl⟩
  · intro other attempt fault' joined apart
    have same : findUser { store with users } other fault' = findUser store other fault' :=
      findUser_congr (Table.find_insert_of_not inserted
        (fun selected => Bool.false_ne_true (apart.symm.trans selected))) fault'
    simp only [authenticate, same]
  · intro spelling hash' realName' atcRating' pilotRating' id' now' fault' same
    cases again : createUser { store with users } spelling hash' realName' atcRating' pilotRating' id'
        now' fault' with
    | error error => exact ⟨error, rfl⟩
    | ok result =>
        obtain ⟨store'', user'⟩ := result
        obtain ⟨-, rfl, users', inserted', -⟩ := createUser_ok.mp again
        have first := (Table.insert_some inserted).1
        exact absurd (.inr same)
          ((Table.insert_some inserted').2 _ (first ▸ List.mem_append_right _ (List.mem_singleton_self _)))

namespace Sample

def readHash (text : String) : Option String :=
  if "$argon2id$".toList <+: text.toList then some (String.ofList (text.toList.drop 10)) else none

theorem readHash_written (hashed : String) : readHash ("$argon2id$" ++ hashed) = some hashed := by
  have length : "$argon2id$".toList.length = 10 := by decide
  rw [readHash, String.toList_append, if_pos (List.prefix_append _ _), List.drop_left' length,
    String.ofList_toList]

/-- A library whose hash is the password behind the name of the algorithm. -/
def hashing : Argon2 where
  PasswordHash := String
  encodeSalt random := some (toString random.length)
  hash password _ := some password
  print hashed := "$argon2id$" ++ hashed
  parse := readHash
  verify password hashed := if hashed = password then .ok () else .error .password

theorem hashing_lawful : hashing.Lawful where
  parse_print := readHash_written
  verify_hash := by
    intro password salt hashed made
    obtain rfl : password = hashed := Option.some.inj made
    exact if_pos rfl

def sqlite : Database := ⟨.binary, "UNIQUE constraint failed", fun text => "unexpected " ++ text⟩

/-- The store of a fresh server. -/
def fresh : Store sqlite := (Store.migrated sqlite 0).get (by decide)

end Sample

theorem created_account_fresh :
    ∃ (store : Store Sample.sqlite) (user : User.Model),
      createUser Sample.fresh "1000" "$argon2id$secret" "Ada" .observer .privatePilotLicense 1 0 none =
          .ok (store, user) ∧
        authenticate Sample.hashing store "1000" "secret" none (.ok ()) =
          .ok ⟨"1000", "Ada", .observer, .privatePilotLicense, false⟩ := by
  have created : ∃ store user, createUser Sample.fresh "1000" "$argon2id$secret" "Ada" .observer
      .privatePilotLicense 1 0 none = .ok (store, user) := ⟨_, _, rfl⟩
  obtain ⟨store, user, created⟩ := created
  have account := created_account Sample.sqlite Sample.hashing Sample.hashing_lawful Sample.fresh
    store [] "1000" "secret" "$argon2id$secret" "Ada" .observer .privatePilotLicense 1 0 none user rfl
    created
  exact ⟨store, user, created, account.1 "1000" (by decide)⟩

/-! ## Who is active -/

/-- A session is active for a user that the store had, with the password of the login, when the login
    asked for it. The rating is a recognised one up to the user's own, and the client software of a
    VATSIM session was on the whitelist. -/
theorem active_sessions_stored (argon2 : Argon2) (config : CoreConfig) (store : Store database)
    (as : List (Deployment.Action database)) (d : Deployment database)
    (trace : (machine argon2 config store).Trace as d) (c : ConnectionId) (session : Session)
    (found : d.world.state.sessions.lookup c = some session) (active : session.phase = .active) :
    ∃ (id : CallId) (command : LoginCommand) (user : User.Model)
        (earlier : List (Deployment.Action database)) (mid : Deployment database), earlier <+: as ∧
      (machine argon2 config store).Trace earlier mid ∧
      .core (.call id c (.login command)) ∈ earlier ∧
      user.row ∈ mid.store.users.rows ∧
      database.collation.same user.networkId command.networkId = true ∧
      argon2.Verifies command.password user.passwordHash ∧
      session.presence = some {
        callsign := command.callsign
        clientType := command.clientType
        networkId := user.networkId
        realName := user.realName
        rating := command.requestedRating
        protocolRevision := command.protocolRevision
        simulatorType := command.simulatorType } ∧
      (command.clientType = .atc → ∃ role, AtcRating.tryFrom command.requestedRating = .ok role ∧
        role ≠ .suspended ∧ role.wireValue ≤ user.atcRating.wireValue) ∧
      (command.clientType = .pilot ∨ command.clientType = .observer →
        ∃ role, PilotRating.tryFrom command.requestedRating = .ok role ∧ role ≠ .unrated ∧
          role.wireValue ≤ user.pilotRating.wireValue) ∧
      (session.dialect = .vatsim → ∃ identification before then_, before <+: as ∧
        (machine argon2 config store).Trace before then_ ∧
        session.identification = some identification ∧
        identification.callsign = command.callsign ∧
        identification.networkId = some command.networkId ∧
        ∃ row ∈ then_.store.clientWhitelist.rows,
          database.collation.same row.clientId identification.clientId = true ∧
          row.enabled = true) := by
  obtain ⟨command, authenticated, known⟩ := Trace.authenticated (Trace.core trace) found active
  obtain ⟨before, id, after, split, accepted, vatsim⟩ := known.activated
  have part : before.Sublist (coreRun argon2 config store as) := by
    rw [split]
    exact List.sublist_append_left _ _
  obtain ⟨user, ⟨earlier, mid, issued, generation, prior, reached, waiting, stored, same⟩, verifies,
    rfl⟩ := Trace.login_accepted trace (accepted.trans part)
  have called : .core (.call id c (.login command)) ∈ earlier := by
    have supported := Trace.supported (Trace.core reached) waiting
    exact core_call_mem supported.1
  have allowed := known.authorized.ratingIsAuthorized
  refine ⟨id, command, user, earlier, mid, prior, reached, called, stored, same, verifies,
    known.presence, ?_, ?_, ?_⟩
  · intro atc
    simp only [Network.ratingIsAuthorized, atc] at allowed
    exact AtcRating.allowsWireValue_iff.mp allowed
  · intro flies
    rcases flies with pilot | observer
    · simp only [Network.ratingIsAuthorized, pilot] at allowed
      exact PilotRating.allowsWireValue_iff.mp allowed
    · simp only [Network.ratingIsAuthorized, observer] at allowed
      exact PilotRating.allowsWireValue_iff.mp allowed
  · intro dialect
    obtain ⟨identification, id', kept, identified, sameCallsign, sameNetworkId⟩ := vatsim dialect
    obtain ⟨before', then_, prior', reached', row⟩ :=
      Trace.identify_accepted trace (identified.trans part)
    exact ⟨identification, before', then_, prior', reached', kept, sameCallsign, sameNetworkId, row⟩

namespace Sample

/-- A pilot gets an account; a VATSIM client identifies itself and logs in to it. -/
def accountRun : List (Deployment.Action sqlite) :=
  [.core (.register ⟨1⟩ AsterFsd.Sample.peer .vatsim),
    .createUser "1000" "$argon2id$secret" "Ada" .observer .privatePilotLicense 1 0 none,
    .core (.call 0 ⟨1⟩ (.identify AsterFsd.Sample.identification)), .core (.lock 0),
    .authorizeClient 0 none, .core (.lock 0), .core (.ret 0),
    .core (.call 1 ⟨1⟩ (.login { AsterFsd.Sample.login with protocolRevision := 100 })),
    .core (.lock 1), .findUser 1 none, .verifyPassword 1 (.ok ()), .core (.lock 1)]

end Sample

theorem active_sessions_stored_vatsim :
    ∃ d session, (machine Sample.hashing AsterFsd.Sample.config Sample.fresh).Trace
        Sample.accountRun d ∧
      d.world.state.sessions.lookup ⟨1⟩ = some session ∧ session.phase = .active ∧
      ∃ (user : User.Model) (password : String),
        Sample.hashing.Verifies password user.passwordHash := by
  have trace := (machine Sample.hashing AsterFsd.Sample.config Sample.fresh).trace_final
    Sample.accountRun (by decide)
  have found := (Option.some_get (x := ((machine Sample.hashing AsterFsd.Sample.config
    Sample.fresh).final Sample.accountRun (by decide)).world.state.sessions.lookup ⟨1⟩)
    (by decide)).symm
  obtain ⟨id, command, user, -, -, -, -, -, -, -, verifies, -⟩ :=
    active_sessions_stored _ _ _ _ _ trace ⟨1⟩ _ found (by decide)
  exact ⟨_, _, trace, found, by decide, user, command.password, verifies⟩

end AsterFsd.Persistence
