import AsterFsd.Core.Evidence
import AsterFsd.Persistence.Authenticator

/-! # The core on top of its database

The concurrent calls of the core, whose authenticator answers out of the store as it stands at that
moment. A login queries its user and verifies the password afterwards, and in between others may write
to the store: accounts are created by the authenticator, and anything that keeps the schema may be
written from outside. The weather provider is still outside.
-/

namespace AsterFsd.Persistence

open SeaOrmAuthenticator

/-- The core, its store, and the users whose passwords are being verified. -/
structure Deployment (database : Database) where
  store : Store database
  world : World := {}
  verifying : KeyedMap CallId User.Model := ∅

/-- The action is an answer of the authenticator. -/
def authenticates : AsterFsd.Action → Bool
  | .answered _ (.authorized ..) => true
  | .answered _ (.authenticated ..) => true
  | _ => false

namespace Deployment

inductive Action (database : Database) where
  | core (action : AsterFsd.Action)
  | alter (store : Store database)
  | createUser (networkId passwordHash realName : String) (atcRating : AtcRating)
      (pilotRating : PilotRating) (id : Int32) (now : DateTimeUtc) (fault : Option DbErr)
  | authorizeClient (id : CallId) (fault : Option DbErr)
  | findUser (id : CallId) (fault : Option DbErr)
  | verifyPassword (id : CallId) (joined : Except String Unit)

variable {database : Database} (argon2 : Argon2) (config : CoreConfig)

/-- The core performs an action. -/
def perform (d : Deployment database) (action : AsterFsd.Action) : Option (Deployment database) :=
  (d.world.step config action).map fun world => { d with world }

def step (d : Deployment database) : Action database → Option (Deployment database)
  | .core action => if authenticates action then none else d.perform config action
  | .alter store => some { d with store }
  | .createUser networkId passwordHash realName atcRating pilotRating id now fault =>
      match SeaOrmAuthenticator.createUser d.store networkId passwordHash realName atcRating
          pilotRating id now fault with
      | .error _ => some d
      | .ok (store, _) => some { d with store }
  | .authorizeClient id fault =>
      match d.world.calls.lookup id with
      | some { stage := .authorizing command _, .. } =>
          d.perform config (.answered id (.authorized command.clientId
            (SeaOrmAuthenticator.authorizeClient d.store command.clientId fault)))
      | _ => none
  | .findUser id fault =>
      match d.world.calls.lookup id, d.verifying.lookup id with
      | some { stage := .authenticating command _, .. }, none =>
          match SeaOrmAuthenticator.findUser d.store command.networkId fault with
          | .error error =>
              d.perform config
                (.answered id (.authenticated command.networkId command.password (.error error)))
          | .ok user => some { d with verifying := d.verifying.insert id user }
      | _, _ => none
  | .verifyPassword id joined =>
      match d.world.calls.lookup id, d.verifying.lookup id with
      | some { stage := .authenticating command _, .. }, some user =>
          { d with verifying := d.verifying.erase id }.perform config
            (.answered id (.authenticated command.networkId command.password
              (verified argon2 user command.password joined)))
      | _, _ => none

/-- The actions of the core that a step performs. -/
def performs (d : Deployment database) : Action database → List AsterFsd.Action
  | .core action => [action]
  | .alter _ | .createUser .. => []
  | .authorizeClient id fault =>
      match d.world.calls.lookup id with
      | some { stage := .authorizing command _, .. } =>
          [.answered id (.authorized command.clientId
            (SeaOrmAuthenticator.authorizeClient d.store command.clientId fault))]
      | _ => []
  | .findUser id fault =>
      match d.world.calls.lookup id with
      | some { stage := .authenticating command _, .. } =>
          match SeaOrmAuthenticator.findUser d.store command.networkId fault with
          | .error error =>
              [.answered id (.authenticated command.networkId command.password (.error error))]
          | .ok _ => []
      | _ => []
  | .verifyPassword id joined =>
      match d.world.calls.lookup id, d.verifying.lookup id with
      | some { stage := .authenticating command _, .. }, some user =>
          [.answered id (.authenticated command.networkId command.password
            (verified argon2 user command.password joined))]
      | _, _ => []

variable {argon2 config} {d d' : Deployment database}

/-! ## What a step can do -/

/-- Everything a step can do, with the actions of the core that it performs. -/
inductive Stepped (argon2 : Argon2) (config : CoreConfig) (d : Deployment database) :
    Action database → List AsterFsd.Action → Deployment database → Prop where
  | core {action : AsterFsd.Action} {world : World} (outside : authenticates action = false)
      (step : d.world.step config action = some world) :
      Stepped argon2 config d (.core action) [action] { d with world }
  | stored {action : Action database} (store : Store database) :
      Stepped argon2 config d action [] { d with store }
  | authorized {id : CallId} {fault : Option DbErr} {c : ConnectionId} {issued : Command}
      {command : Identification} {generation : Nat} {world : World}
      (found : d.world.calls.lookup id = some ⟨c, issued, .authorizing command generation⟩)
      (step : d.world.step config (.answered id (.authorized command.clientId
        (SeaOrmAuthenticator.authorizeClient d.store command.clientId fault))) = some world) :
      Stepped argon2 config d (.authorizeClient id fault)
        [.answered id (.authorized command.clientId
          (SeaOrmAuthenticator.authorizeClient d.store command.clientId fault))] { d with world }
  | refused {id : CallId} {fault : Option DbErr} {c : ConnectionId} {issued : Command}
      {command : LoginCommand} {generation : Nat} {error : AuthError} {world : World}
      (found : d.world.calls.lookup id = some ⟨c, issued, .authenticating command generation⟩)
      (idle : d.verifying.lookup id = none)
      (failed : SeaOrmAuthenticator.findUser d.store command.networkId fault = .error error)
      (step : d.world.step config
        (.answered id (.authenticated command.networkId command.password (.error error))) =
          some world) :
      Stepped argon2 config d (.findUser id fault)
        [.answered id (.authenticated command.networkId command.password (.error error))]
        { d with world }
  | queried {id : CallId} {fault : Option DbErr} {c : ConnectionId} {issued : Command}
      {command : LoginCommand} {generation : Nat} {user : User.Model}
      (found : d.world.calls.lookup id = some ⟨c, issued, .authenticating command generation⟩)
      (read : SeaOrmAuthenticator.findUser d.store command.networkId fault = .ok user) :
      Stepped argon2 config d (.findUser id fault) []
        { d with verifying := d.verifying.insert id user }
  | verified {id : CallId} {joined : Except String Unit} {c : ConnectionId} {issued : Command}
      {command : LoginCommand} {generation : Nat} {user : User.Model} {world : World}
      (found : d.world.calls.lookup id = some ⟨c, issued, .authenticating command generation⟩)
      (queried : d.verifying.lookup id = some user)
      (step : d.world.step config (.answered id (.authenticated command.networkId command.password
        (SeaOrmAuthenticator.verified argon2 user command.password joined))) = some world) :
      Stepped argon2 config d (.verifyPassword id joined)
        [.answered id (.authenticated command.networkId command.password
          (SeaOrmAuthenticator.verified argon2 user command.password joined))]
        { d with world, verifying := d.verifying.erase id }

theorem perform_some {action : AsterFsd.Action} :
    d.perform config action = some d' ↔
      ∃ world, d.world.step config action = some world ∧ d' = { d with world } := by
  rw [perform, Option.map_eq_some_iff]
  exact exists_congr fun world => and_congr_right fun _ => eq_comm

theorem step_stepped {action : Action database} (step : d.step argon2 config action = some d') :
    Stepped argon2 config d action (d.performs argon2 action) d' := by
  cases action with
  | core action =>
      simp only [Deployment.step] at step
      split at step
      · cases step
      · rename_i outside
        obtain ⟨world, performed, rfl⟩ := perform_some.mp step
        exact .core (Bool.eq_false_iff.mpr outside) performed
  | alter store =>
      obtain rfl := Option.some.inj step
      exact .stored store
  | createUser =>
      simp only [Deployment.step] at step
      split at step
      · obtain rfl := Option.some.inj step
        exact .stored d.store
      · obtain rfl := Option.some.inj step
        exact .stored _
  | authorizeClient id fault =>
      simp only [Deployment.step] at step
      split at step
      · rename_i c issued command generation found
        obtain ⟨world, performed, rfl⟩ := perform_some.mp step
        simp only [performs, found]
        exact .authorized found performed
      · cases step
  | findUser id fault =>
      simp only [Deployment.step] at step
      split at step
      · rename_i c issued command generation found idle
        simp only [performs, found]
        split at step
        · rename_i error failed
          obtain ⟨world, performed, rfl⟩ := perform_some.mp step
          exact .refused found idle failed performed
        · rename_i user read
          obtain rfl := Option.some.inj step
          exact .queried found read
      · cases step
  | verifyPassword id joined =>
      simp only [Deployment.step] at step
      split at step
      · rename_i user c issued command generation found queried
        obtain ⟨world, performed, rfl⟩ := perform_some.mp step
        simp only [performs, found, queried]
        exact .verified found queried performed
      · cases step

/-- The core sees a run of its own. -/
theorem Stepped.run {action : Action database} {actions : List AsterFsd.Action}
    (stepped : Stepped argon2 config d action actions d') :
    (AsterFsd.machine config).run d.world actions = some d'.world := by
  cases stepped with
  | core _ step | authorized _ step | refused _ _ _ step | verified _ _ step =>
      exact Machine.run_cons.mpr ⟨_, step, rfl⟩
  | stored | queried => rfl

end Deployment

/-- The core with its concurrent callers and its database, from a store that the server finds. -/
def machine {database : Database} (argon2 : Argon2) (config : CoreConfig)
    (store : Store database) : Machine (Deployment database) (Deployment.Action database) where
  init := { store }
  step := Deployment.step argon2 config

namespace Deployment

variable {database : Database} {argon2 : Argon2} {config : CoreConfig} {store : Store database}
  {as : List (Action database)} {d : Deployment database}

/-- What the core has done in a run. -/
def coreRun (argon2 : Argon2) (config : CoreConfig) (store : Store database)
    (as : List (Action database)) : List AsterFsd.Action :=
  (machine argon2 config store).history (performs argon2) { store } as

theorem Trace.core (trace : (machine argon2 config store).Trace as d) :
    (AsterFsd.machine config).Trace (coreRun argon2 config store as) d.world :=
  trace.projected Deployment.world rfl fun _ _ _ step => (step_stepped step).run

/-! ## Waiting logins -/

/-- Calls are numbered below the next number. -/
theorem reachable_drawn {w : World} (reach : (AsterFsd.machine config).Reachable w) {id : CallId}
    {call : Call} (found : w.calls.lookup id = some call) : id < w.nextCall := by
  have all : ∀ id call, w.calls.lookup id = some call → id < w.nextCall := by
    refine reach.invariant (fun w => ∀ id call, w.calls.lookup id = some call → id < w.nextCall)
      (by simp [AsterFsd.machine]) ?_
    intro w action w' held step id call found
    have grown := World.step_nextCall_le step
    obtain stored | ⟨c, command, rfl, fresh, -⟩ | ⟨before, stage, -, stored, -⟩ |
      ⟨before, answer, stage, -, stored, -⟩ := World.step_calls step found
    · exact Nat.lt_of_lt_of_le (held id call stored) grown
    · obtain ⟨-, rfl⟩ := World.step_call.mp step
      exact Nat.lt_succ_self id
    · exact Nat.lt_of_lt_of_le (held id before stored) grown
    · exact Nat.lt_of_lt_of_le (held id before stored) grown
  exact all id call found

/-- A login that waits for the authenticator goes on waiting until it gets its answer. -/
theorem waits {w w' : World} {action : AsterFsd.Action}
    (reach : (AsterFsd.machine config).Reachable w) (step : w.step config action = some w')
    {id : CallId} {c : ConnectionId} {issued : Command} {command : LoginCommand} {generation : Nat}
    (found : w.calls.lookup id = some ⟨c, issued, .authenticating command generation⟩)
    (unanswered : ∀ answer, action ≠ .answered id (.authenticated command.networkId command.password
      answer)) :
    w'.calls.lookup id = some ⟨c, issued, .authenticating command generation⟩ := by
  by_cases about : action.call? = some id
  · exfalso
    cases action with
    | register | disconnect | windDelta => cases about
    | call id' =>
        obtain rfl : id' = id := Option.some.inj about
        obtain ⟨rfl, -⟩ := World.step_call.mp step
        exact Nat.lt_irrefl _ (reachable_drawn reach found)
    | lock id' =>
        obtain rfl : id' = id := Option.some.inj about
        obtain ⟨call, state, stage, stored, performed, -⟩ := World.step_lock.mp step
        cases stored.symm.trans found
        cases performed
    | answered id' answer =>
        obtain rfl : id' = id := Option.some.inj about
        obtain ⟨call, stage, stored, received, -⟩ := World.step_answered.mp step
        cases stored.symm.trans found
        cases answer with
        | authorized | observed => cases received
        | authenticated networkId password answer =>
            simp only [Network.answerStage] at received
            split at received
            · cases received
            · rename_i asked
              obtain ⟨rfl, rfl⟩ : networkId = command.networkId ∧ password = command.password := by
                tauto
              exact unanswered answer rfl
    | ret id' =>
        obtain rfl : id' = id := Option.some.inj about
        obtain ⟨_, _, _, stored, -⟩ := World.step_ret.mp step
        cases stored.symm.trans found
  · rw [World.step_lookup_ne step about]
    exact found

/-- The login `id` on `c` has queried its user at a moment of the run, when the store had the user
    under the network ID of the login. -/
def Queried (argon2 : Argon2) (config : CoreConfig) (store : Store database)
    (as : List (Action database)) (id : CallId) (c : ConnectionId) (command : LoginCommand)
    (user : User.Model) : Prop :=
  ∃ earlier mid issued generation, earlier <+: as ∧
    (machine argon2 config store).Trace earlier mid ∧
    mid.world.calls.lookup id = some ⟨c, issued, .authenticating command generation⟩ ∧
    user.row ∈ mid.store.users.rows ∧
    database.collation.same user.networkId command.networkId = true

theorem Queried.append {id : CallId} {c : ConnectionId} {command : LoginCommand} {user : User.Model}
    (queried : Queried argon2 config store as id c command user) (bs : List (Action database)) :
    Queried argon2 config store (as ++ bs) id c command user := by
  obtain ⟨earlier, mid, issued, generation, part, rest⟩ := queried
  exact ⟨earlier, mid, issued, generation, part.trans (List.prefix_append as bs), rest⟩

/-- A user in verification was queried by the login that waits for it. -/
theorem Trace.verifying (trace : (machine argon2 config store).Trace as d) {id : CallId}
    {user : User.Model} (found : d.verifying.lookup id = some user) :
    ∃ c issued command generation,
      d.world.calls.lookup id = some ⟨c, issued, .authenticating command generation⟩ ∧
      Queried argon2 config store as id c command user := by
  have all : ∀ id user, d.verifying.lookup id = some user → ∃ c issued command generation,
      d.world.calls.lookup id = some ⟨c, issued, .authenticating command generation⟩ ∧
      Queried argon2 config store as id c command user := by
    refine trace.invariant (fun as d => ∀ id user, d.verifying.lookup id = some user →
      ∃ c issued command generation,
        d.world.calls.lookup id = some ⟨c, issued, .authenticating command generation⟩ ∧
        Queried argon2 config store as id c command user) (by simp [machine]) ?_
    intro as d action d' trace held step id user found
    have reach : (AsterFsd.machine config).Reachable d.world := (Trace.core trace).reachable
    -- a login that is not answered now has been waiting, with the user it has queried
    have kept : ∀ {world : World} {performed : AsterFsd.Action},
        d.world.step config performed = some world →
        (∀ command : LoginCommand, ∀ answer,
          performed ≠ .answered id (.authenticated command.networkId command.password answer)) →
        d.verifying.lookup id = some user → ∃ c issued command generation,
          world.calls.lookup id = some ⟨c, issued, .authenticating command generation⟩ ∧
          Queried argon2 config store (as ++ [action]) id c command user := by
      intro world performed moved other queried
      obtain ⟨c, issued, command, generation, waiting, read⟩ := held id user queried
      exact ⟨c, issued, command, generation, waits reach moved waiting (other command),
        read.append _⟩
    obtain ⟨actions, stepped⟩ : ∃ actions, Stepped argon2 config d action actions d' :=
      ⟨_, step_stepped step⟩
    cases stepped with
    | core outside moved =>
        refine kept moved ?_ found
        rintro command answer rfl
        cases outside
    | stored =>
        obtain ⟨c, issued, command, generation, waiting, read⟩ := held id user found
        exact ⟨c, issued, command, generation, waiting, read.append _⟩
    | authorized _ moved => exact kept moved (fun _ _ same => nomatch same) found
    | refused _ idle _ moved =>
        refine kept moved ?_ found
        intro command answer same
        obtain ⟨rfl, -⟩ := AsterFsd.Action.answered.inj same
        simp [idle] at found
    | @queried id' _ c issued command generation user' waiting read =>
        by_cases here : id = id'
        · subst here
          simp only [AList.lookup_insert, Option.some.injEq] at found
          subst found
          obtain ⟨-, stored, same⟩ := findUser_ok.mp read
          exact ⟨c, issued, command, generation, waiting, as, d, issued, generation,
            List.prefix_append _ _, trace, waiting, stored, same⟩
        · rw [AList.lookup_insert_ne here] at found
          obtain ⟨c, issued, command, generation, waiting, read⟩ := held id user found
          exact ⟨c, issued, command, generation, waiting, read.append _⟩
    | @verified id' _ _ _ _ _ _ _ _ _ moved =>
        have here : id ≠ id' := by
          rintro rfl
          simp at found
        rw [AList.lookup_erase_ne here] at found
        refine kept moved ?_ found
        intro command answer same
        exact here (AsterFsd.Action.answered.inj same).1.symm
  exact all id user found

/-! ## Accepted credentials -/

/-- The calls of a run have numbers of their own. -/
theorem called {bs : List AsterFsd.Action} {w : World}
    (trace : (AsterFsd.machine config).Trace bs w) {id : CallId} {c : ConnectionId}
    {command : Command} (made : .call id c command ∈ bs) {call : Call}
    (found : w.calls.lookup id = some call) : call.connectionId = c ∧ call.command = command := by
  have all : ∀ id c command, .call id c command ∈ bs → id < w.nextCall ∧
      ∀ call, w.calls.lookup id = some call → call.connectionId = c ∧ call.command = command := by
    refine trace.invariant (fun bs w => ∀ id c command, .call id c command ∈ bs → id < w.nextCall ∧
      ∀ call, w.calls.lookup id = some call → call.connectionId = c ∧ call.command = command)
      (by simp) ?_
    intro bs w action w' trace held step id c command made
    have grown := World.step_nextCall_le step
    rcases List.mem_append.mp made with earlier | now
    · obtain ⟨drawn, known⟩ := held id c command earlier
      refine ⟨Nat.lt_of_lt_of_le drawn grown, fun call found => ?_⟩
      obtain stored | ⟨_, _, -, rfl, -⟩ | ⟨before, stage, -, stored, rfl, -⟩ |
        ⟨before, answer, stage, -, stored, rfl, -⟩ := World.step_calls step found
      · exact known call stored
      · exact absurd drawn (Nat.lt_irrefl _)
      · exact known before stored
      · exact known before stored
    · obtain rfl := List.mem_singleton.mp now
      obtain ⟨rfl, rfl⟩ := World.step_call.mp step
      refine ⟨Nat.lt_succ_self _, fun call found => ?_⟩
      simp only [AList.lookup_insert, Option.some.injEq] at found
      exact found ▸ ⟨rfl, rfl⟩
  exact (all id c command made).2 call found

/-- A call of the core is a call of the deployment. -/
theorem core_call_mem {id : CallId} {c : ConnectionId} {command : Command}
    (made : .call id c command ∈ coreRun argon2 config store as) :
    .core (.call id c command) ∈ as := by
  obtain ⟨before, action, after, mid, rfl, -, performed⟩ := Machine.mem_history made
  cases action with
  | core action =>
      obtain rfl := List.mem_singleton.mp performed
      simp
  | alter | createUser => cases performed
  | authorizeClient =>
      simp only [performs] at performed
      split at performed <;> simp at performed
  | findUser =>
      simp only [performs] at performed
      split at performed
      · split at performed <;> simp at performed
      · cases performed
  | verifyPassword =>
      simp only [performs] at performed
      split at performed <;> simp at performed

/-- An answer that the core got came from a step of the run, with all calls before it. -/
theorem Trace.answered (trace : (machine argon2 config store).Trace as d) {id : CallId}
    {c : ConnectionId} {command : Command} {answer : Answer}
    (received : [.call id c command, .answered id answer].Sublist (coreRun argon2 config store as)) :
    ∃ before action mid next, before ++ [action] <+: as ∧
      (machine argon2 config store).Trace before mid ∧
      Stepped argon2 config mid action [.answered id answer] next ∧
      .call id c command ∈ coreRun argon2 config store before := by
  obtain ⟨first, rest, split, made, later⟩ := List.cons_sublist_iff.mp received
  obtain ⟨first', last, rfl⟩ := List.append_of_mem (List.singleton_sublist.mp later)
  rw [← List.append_assoc] at split
  obtain ⟨before, action, after, mid, pre, post, rfl, ran, performed, reached⟩ :=
    Machine.history_split split
  obtain ⟨mid', ran', rest⟩ := Machine.run_append.mp trace
  obtain rfl : mid = mid' := Option.some.inj (ran.symm.trans ran')
  obtain ⟨next, step, -⟩ := Machine.run_cons.mp rest
  have stepped := step_stepped step
  -- one step performs at most one action of the core
  have short : (performs argon2 mid action).length ≤ 1 := by
    generalize performs argon2 mid action = actions at stepped
    cases stepped <;> simp
  have alone : pre = [] ∧ post = [] := by
    rw [performed] at short
    simp only [List.length_append, List.length_cons] at short
    exact ⟨List.eq_nil_of_length_eq_zero (by omega), List.eq_nil_of_length_eq_zero (by omega)⟩
  obtain ⟨rfl, rfl⟩ := alone
  rw [performed] at stepped
  refine ⟨before, action, mid, next, ⟨after, by simp⟩, ran, stepped, ?_⟩
  rw [List.append_nil] at reached
  rw [coreRun, ← reached]
  exact List.mem_append_left _ made

/-- Accepted credentials are those of a user that the store had when the login asked for it, and the
    password is the user's. -/
theorem Trace.login_accepted (trace : (machine argon2 config store).Trace as d) {id : CallId}
    {c : ConnectionId} {command : LoginCommand} {authenticated : AuthenticatedIdentity}
    (accepted : LoginAccepted (coreRun argon2 config store as) id c command authenticated) :
    ∃ user, Queried argon2 config store as id c command user ∧
      argon2.Verifies command.password user.passwordHash ∧ authenticated = identity user := by
  obtain ⟨before, action, mid, next, part, reached, stepped, made⟩ := Trace.answered trace accepted
  have traced := Trace.core reached
  generalize performed : [AsterFsd.Action.answered id (.authenticated command.networkId
    command.password (.ok authenticated))] = actions at stepped
  cases stepped with
  | core outside =>
      obtain rfl := (List.cons.inj performed).1
      cases outside
  | stored | queried => cases performed
  | authorized | refused => simp at performed
  | @verified id' _ c' issued command' generation user _ waiting queried =>
      simp only [List.cons.injEq, AsterFsd.Action.answered.injEq, Answer.authenticated.injEq,
        and_true] at performed
      obtain ⟨rfl, -, -, verified⟩ := performed
      obtain ⟨same, issues⟩ := called traced made waiting
      have fits := reachable_fits traced.reachable waiting
      obtain ⟨_, _, _, _, waiting', read⟩ := Trace.verifying reached queried
      cases waiting'.symm.trans waiting
      obtain rfl : c' = c := same
      obtain rfl : command' = command := by
        have named : Command.login command' = .login command := fits.symm.trans issues
        exact Command.login.inj named
      obtain ⟨-, verifies, rfl⟩ := verified_ok.mp verified.symm
      obtain ⟨rest, rfl⟩ := part
      rw [List.append_assoc]
      exact ⟨user, read.append _, verifies, rfl⟩

/-- Accepted client software was enabled on the whitelist at that moment. -/
theorem Trace.identify_accepted (trace : (machine argon2 config store).Trace as d) {id : CallId}
    {c : ConnectionId} {command : Identification}
    (accepted : IdentifyAccepted (coreRun argon2 config store as) id c command) :
    ∃ earlier mid, earlier <+: as ∧ (machine argon2 config store).Trace earlier mid ∧
      ∃ row ∈ mid.store.clientWhitelist.rows,
        database.collation.same row.clientId command.clientId = true ∧ row.enabled = true := by
  obtain ⟨before, action, mid, next, part, reached, stepped, -⟩ := Trace.answered trace accepted
  refine ⟨before, mid, (List.prefix_append _ _).trans part, reached, ?_⟩
  generalize performed : [AsterFsd.Action.answered id (.authorized command.clientId (.ok ()))] =
    actions at stepped
  cases stepped with
  | core outside =>
      obtain rfl := (List.cons.inj performed).1
      cases outside
  | stored | queried => cases performed
  | refused | verified => simp at performed
  | authorized =>
      simp only [List.cons.injEq, AsterFsd.Action.answered.injEq, Answer.authorized.injEq,
        and_true] at performed
      obtain ⟨-, asked, answered⟩ := performed
      rw [asked]
      exact (authorizeClient_ok.mp answered.symm).2

end Deployment

end AsterFsd.Persistence
