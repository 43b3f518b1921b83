import AsterFsd.Core.Verdicts
import AsterFsd.Persistence.Accounts

/-! # What failures give away

A login that fails does so for a reason that the server keeps: an unknown user, a row that cannot be
read, a malformed hash, a wrong password and a broken database are one to the network. Only who has
presented the right password is told what the rating of the account forbids.
-/

namespace AsterFsd.Persistence

open SeaOrmAuthenticator Deployment

variable {database : Database} {argon2 : Argon2} {config : CoreConfig} {store : Store database}
  {as : List (Deployment.Action database)} {d : Deployment database}

/-! ## Failures are one -/

/-- The action with the reason of a failed check left out. -/
def blunt : AsterFsd.Action → AsterFsd.Action
  | .answered id (.authorized clientId (.error _)) =>
      .answered id (.authorized clientId (.error .clientNotAuthorized))
  | .answered id (.authenticated networkId password (.error error)) =>
      .answered id (.authenticated networkId password
        (.error (if error = .suspended then .suspended else .invalidCredentials)))
  | action => action

/-- What a call makes of an answer does not depend on the reason of a failure. -/
theorem perform_blunt (w : World) (action : AsterFsd.Action) :
    w.perform config (blunt action) = w.perform config action := by
  have received : ∀ c stage error clientId, Network.answerStage c stage
      (.authorized clientId (.error error)) =
        Network.answerStage c stage (.authorized clientId (.error .clientNotAuthorized)) := by
    intro c stage error clientId
    cases stage <;> rfl
  have rejected : ∀ c stage error networkId password, Network.answerStage c stage
      (.authenticated networkId password (.error error)) =
        Network.answerStage c stage (.authenticated networkId password
          (.error (if error = .suspended then .suspended else .invalidCredentials))) := by
    intro c stage error networkId password
    cases stage with
    | authenticating => cases error <;> rfl
    | _ => rfl
  unfold blunt
  split
  · rename_i id clientId error
    simp only [World.perform, received _ _ error]
  · rename_i id networkId password error
    simp only [World.perform, rejected _ _ error]
  · rfl

/-- What the core has done came from a step of the run. -/
private theorem Trace.performed (trace : (machine argon2 config store).Trace as d)
    {action : AsterFsd.Action} (done : action ∈ coreRun argon2 config store as) :
    ∃ (mid next : Deployment database) (a : Deployment.Action database)
      (actions : List AsterFsd.Action), Stepped argon2 config mid a actions next ∧
        action ∈ actions := by
  obtain ⟨before, a, after, mid, rfl, ran, member⟩ := Machine.mem_history done
  obtain ⟨mid', ran', rest⟩ := Machine.run_append.mp trace
  obtain rfl : mid = mid' := Option.some.inj (ran.symm.trans ran')
  obtain ⟨next, step, -⟩ := Machine.run_cons.mp rest
  exact ⟨mid, next, a, _, step_stepped step, member⟩

/-- The store suspends nobody. -/
private theorem Trace.unsuspended (trace : (machine argon2 config store).Trace as d) {id : CallId}
    {networkId password : String} {error : AuthError}
    (done : .answered id (.authenticated networkId password (.error error)) ∈
      coreRun argon2 config store as) : error ≠ .suspended := by
  obtain ⟨mid, next, a, actions, stepped, member⟩ := Trace.performed trace done
  cases stepped with
  | core outside =>
      obtain rfl := List.mem_singleton.mp member
      cases outside
  | stored | queried => cases member
  | authorized => simp at member
  | refused _ _ failed =>
      simp only [List.mem_singleton, AsterFsd.Action.answered.injEq, Answer.authenticated.injEq,
        Except.error.injEq] at member
      obtain ⟨-, -, -, rfl⟩ := member
      rintro rfl
      exact findUser_ne_suspended failed
  | verified =>
      simp only [List.mem_singleton, AsterFsd.Action.answered.injEq, Answer.authenticated.injEq]
        at member
      obtain ⟨-, -, -, failed⟩ := member
      rintro rfl
      exact verified_ne_suspended failed.symm

private theorem blunt_authenticated {action : AsterFsd.Action} {id : CallId}
    {networkId password : String} {error : AuthError}
    (blunted : blunt action = .answered id (.authenticated networkId password (.error error))) :
    ∃ reason, action = .answered id (.authenticated networkId password (.error reason)) ∧
      error = if reason = .suspended then .suspended else .invalidCredentials := by
  unfold blunt at blunted
  split at blunted
  · cases blunted
  · rename_i reason
    cases blunted
    exact ⟨reason, rfl, rfl⟩
  · rename_i unfailed
    exact absurd blunted (unfailed id networkId password error)

private theorem blunt_authorized {action : AsterFsd.Action} {id : CallId} {clientId : String}
    {error : AuthError}
    (blunted : blunt action = .answered id (.authorized clientId (.error error))) :
    error = .clientNotAuthorized := by
  unfold blunt at blunted
  split at blunted
  · cases blunted
    rfl
  · cases blunted
  · rename_i unfailed _
    exact absurd blunted (unfailed id clientId error)

/-- Whatever the failed checks of a run failed for, the core does what it does when the authenticator
    knows one failure for client software and one for credentials: it goes through the same states
    and commits the same effects. -/
theorem failures_look_alike (argon2 : Argon2) (config : CoreConfig) (store : Store database)
    (as : List (Deployment.Action database)) (d : Deployment database)
    (trace : (machine argon2 config store).Trace as d) :
    (∀ id networkId password error,
      .answered id (.authenticated networkId password (.error error)) ∈
        (coreRun argon2 config store as).map blunt → error = .invalidCredentials) ∧
    (∀ id clientId error, .answered id (.authorized clientId (.error error)) ∈
      (coreRun argon2 config store as).map blunt → error = .clientNotAuthorized) ∧
    (∀ n, (AsterFsd.machine config).run {} (((coreRun argon2 config store as).map blunt).take n) =
      (AsterFsd.machine config).run {} ((coreRun argon2 config store as).take n)) ∧
    (AsterFsd.machine config).Trace ((coreRun argon2 config store as).map blunt) d.world ∧
    (AsterFsd.machine config).history (fun w a => [w.committed config a]) {}
        ((coreRun argon2 config store as).map blunt) =
      (AsterFsd.machine config).history (fun w a => [w.committed config a]) {}
        (coreRun argon2 config store as) := by
  have same : ∀ w action, (AsterFsd.machine config).step w (blunt action) =
      (AsterFsd.machine config).step w action :=
    fun w action => congrArg (Option.map Prod.fst) (perform_blunt w action)
  have told : ∀ w action, [World.committed config w (blunt action)] = [w.committed config action] := by
    intro w action
    simp only [World.committed, perform_blunt]
  refine ⟨?_, ?_, ?_, ?_, Machine.history_map same told _ _⟩
  · intro id networkId password error member
    obtain ⟨action, done, blunted⟩ := List.mem_map.mp member
    obtain ⟨reason, rfl, rfl⟩ := blunt_authenticated blunted
    exact if_neg (Trace.unsuspended trace done)
  · intro id clientId error member
    obtain ⟨action, done, blunted⟩ := List.mem_map.mp member
    exact blunt_authorized blunted
  · intro n
    rw [← List.map_take, Machine.run_map same]
  · exact (Machine.run_map same _ _).trans (Trace.core trace)

namespace Sample

/-- A pilot with an account asks to log in and the server looks for the account. -/
def askingRun (command : LoginCommand) : List (Deployment.Action sqlite) :=
  [.core (.register ⟨1⟩ AsterFsd.Sample.peer .classic),
    .createUser "1000" "$argon2id$secret" "Ada" .observer .privatePilotLicense 1 0 none,
    .core (.call 0 ⟨1⟩ (.login command)), .core (.lock 0), .findUser 0 none]

/-- The password is a guess. -/
def guessRun : List (Deployment.Action sqlite) :=
  askingRun { AsterFsd.Sample.login with password := "guess" } ++ [.verifyPassword 0 (.ok ())]

end Sample

theorem failures_look_alike_guess :
    ∃ d, (machine Sample.hashing AsterFsd.Sample.config Sample.fresh).Trace Sample.guessRun d ∧
      (AsterFsd.machine AsterFsd.Sample.config).Trace
        ((coreRun Sample.hashing AsterFsd.Sample.config Sample.fresh Sample.guessRun).map blunt)
        d.world := by
  have trace := (machine Sample.hashing AsterFsd.Sample.config Sample.fresh).trace_final
    Sample.guessRun (by decide)
  obtain ⟨-, -, -, blunted, -⟩ := failures_look_alike _ _ _ _ _ trace
  exact ⟨_, trace, blunted⟩

/-! ## Verdicts are earned -/

/-- Every verdict on credentials is told by a step of the authenticator, and it is right: client
    software is refused that is not enabled, credentials are invalid when no user can be read or the
    password is not confirmed, and what the rating forbids is told after the password of the account
    was confirmed. -/
theorem verdicts_earned (argon2 : Argon2) (config : CoreConfig) (store : Store database)
    (as : List (Deployment.Action database)) (d d' : Deployment database)
    (trace : (machine argon2 config store).Trace as d) (action : Deployment.Action database)
    (step : d.step argon2 config action = some d') (done : AsterFsd.Action)
    (performed : done ∈ d.performs argon2 action) (code : ErrorCode)
    (told : code ∈ (d.world.committed config done).verdicts) :
    (∃ id fault c issued command generation, action = .authorizeClient id fault ∧
      d.world.calls.lookup id = some ⟨c, issued, .authorizing command generation⟩ ∧
      code = .unauthorizedClient ∧
      (fault = none → ∀ row ∈ d.store.clientWhitelist.rows,
        database.collation.same row.clientId command.clientId = true → row.enabled = false)) ∨
    (∃ id fault c issued command generation, action = .findUser id fault ∧
      d.world.calls.lookup id = some ⟨c, issued, .authenticating command generation⟩ ∧
      code = .invalidCredentials ∧
      (fault = none → ∀ user : User.Model, user.row ∈ d.store.users.rows →
        database.collation.same user.networkId command.networkId = false)) ∨
    ∃ id joined c issued command generation user, action = .verifyPassword id joined ∧
      d.world.calls.lookup id = some ⟨c, issued, .authenticating command generation⟩ ∧
      Queried argon2 config store as id c command user ∧
      (code = .invalidCredentials ∧
          ¬ (joined = .ok () ∧ argon2.Verifies command.password user.passwordHash) ∨
        joined = .ok () ∧ argon2.Verifies command.password user.passwordHash ∧
          (code = .suspended ∧ Network.identityIsActive command (identity user) = false ∨
            code = .requestedLevelTooHigh ∧
              Network.identityIsActive command (identity user) = true ∧
              Network.ratingIsAuthorized command (identity user) = false)) := by
  have stepped := step_stepped step
  -- the action of the core is an answer to a call that waits for it
  have judged : ∀ {world : World}, d.world.step config done = some world →
      ∃ id call answer, done = .answered id answer ∧ d.world.calls.lookup id = some call ∧
        Network.Judged call.stage answer code := fun moved => World.step_verdicts moved told
  generalize d.performs argon2 action = actions at stepped performed
  cases stepped with
  | core outside moved =>
      obtain rfl := List.mem_singleton.mp performed
      obtain ⟨id, call, answer, rfl, -, verdict⟩ := judged moved
      generalize call.stage = stage at verdict
      cases verdict <;> cases outside
  | stored | queried => cases performed
  | @authorized id fault c issued command generation _ found moved =>
      obtain rfl := List.mem_singleton.mp performed
      obtain ⟨id', call, answer, same, found', verdict⟩ := judged moved
      obtain ⟨rfl, rfl⟩ := AsterFsd.Action.answered.inj same
      cases found'.symm.trans found
      refine .inl ⟨id, fault, c, issued, command, generation, rfl, found, ?_⟩
      generalize answered : authorizeClient d.store command.clientId fault = answer at verdict
      cases verdict
      refine ⟨rfl, fun working row member same => Bool.eq_false_iff.mpr fun enabled => ?_⟩
      have accepted := authorizeClient_ok.mpr ⟨working, row, member, same, enabled⟩
      cases accepted.symm.trans answered
  | @refused id fault c issued command generation error _ found _ failed moved =>
      obtain rfl := List.mem_singleton.mp performed
      obtain ⟨id', call, answer, same, found', verdict⟩ := judged moved
      obtain ⟨rfl, rfl⟩ := AsterFsd.Action.answered.inj same
      cases found'.symm.trans found
      refine .inr (.inl ⟨id, fault, c, issued, command, generation, rfl, found, ?_⟩)
      cases verdict
      refine ⟨if_neg ?_, fun working user member => Bool.eq_false_iff.mpr fun same => ?_⟩
      · rintro rfl
        exact findUser_ne_suspended failed
      · cases (findUser_ok.mpr ⟨working, member, same⟩).symm.trans failed
  | @verified id joined c issued command generation user _ found queried moved =>
      obtain rfl := List.mem_singleton.mp performed
      obtain ⟨id', call, answer, same, found', verdict⟩ := judged moved
      obtain ⟨rfl, rfl⟩ := AsterFsd.Action.answered.inj same
      cases found'.symm.trans found
      obtain ⟨_, _, _, _, waiting, read⟩ := Trace.verifying trace queried
      cases waiting.symm.trans found
      refine .inr (.inr ⟨id, joined, c, issued, command, generation, user, rfl, found, read, ?_⟩)
      generalize answered : verified argon2 user command.password joined = answer at verdict
      cases verdict with
      | @unauthenticated _ _ error =>
          refine .inl ⟨if_neg ?_, ?_⟩
          · rintro rfl
            exact verified_ne_suspended answered
          · rintro ⟨done, verifies⟩
            cases (verified_ok.mpr ⟨done, verifies, rfl⟩).symm.trans answered
      | suspended barred =>
          obtain ⟨done, verifies, rfl⟩ := verified_ok.mp answered
          refine .inr ⟨done, verifies, .inl ⟨rfl, ?_⟩⟩
          obtain suspended | inactive := barred
          · cases suspended
          · exact inactive
      | tooHigh unsuspended rated beyond =>
          obtain ⟨done, verifies, rfl⟩ := verified_ok.mp answered
          exact .inr ⟨done, verifies, .inr ⟨rfl, rated, beyond⟩⟩

namespace Sample

/-- The pilot asks for a rating above the one of the account. -/
def ambitious : LoginCommand := { AsterFsd.Sample.login with requestedRating := 3 }

end Sample

theorem verdicts_earned_ambitious :
    ∃ d, (machine Sample.hashing AsterFsd.Sample.config Sample.fresh).Trace
        (Sample.askingRun Sample.ambitious) d ∧
      .requestedLevelTooHigh ∈ (d.world.committed AsterFsd.Sample.config
        (.answered 0 (.authenticated "1000" "secret"
          (.ok ⟨"1000", "Ada", .observer, .privatePilotLicense, false⟩)))).verdicts ∧
      ∃ (user : User.Model) (password : String),
        Sample.hashing.Verifies password user.passwordHash := by
  have trace := (machine Sample.hashing AsterFsd.Sample.config Sample.fresh).trace_final
    (Sample.askingRun Sample.ambitious) (by decide)
  have step := (Option.some_get (x := Deployment.step Sample.hashing AsterFsd.Sample.config
    ((machine Sample.hashing AsterFsd.Sample.config Sample.fresh).final
      (Sample.askingRun Sample.ambitious) (by decide)) (.verifyPassword 0 (.ok ()))) (by decide)).symm
  refine ⟨_, trace, by decide, ?_⟩
  have earned := verdicts_earned _ _ _ _ _ _ trace _ step
    (.answered 0 (.authenticated "1000" "secret"
      (.ok ⟨"1000", "Ada", .observer, .privatePilotLicense, false⟩)))
    (List.mem_singleton_self _) .requestedLevelTooHigh (by decide)
  obtain ⟨_, _, _, _, _, _, other, -⟩ | ⟨_, _, _, _, _, _, other, -⟩ |
    ⟨_, _, _, _, command, _, user, -, -, -, ⟨other, -⟩ | ⟨-, verifies, -⟩⟩ := earned
  · cases other
  · cases other
  · cases other
  · exact ⟨user, command.password, verifies⟩

end AsterFsd.Persistence
