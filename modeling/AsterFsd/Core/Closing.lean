import AsterFsd.Core.Framing

/-! # After a close

Effects that close a connection are final when the session is removed with them, as a logoff, a kill
and a disconnect do. A refused identify or login only reports the close: its session stays in the
phase it had, and a later call on the same connection is executed against it.
-/

namespace AsterFsd

open Network

/-- The step performs a section of a call on `c` or hands it an answer. -/
def ActsOn (w : World) (action : Action) (c : ConnectionId) : Prop :=
  ∃ id call, w.calls.lookup id = some call ∧ call.connectionId = c ∧
    (action = .lock id ∨ ∃ answer, action = .answered id answer)

/-- The step returns effects that close `c`, from a call that executed `command`. -/
def ReturnsClose (w : World) (action : Action) (command : Command) (c : ConnectionId) : Prop :=
  ∃ id connectionId effects reason, action = .ret id ∧
    w.calls.lookup id = some ⟨connectionId, command, .returning effects⟩ ∧
    effects.close = some ⟨c, reason⟩

/-- Once a call of the run has returned effects that close `c`, nothing that a call on `c` does later
    changes the state or reaches another connection. -/
def CloseFinal (config : CoreConfig) (as : List Action) : Prop :=
  ∀ before closing mid action after w₀ w w' command c,
    as = before ++ (closing :: mid) ++ action :: after →
    (machine config).Trace before w₀ → ReturnsClose w₀ closing command c →
    (machine config).Trace (before ++ (closing :: mid)) w → w.step config action = some w' →
    ActsOn w action c → w'.state = w.state ∧ (w.committed config action).Private c

/-- If this step returns effects that close a connection, they come from a command other than identify
    and login, or the session of the closed connection has been removed since. -/
def ClosesByRemoval (w : World) : Action → Prop
  | .ret id =>
      match w.calls.lookup id with
      | some { command, stage := .returning { close := some close, .. }, .. } =>
          command.enters = false ∨ w.state.sessions.lookup close.connectionId = none
      | _ => True
  | _ => True

instance (w : World) : (action : Action) → Decidable (ClosesByRemoval w action)
  | .ret id => by
      unfold ClosesByRemoval
      dsimp only
      split <;> infer_instance
  | .register .. | .call .. | .lock _ | .answered .. | .disconnect .. | .windDelta .. =>
      inferInstanceAs (Decidable True)

theorem ClosesByRemoval.closed {w : World} {action : Action} {command : Command} {c : ConnectionId}
    (admitted : ClosesByRemoval w action) (returns : ReturnsClose w action command c) :
    command.enters = false ∨ w.state.sessions.lookup c = none := by
  obtain ⟨id, connectionId, ⟨deliveries, close⟩, reason, rfl, found, rfl⟩ := returns
  simpa only [ClosesByRemoval, found] using admitted

variable {config : CoreConfig} {as : List Action} {w w' : World} {action : Action}
  {id : CallId} {c : ConnectionId}

/-! ## A connection without a session -/

/-- The first section of a call on a connection without a session does nothing. -/
theorem lockSection_absent {state state' : NetworkState} {command : Command} {stage : Stage}
    (absent : state.sessions.lookup c = none)
    (performed : lockSection config state c command .invoked = some (state', stage)) :
    state' = state ∧ stage = .returning {} := by
  cases command <;>
    simp only [lockSection, identifyGeneration, loginGeneration, weatherRequestCoordinates, absent,
      executeActive_absent absent, Option.some.injEq, Prod.mk.injEq] at performed <;>
    exact ⟨performed.1.symm, performed.2.symm⟩

theorem lockSection_gone {state state' : NetworkState} {command : Command} {stage stage' : Stage}
    (gone : state.sessions.lookup c = none)
    (performed : lockSection config state c command stage = some (state', stage')) :
    state' = state ∧ stage'.effects.Private c := by
  by_cases first : stage = .invoked
  · subst first
    obtain ⟨rfl, rfl⟩ := lockSection_absent gone performed
    exact ⟨rfl, Effects.private_empty c⟩
  · cases lockSection_sectioned performed with
    | refused refusal => exact ⟨rfl, refusal.private⟩
    | identifyRead | loginRead | weatherRead | executed => exact absurd rfl first
    | identified found | activated found => simp [gone] at found

theorem Network.Answered.private {stage stage' : Stage} {answer : Answer}
    (outcome : Answered c stage answer stage') : stage'.effects.Private c := by
  cases outcome with
  | unauthorized refusal | rejected refusal => exact refusal.private
  | observed => exact send_private c _
  | authorized | authenticated => exact Effects.private_empty c

/-- Whatever a call on a connection without a session does, it changes nothing and answers at most its
    own connection. -/
theorem acts_gone (gone : w.state.sessions.lookup c = none)
    (step : w.step config action = some w') (acts : ActsOn w action c) :
    w'.state = w.state ∧ (w.committed config action).Private c := by
  obtain ⟨id, call, found, rfl, rfl | ⟨answer, rfl⟩⟩ := acts
  · obtain ⟨call', state, stage, stored, performed, rfl⟩ := World.step_lock.mp step
    obtain rfl : call = call' := Option.some.inj (found.symm.trans stored)
    rw [World.committed_lock stored performed]
    exact lockSection_gone gone performed
  · obtain ⟨call', stage, stored, received, rfl⟩ := World.step_answered.mp step
    obtain rfl : call = call' := Option.some.inj (found.symm.trans stored)
    rw [World.committed_answered stored received]
    exact ⟨rfl, (answerStage_answered received).private⟩

/-! ## Closes in flight -/

/-- What holds of a call once it has found a session: its connection is registered, and so is the one
    that its effects close, which has lost its session unless the call was to bring it in. -/
def Underway (w : World) (call : Call) : Prop :=
  match call.stage with
  | .invoked | .observing .. => True
  | .authorizing .. | .identifying .. | .authenticating .. | .activating .. =>
      call.connectionId ∈ w.registered
  | .returning effects =>
      ∀ close, effects.close = some close → close.connectionId ∈ w.registered ∧
        (call.command.enters = false → w.state.sessions.lookup close.connectionId = none)

theorem Underway.step {call : Call} (underway : Underway w call)
    (step : w.step config action = some w') : Underway w' call := by
  obtain ⟨c, command, stage⟩ := call
  cases stage with
  | invoked | observing => trivial
  | authorizing | identifying | authenticating | activating =>
      exact World.step_registered step underway
  | returning effects =>
      intro close closes
      obtain ⟨registered, gone⟩ := underway close closes
      exact ⟨World.step_registered step registered,
        fun removal => World.step_gone step registered (gone removal)⟩

private theorem disconnectLocked_close {state : NetworkState} {reason : String}
    {close : CloseConnection} (closes : (disconnectLocked state c reason).2.close = some close) :
    close.connectionId = c ∧ ∃ session, state.sessions.lookup c = some session := by
  cases found : state.sessions.lookup c with
  | none => simp [disconnectLocked_absent found] at closes
  | some session =>
      simp only [disconnectLocked_present found, Option.some.injEq] at closes
      exact ⟨by rw [← closes], session, rfl⟩

/-- A command of an active session closes only a connection whose session it removes. -/
private theorem Network.Executed.closes {state : NetworkState} {command : Command}
    {result : NetworkState × Effects} (outcome : Executed state c command result)
    {close : CloseConnection} (closes : result.2.close = some close) :
    (∃ session, state.sessions.lookup close.connectionId = some session) ∧
      result.1.sessions.lookup close.connectionId = none := by
  cases outcome with
  | kept _ _ stays => simp [stays] at closes
  | moved | filed => simp at closes
  | left issuer =>
      obtain rfl := Option.some.inj closes
      exact ⟨⟨_, issuer.1⟩, by simp [Change.apply, Change.removed_sessions]⟩
  | killed issuer online permitted =>
      have removal : ∀ other : Option CloseConnection, (other <|> none) = other := by simp
      simp only [Effects.extend, killNotices, send_close, removal] at closes
      obtain ⟨rfl, stored⟩ := disconnectLocked_close closes
      exact ⟨stored, by simp [disconnectLocked_fst, Change.removed_sessions]⟩

private theorem Underway.performed (reach : (machine config).Reachable w) {call : Call}
    {state : NetworkState} {stage : Stage} (fits : call.Fits) (underway : Underway w call)
    (performed : lockSection config w.state call.connectionId call.command call.stage =
      some (state, stage)) : Underway { w with state } { call with stage } := by
  obtain ⟨c, command, before⟩ := call
  have known : ∀ session, w.state.sessions.lookup c = some session → c ∈ w.registered :=
    fun session => reachable_registered reach
  cases lockSection_sectioned performed with
  | identifyRead found | loginRead found => exact known _ found
  | weatherRead => trivial
  | identified => simp [Underway]
  | activated =>
      intro close closes
      simp [loginEffects_close] at closes
  | executed outcome =>
      intro close closes
      obtain ⟨⟨session, stored⟩, gone⟩ := outcome.closes closes
      exact ⟨reachable_registered reach stored, fun _ => gone⟩
  | @refused _ _ effects refusal entry =>
      intro close closes
      rw [refusal.close closes]
      cases before with
      | invoked =>
          have entering : command.enters = true := by
            obtain stays | entering | later := entry
            · simp [stays] at closes
            · exact entering
            · exact absurd rfl later
          refine ⟨?_, by simp [entering]⟩
          cases found : w.state.sessions.lookup c with
          | none =>
              obtain ⟨-, silent⟩ := lockSection_absent found performed
              cases silent
              cases closes
          | some session => exact known session found
      | identifying | activating =>
          refine ⟨underway, ?_⟩
          rw [show command = _ from fits]
          rintro ⟨⟩
      | authorizing | authenticating | observing | returning => cases performed

private theorem Underway.answered {call : Call} {stage : Stage} {answer : Answer}
    (fits : call.Fits) (underway : Underway w call)
    (outcome : Answered call.connectionId call.stage answer stage) :
    Underway w { call with stage } := by
  obtain ⟨c, command, before⟩ := call
  cases outcome with
  | authorized | authenticated => exact underway
  | unauthorized refusal | rejected refusal =>
      intro close closes
      rw [refusal.close closes]
      refine ⟨underway, ?_⟩
      rw [show command = _ from fits]
      rintro ⟨⟩
  | observed =>
      intro close closes
      simp at closes

/-- In every reachable state the closes in flight are of registered connections, and those of a logoff
    or a kill are of connections without a session. -/
theorem reachable_underway (reach : (machine config).Reachable w) {call : Call}
    (found : w.calls.lookup id = some call) : Underway w call := by
  have all : ∀ id call, w.calls.lookup id = some call → Underway w call := by
    obtain ⟨as, trace⟩ := reach
    refine trace.invariant (fun _ w => ∀ id call, w.calls.lookup id = some call → Underway w call)
      (by simp [machine]) ?_
    intro as w action w' trace held step id call found
    obtain stored | ⟨c, command, rfl, -, rfl⟩ | ⟨before, stage, rfl, stored, rfl, performed⟩ |
      ⟨before, answer, stage, rfl, stored, rfl, outcome⟩ := World.step_calls step found
    · exact (held id call stored).step step
    · trivial
    · have reached := Underway.performed trace.reachable (reachable_fits trace.reachable stored)
        (held id before stored) performed
      obtain ⟨_, state, _, stored', performed', rfl⟩ := World.step_lock.mp step
      obtain rfl := Option.some.inj (stored.symm.trans stored')
      exact reached
    · exact ((held id before stored).answered (reachable_fits trace.reachable stored) outcome).step
        step
  exact all id call found

/-! ## Finality -/

/-- In a run in which effects that close a connection are returned only by commands other than
    identify and login, or once the session of that connection has been removed, every close is
    final. -/
theorem close_final_of_removal (config : CoreConfig) (as : List Action)
    (removals : (machine config).Along ClosesByRemoval {} as) : CloseFinal config as := by
  intro before closing mid action after w₀ w₁ w₂ command c split ran returns ran' step acts
  have admitted : ClosesByRemoval w₀ closing :=
    Machine.along_iff.mp removals before closing (mid ++ action :: after) w₀
      (by rw [split]; simp) ran
  have gone : w₀.state.sessions.lookup c = none ∧ c ∈ w₀.registered := by
    obtain ⟨id, connectionId, effects, reason, rfl, found, closes⟩ := returns
    obtain ⟨registered, removed⟩ := reachable_underway (Machine.Trace.reachable ran) found _ closes
    obtain removal | absent :=
      admitted.closed ⟨id, connectionId, effects, reason, rfl, found, closes⟩
    · exact ⟨removed removal, registered⟩
    · exact ⟨absent, registered⟩
  obtain ⟨_, ran₀, rest⟩ := Machine.run_append.mp ran'
  obtain rfl := Option.some.inj (ran.symm.trans ran₀)
  exact acts_gone (World.run_gone rest gone.2 gone.1).2 step acts

/-! ## A login after a close -/

namespace Sample

/-- A login with a wrong password is refused with a close, and another login call follows. -/
def refusedThenLogin : List Action :=
  [.register ⟨1⟩ peer .classic, .call 0 ⟨1⟩ (.login login), .lock 0,
    .answered 0 (.authenticated "1000" "secret" (.error .invalidCredentials)), .ret 0,
    .call 1 ⟨1⟩ (.login login), .lock 1, .answered 1 (.authenticated "1000" "secret" (.ok identity))]

def logoffRun : List Action :=
  loginRun ++ [.ret 0, .call 1 ⟨1⟩ (.logoff callsign), .lock 1, .ret 1]

end Sample

theorem refused_login_not_final :
    ¬ ∀ config as w, (machine config).Trace as w → CloseFinal config as := by
  intro all
  have before := (machine Sample.config).trace_final (Sample.refusedThenLogin.take 4) (by decide)
  have prior := (machine Sample.config).trace_final Sample.refusedThenLogin (by decide)
  have trace := (machine Sample.config).trace_final (Sample.refusedThenLogin ++ [.lock 1]) (by decide)
  obtain ⟨mid, ran, step⟩ := Machine.run_concat.mp trace
  obtain rfl := Option.some.inj (prior.symm.trans ran)
  have unchanged := (all Sample.config _ _ trace (Sample.refusedThenLogin.take 4) (.ret 0)
    (Sample.refusedThenLogin.drop 5) (.lock 1) [] _ _ _ (.login Sample.login) ⟨1⟩ rfl before
    ⟨0, ⟨1⟩, _, _, rfl, rfl, rfl⟩ prior step ⟨1, _, rfl, rfl, .inl rfl⟩).1
  have absent : ((machine Sample.config).final Sample.refusedThenLogin
      (by decide)).state.callsigns.lookup Sample.callsign = none := by decide
  have present : ((machine Sample.config).final (Sample.refusedThenLogin ++ [.lock 1])
      (by decide)).state.callsigns.lookup Sample.callsign = some ⟨1⟩ := by decide
  rw [unchanged, absent] at present
  cases present

theorem close_final_of_removal_logoff : CloseFinal Sample.config Sample.logoffRun :=
  close_final_of_removal Sample.config Sample.logoffRun (by decide)

end AsterFsd
