import AsterFsd.Core.World

/-! # Redaction of passwords

What the core works on with every password left out. No section of a call reads a password: the one
thing that does is the question to the authenticator, which must name the password of the call. So the
redacted core takes every step that the core takes, to the redacted state and with the same effects.
-/

namespace AsterFsd

/-! ## The data that carries a password -/

def LoginCommand.redact (command : LoginCommand) : LoginCommand := { command with password := "" }

def Command.redact : Command → Command
  | .login command => .login command.redact
  | command => command

def Stage.redact : Stage → Stage
  | .authenticating command generation => .authenticating command.redact generation
  | .activating command authenticated generation =>
      .activating command.redact authenticated generation
  | stage => stage

def Call.redact (call : Call) : Call where
  connectionId := call.connectionId
  command := call.command.redact
  stage := call.stage.redact

def Answer.redact : Answer → Answer
  | .authenticated networkId _ answer => .authenticated networkId "" answer
  | answer => answer

def Action.redact : Action → Action
  | .call id connectionId command => .call id connectionId command.redact
  | .answered id answer => .answered id answer.redact
  | action => action

def World.redact (w : World) : World :=
  { w with calls := w.calls.mapValues Call.redact }

@[simp] theorem Stage.redact_effects (stage : Stage) : stage.redact.effects = stage.effects := by
  cases stage <;> rfl

/-! ## Sections -/

namespace Network

/-- A section under the lock does not read the password. -/
theorem lockSection_redact (config : CoreConfig) (state : NetworkState) (c : ConnectionId)
    (command : Command) (stage : Stage) :
    lockSection config state c command.redact stage.redact =
      (lockSection config state c command stage).map fun result => (result.1, result.2.redact) := by
  cases stage with
  | invoked =>
      cases command with
      | identify command =>
          simp only [Command.redact, Stage.redact, lockSection]
          cases identifyGeneration state c <;> rfl
      | login command =>
          have same : loginGeneration state c command.redact = loginGeneration state c command := rfl
          simp only [Command.redact, Stage.redact, lockSection, same]
          cases loginGeneration state c command <;> rfl
      | weatherRequest source station parsed =>
          simp only [Command.redact, Stage.redact, lockSection]
          cases weatherRequestCoordinates state c source <;> rfl
      | _ => rfl
  | activating command authenticated generation =>
      have same : activateLogin config state c command.redact authenticated generation =
        activateLogin config state c command authenticated generation := rfl
      simp only [Stage.redact, lockSection, same]
      rfl
  | _ => rfl

/-- A call that received an answer to its question receives the redacted answer to the redacted one. -/
theorem answerStage_redact {c : ConnectionId} {stage stage' : Stage} {answer : Answer}
    (received : answerStage c stage answer = some stage') :
    answerStage c stage.redact answer.redact = some stage'.redact := by
  cases stage with
  | authorizing command generation =>
      cases answer with
      | authorized clientId answer =>
          simp only [Stage.redact, Answer.redact]
          rw [received]
          simp only [answerStage] at received
          split at received
          · cases received
          · split at received <;> cases received <;> rfl
      | authenticated networkId password answer => cases received
      | observed lookup answer => cases received
  | authenticating command generation =>
      cases answer with
      | authorized clientId answer => cases received
      | authenticated networkId password answer =>
          have same : loginAnswered c command.redact answer = loginAnswered c command answer := rfl
          simp only [answerStage] at received
          split at received
          · cases received
          · rename_i asked
            have named : networkId = command.networkId := by
              by_contra other
              exact asked (.inl other)
            have question : ¬ (networkId ≠ command.redact.networkId ∨ "" ≠ command.redact.password) := by
              simp [LoginCommand.redact, named]
            simp only [Stage.redact, Answer.redact, answerStage, if_neg question, same]
            split at received
            · cases received
              rfl
            · cases received
              rfl
      | observed lookup answer => cases received
  | observing source station parsed coordinates =>
      cases answer with
      | authorized clientId answer => cases received
      | authenticated networkId password answer => cases received
      | observed lookup answer =>
          simp only [Stage.redact, Answer.redact]
          rw [received]
          simp only [answerStage] at received
          split at received
          · cases received
          · cases received
            rfl
  | invoked => cases received
  | identifying command generation => cases received
  | activating command authenticated generation => cases received
  | returning effects => cases received

end Network

/-! ## Actions -/

namespace World

variable {config : CoreConfig} {w w' : World}

@[simp] theorem redact_state (w : World) : w.redact.state = w.state := rfl

@[simp] theorem redact_registered (w : World) : w.redact.registered = w.registered := rfl

@[simp] theorem redact_nextCall (w : World) : w.redact.nextCall = w.nextCall := rfl

@[simp] theorem lookup_redact (w : World) (id : CallId) :
    w.redact.calls.lookup id = (w.calls.lookup id).map Call.redact :=
  KeyedMap.lookup_mapValues Call.redact w.calls id

theorem redact_advance (w : World) (id : CallId) (call : Call) (stage : Stage) :
    (w.advance id call stage).redact = w.redact.advance id call.redact stage.redact := by
  simp only [redact, advance, KeyedMap.mapValues_insert]
  rfl

/-- The redacted core takes the redacted step, with the same effects. -/
theorem perform_redact {action : Action} {effects : Effects}
    (performed : w.perform config action = some (w', effects)) :
    w.redact.perform config action.redact = some (w'.redact, effects) := by
  cases action with
  | register c peer dialect =>
      simp only [perform] at performed
      split at performed
      · cases performed
      · rename_i fresh
        cases performed
        exact if_neg fresh
  | call id c command =>
      simp only [perform] at performed
      split at performed
      · cases performed
      · rename_i next
        cases performed
        refine (if_neg next).trans ?_
        simp only [redact, KeyedMap.mapValues_insert]
        rfl
  | lock id =>
      simp only [perform] at performed
      split at performed
      · cases performed
      · rename_i call found
        split at performed
        · cases performed
        · rename_i state stage section_
          cases performed
          have redacted := Network.lockSection_redact config w.state call.connectionId call.command
            call.stage
          rw [section_] at redacted
          simp only [Action.redact, perform, lookup_redact, found, Option.map_some, redact_state,
            Call.redact, redacted, Stage.redact_effects]
          simp only [redact, advance, KeyedMap.mapValues_insert]
          rfl
  | answered id answer =>
      simp only [perform] at performed
      split at performed
      · cases performed
      · rename_i call found
        split at performed
        · cases performed
        · rename_i stage received
          cases performed
          have redacted := Network.answerStage_redact received
          simp only [Action.redact, perform, lookup_redact, found, Option.map_some, Call.redact, redacted,
            Stage.redact_effects, redact_advance]
  | ret id =>
      simp only [perform] at performed
      split at performed
      · rename_i c command effects found
        cases performed
        simp only [Action.redact, perform, lookup_redact, found, Option.map_some, Call.redact,
          Stage.redact]
        simp only [redact, KeyedMap.mapValues_erase]
      · cases performed
  | disconnect c reason =>
      cases performed
      rfl
  | windDelta speed direction =>
      cases performed
      rfl

theorem step_redact {action : Action} (step : w.step config action = some w') :
    w.redact.step config action.redact = some w'.redact := by
  cases performed : w.perform config action with
  | none => simp [World.step, performed] at step
  | some result =>
      obtain rfl : result.1 = w' := by simpa [World.step, performed] using step
      simp [World.step, perform_redact performed]

theorem committed_redact {action : Action} (step : w.step config action = some w') :
    w.redact.committed config action.redact = w.committed config action := by
  cases performed : w.perform config action with
  | none => simp [World.step, performed] at step
  | some result => simp [committed, performed, perform_redact performed]

end World

end AsterFsd
