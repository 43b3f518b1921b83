import AsterFsd.Protocol.Passwords
import AsterFsd.Server.Mailboxes

/-! # Passwords are not told

Two runs of the server that receive the same frames up to the passwords of logins, and the same answers,
go through states that differ in those passwords only. What the core keeps and returns, and every frame
for every client, is the same in both.
-/

namespace AsterFsd

/-! ## The redacted server -/

def ConnectionStage.redact : ConnectionStage → ConnectionStage
  | .executing _ context call => .executing [] context call
  | .dispatching _ context dispatch proceeds => .dispatching [] context dispatch proceeds
  | stage => stage

def ConnectionTask.redact (task : ConnectionTask) : ConnectionTask :=
  { task with stage := task.stage.redact }

@[simp] theorem ConnectionTask.redact_dispatch? (task : ConnectionTask) :
    task.redact.dispatch? = task.dispatch? := by
  obtain ⟨listener, peer, challenge, stage⟩ := task
  cases stage <;> rfl

namespace Server

/-- The server without the passwords of calls and without the frames that tasks process. -/
def redact (s : Server) : Server :=
  { s with
    world := s.world.redact
    tasks := s.tasks.mapValues ConnectionTask.redact }

def Action.redact : Server.Action → Server.Action
  | .answered id answer => .answered id answer.redact
  | action => action

variable {setup : Setup} {s s' t t' : Server}

@[simp] theorem redact_world (s : Server) : s.redact.world = s.world.redact := rfl

@[simp] theorem redact_runtime (s : Server) : s.redact.runtime = s.runtime := rfl

@[simp] theorem redact_writers (s : Server) : s.redact.writers = s.writers := rfl

@[simp] theorem redact_maintenance (s : Server) : s.redact.maintenance = s.maintenance := rfl

@[simp] theorem lookup_redact (s : Server) (id : ConnectionId) :
    s.redact.tasks.lookup id = (s.tasks.lookup id).map ConnectionTask.redact :=
  KeyedMap.lookup_mapValues ConnectionTask.redact s.tasks id

theorem redact_advance (s : Server) (id : ConnectionId) (task : ConnectionTask)
    (stage : ConnectionStage) :
    (s.advance id task stage).redact = s.redact.advance id task.redact stage.redact := by
  simp only [redact, advance, KeyedMap.mapValues_insert]
  rfl

theorem redact_finish (s : Server) (id : ConnectionId) :
    (s.finish id).redact = s.redact.finish id := by
  simp only [redact, finish, KeyedMap.mapValues_erase]

@[simp] theorem hasSender_redact (s : Server) (id : ConnectionId) :
    s.redact.hasSender id = s.hasSender id := by
  simp [hasSender, redact, KeyedMap.values_mapValues, Function.comp_def]

theorem dispatchOf_redact (s : Server) (task : TaskId) :
    s.redact.dispatchOf task = s.dispatchOf task := by
  cases task with
  | maintenance => rfl
  | connection id =>
      simp only [dispatchOf, lookup_redact]
      cases s.tasks.lookup id with
      | none => rfl
      | some task => exact task.redact_dispatch?

theorem redact_afterSection (s : Server) (id : ConnectionId) (task : ConnectionTask)
    (runtime : Runtime) (rest : Option Dispatch) :
    (s.afterSection id task runtime rest).redact = s.redact.afterSection id task.redact runtime rest := by
  have same : afterDispatch id runtime task.redact.stage rest =
      ((afterDispatch id runtime task.stage rest).1,
        (afterDispatch id runtime task.stage rest).2.map ConnectionStage.redact) := by
    obtain ⟨listener, peer, challenge, stage⟩ := task
    cases stage with
    | dispatching frame context dispatch proceeds =>
        cases rest with
        | none => cases proceeds <;> rfl
        | some dispatch => rfl
    | leaving dispatch installed =>
        cases rest with
        | none => cases installed <;> rfl
        | some dispatch => rfl
    | _ => rfl
  unfold afterSection
  rw [same]
  cases afterDispatch id runtime task.stage rest with
  | mk runtime stage =>
      cases stage with
      | none => exact redact_finish { s with runtime } id
      | some stage => exact redact_advance { s with runtime } id task stage

/-! ## Steps -/

private theorem redact_found {id : ConnectionId} {task : ConnectionTask}
    (found : s.tasks.lookup id = some task) : s.redact.tasks.lookup id = some task.redact := by
  rw [lookup_redact, found]
  rfl

private theorem redact_afterHandshake (id : ConnectionId) (task : ConnectionTask) (written : Bool) :
    (afterHandshake setup id task written).redact = afterHandshake setup id task written := by
  unfold afterHandshake
  split
  · rfl
  · split <;> rfl

/-- The effects that a call is about to return. -/
def returned (s : Server) (call : CallId) : Effects :=
  (s.world.calls.lookup call).elim {} (·.stage.effects)

theorem returned_redact (s : Server) (call : CallId) : s.redact.returned call = s.returned call := by
  simp only [returned, redact_world, World.lookup_redact]
  cases s.world.calls.lookup call with
  | none => rfl
  | some call => exact call.stage.redact_effects

theorem dispatchStep_redact {task : TaskId} (step : s.dispatchStep setup task = some s') :
    s.redact.dispatchStep setup task = some s'.redact := by
  cases task with
  | maintenance =>
      obtain ⟨dispatch, holds, step⟩ := Option.bind_eq_some_iff.mp step
      refine Option.bind_eq_some_iff.mpr ⟨dispatch, holds, ?_⟩
      cases step
      rfl
  | connection id =>
      obtain ⟨task, found, step⟩ := Option.bind_eq_some_iff.mp step
      obtain ⟨dispatch, holds, step⟩ := Option.bind_eq_some_iff.mp step
      refine Option.bind_eq_some_iff.mpr ⟨task.redact, redact_found found, ?_⟩
      refine Option.bind_eq_some_iff.mpr ⟨dispatch, task.redact_dispatch?.trans holds, ?_⟩
      cases step
      simp only [redact_afterSection]
      rfl

theorem receiveStep_redact {id : ConnectionId} (step : s.receiveStep id = some s') :
    s.redact.receiveStep id = some s'.redact := by
  obtain ⟨writer, stored, step⟩ := Option.bind_eq_some_iff.mp step
  obtain ⟨mailbox, found, step⟩ := Option.bind_eq_some_iff.mp step
  refine Option.bind_eq_some_iff.mpr ⟨writer, stored, ?_⟩
  refine Option.bind_eq_some_iff.mpr ⟨mailbox, found, ?_⟩
  split at step
  · cases step
  · rename_i waits
    rw [if_neg waits]
    split at step
    · rename_i message mailbox' taken
      cases message with
      | frames batch =>
          cases step
          rfl
      | close =>
          cases step
          rfl
    · split at step
      · cases step
      · rename_i alone
        cases step
        exact if_neg (fun held => alone ((hasSender_redact s id).symm.trans held))

theorem sendStep_redact {id : ConnectionId} {written : Bool} (step : s.sendStep id written = some s') :
    s.redact.sendStep id written = some s'.redact := by
  obtain ⟨writer, stored, step⟩ := Option.bind_eq_some_iff.mp step
  refine Option.bind_eq_some_iff.mpr ⟨writer, stored, ?_⟩
  split at step
  · split at step
    · rename_i passes
      cases step
      exact if_pos passes
    · rename_i fails
      cases step
      exact if_neg fails
  · cases step

/-- Every step but the receipt of a frame is a step of the redacted server to the redacted state. -/
theorem step_redact {action : Server.Action} (other : ∀ id bytes, action ≠ .frame id bytes)
    (step : s.step setup action = some s') :
    s.redact.step setup action.redact = some s'.redact := by
  cases action with
  | accept peer listener challenge =>
      simp only [Server.step] at step
      split at step
      · cases step
      · rename_i fresh
        cases step
        have fresh' : ¬ ((⟨s.nextConnectionId⟩ : ConnectionId) ∈ s.redact.tasks ∨
            (⟨s.nextConnectionId⟩ : ConnectionId) ∈ s.world.registered) := by
          rw [show (⟨s.nextConnectionId⟩ : ConnectionId) ∈ s.redact.tasks ↔ _ from
            KeyedMap.mem_mapValues ConnectionTask.redact]
          exact fresh
        refine (if_neg fresh').trans ?_
        simp only [redact, KeyedMap.mapValues_insert]
        rfl
  | register id =>
      obtain ⟨task, found, step⟩ := Option.bind_eq_some_iff.mp step
      refine Option.bind_eq_some_iff.mpr ⟨task.redact, redact_found found, ?_⟩
      split at step
      · rename_i stage
        obtain ⟨world, moved, step⟩ := Option.bind_eq_some_iff.mp step
        have stage' : task.redact.stage = .accepted := congrArg ConnectionStage.redact stage
        simp only [stage']
        refine Option.bind_eq_some_iff.mpr ⟨world.redact, World.step_redact moved, ?_⟩
        split at step
        · rename_i accepted
          cases step
          have accepted' : (Network.register setup.core s.redact.world.state id task.redact.peer
            task.redact.listener.protocol).2 = .ok () := accepted
          simp only [accepted', redact_advance]
          rfl
        · rename_i error refused
          cases step
          have refused' : (Network.register setup.core s.redact.world.state id task.redact.peer
            task.redact.listener.protocol).2 = .error error := refused
          simp only [refused', redact_advance]
          rfl
      · cases step
  | refuse id =>
      obtain ⟨task, found, step⟩ := Option.bind_eq_some_iff.mp step
      refine Option.bind_eq_some_iff.mpr ⟨task.redact, redact_found found, ?_⟩
      split at step
      · rename_i frames stage
        cases step
        have stage' : task.redact.stage = .refusing frames := congrArg ConnectionStage.redact stage
        simp only [stage', redact_finish]
        rfl
      · cases step
  | handshake id written =>
      obtain ⟨task, found, step⟩ := Option.bind_eq_some_iff.mp step
      refine Option.bind_eq_some_iff.mpr ⟨task.redact, redact_found found, ?_⟩
      split at step
      · rename_i stage
        cases step
        have stage' : task.redact.stage = .handshaking := congrArg ConnectionStage.redact stage
        simp only [stage', redact_advance, redact_afterHandshake]
        rfl
      · cases step
  | install id =>
      obtain ⟨task, found, step⟩ := Option.bind_eq_some_iff.mp step
      refine Option.bind_eq_some_iff.mpr ⟨task.redact, redact_found found, ?_⟩
      split at step
      · rename_i stage
        cases step
        have stage' : task.redact.stage = .installing := congrArg ConnectionStage.redact stage
        simp only [stage', redact_advance]
        rfl
      · cases step
  | frame id bytes => exact absurd rfl (other id bytes)
  | lock id =>
      obtain ⟨task, found, step⟩ := Option.bind_eq_some_iff.mp step
      refine Option.bind_eq_some_iff.mpr ⟨task.redact, redact_found found, ?_⟩
      split at step
      · rename_i stage
        obtain ⟨world, moved, step⟩ := Option.bind_eq_some_iff.mp step
        cases step
        have stage' := congrArg ConnectionStage.redact stage
        rw [show task.redact.stage = _ from stage']
        exact Option.bind_eq_some_iff.mpr ⟨world.redact, World.step_redact moved, rfl⟩
      · cases step
  | answered id answer =>
      obtain ⟨task, found, step⟩ := Option.bind_eq_some_iff.mp step
      refine Option.bind_eq_some_iff.mpr ⟨task.redact, redact_found found, ?_⟩
      split at step
      · rename_i stage
        obtain ⟨world, moved, step⟩ := Option.bind_eq_some_iff.mp step
        cases step
        have stage' := congrArg ConnectionStage.redact stage
        rw [show task.redact.stage = _ from stage']
        exact Option.bind_eq_some_iff.mpr ⟨world.redact, World.step_redact moved, rfl⟩
      · cases step
  | executed id =>
      obtain ⟨task, found, step⟩ := Option.bind_eq_some_iff.mp step
      refine Option.bind_eq_some_iff.mpr ⟨task.redact, redact_found found, ?_⟩
      split at step
      · rename_i frame context call stage
        obtain ⟨world, moved, step⟩ := Option.bind_eq_some_iff.mp step
        cases step
        have stage' := congrArg ConnectionStage.redact stage
        rw [show task.redact.stage = _ from stage']
        refine Option.bind_eq_some_iff.mpr ⟨world.redact, World.step_redact moved, ?_⟩
        have same := returned_redact s call
        unfold returned at same
        simp only [same, redact_advance]
        rfl
      · cases step
  | leave id =>
      obtain ⟨task, found, step⟩ := Option.bind_eq_some_iff.mp step
      refine Option.bind_eq_some_iff.mpr ⟨task.redact, redact_found found, ?_⟩
      split at step
      · rename_i stage
        cases step
        have stage' : task.redact.stage = .reading := congrArg ConnectionStage.redact stage
        simp only [stage', redact_advance]
        rfl
      · cases step
  | remove id =>
      obtain ⟨task, found, step⟩ := Option.bind_eq_some_iff.mp step
      refine Option.bind_eq_some_iff.mpr ⟨task.redact, redact_found found, ?_⟩
      split at step
      · rename_i stage
        cases step
        have stage' : task.redact.stage = .removing := congrArg ConnectionStage.redact stage
        simp only [stage', redact_advance]
        rfl
      · cases step
  | disconnect id =>
      obtain ⟨task, found, step⟩ := Option.bind_eq_some_iff.mp step
      refine Option.bind_eq_some_iff.mpr ⟨task.redact, redact_found found, ?_⟩
      split at step
      · rename_i reason installed stage
        obtain ⟨world, moved, step⟩ := Option.bind_eq_some_iff.mp step
        cases step
        have stage' := congrArg ConnectionStage.redact stage
        rw [show task.redact.stage = _ from stage']
        refine Option.bind_eq_some_iff.mpr ⟨world.redact, World.step_redact moved, ?_⟩
        have same : s.redact.world.committed setup.core (.disconnect id reason) =
          s.world.committed setup.core (.disconnect id reason) := World.committed_redact moved
        simp only [same, redact_advance]
        rfl
      · cases step
  | join id =>
      obtain ⟨task, found, step⟩ := Option.bind_eq_some_iff.mp step
      obtain ⟨writer, stored, step⟩ := Option.bind_eq_some_iff.mp step
      refine Option.bind_eq_some_iff.mpr ⟨task.redact, redact_found found, ?_⟩
      refine Option.bind_eq_some_iff.mpr ⟨writer, stored, ?_⟩
      split at step
      · rename_i stage ended
        cases step
        have stage' : task.redact.stage = .joining := congrArg ConnectionStage.redact stage
        simp only [stage', ended, redact_finish]
        rfl
      · cases step
  | windDelta speed direction =>
      simp only [Server.step] at step
      split at step
      · cases step
      · rename_i idle
        obtain ⟨world, moved, step⟩ := Option.bind_eq_some_iff.mp step
        cases step
        have same : s.redact.world.committed setup.core (.windDelta speed direction) =
          s.world.committed setup.core (.windDelta speed direction) := World.committed_redact moved
        simp only [Action.redact, Server.step, redact_maintenance, idle]
        refine Option.bind_eq_some_iff.mpr ⟨world.redact, World.step_redact moved, ?_⟩
        simp only [same]
        rfl
  | dispatch task => exact dispatchStep_redact step
  | receive id => exact receiveStep_redact step
  | send id written => exact sendStep_redact step

/-! ## Alike actions -/

/-- The actions are the same but for the passwords: of two login frames, or of the question that the
    authenticator answers, which it answers alike. -/
inductive ActionsAlike (json : SerdeJson) (s : Server) : Server.Action → Server.Action → Prop where
  | same (action : Server.Action) : ActionsAlike json s action action
  | frame {id : ConnectionId} {frame frame' : List UInt8}
      (login : ∀ task, s.tasks.lookup id = some task → task.backend.SameLogin json frame frame') :
      ActionsAlike json s (.frame id frame) (.frame id frame')
  | answered {id : ConnectionId} {networkId password password' : String}
      {answer : Except AuthError AuthenticatedIdentity} :
      ActionsAlike json s (.answered id (.authenticated networkId password answer))
        (.answered id (.authenticated networkId password' answer))

/-- The next frame of a task decodes alike in both runs. -/
def DecodesAlike (json : SerdeJson) (s : Server) (id : ConnectionId) (frame frame' : List UInt8) :
    Prop :=
  ∀ task, s.tasks.lookup id = some task → ∀ context,
    redactDecoded (task.backend.decode json context frame) =
      redactDecoded (task.backend.decode json context frame')

/-- Alike actions are two frames that decode alike, or the same action once it is redacted. -/
theorem ActionsAlike.cases {json : SerdeJson} {action action' : Server.Action}
    (alike : ActionsAlike json s action action') :
    (∃ id frame frame', action = .frame id frame ∧ action' = .frame id frame' ∧
      DecodesAlike json s id frame frame') ∨
    (∀ id frame, action ≠ .frame id frame) ∧ (∀ id frame, action' ≠ .frame id frame) ∧
      action.redact = action'.redact := by
  cases alike with
  | same =>
      cases action with
      | frame id frame => exact .inl ⟨id, frame, frame, rfl, rfl, fun _ _ _ => rfl⟩
      | _ => exact .inr ⟨nofun, nofun, rfl⟩
  | frame login =>
      exact .inl ⟨_, _, _, rfl, rfl, fun task found context =>
        ProtocolBackend.decode_sameLogin (login task found) context⟩
  | answered => exact .inr ⟨nofun, nofun, rfl⟩

/-! ## Frames -/

theorem redacted_state (related : s.redact = t.redact) : s.world.state = t.world.state := by
  have worlds : s.world.redact = t.world.redact := congrArg Server.world related
  rw [← World.redact_state s.world, worlds, World.redact_state]

theorem redacted_tasks (related : s.redact = t.redact) {id : ConnectionId} {task : ConnectionTask}
    (found : s.tasks.lookup id = some task) :
    ∃ task', t.tasks.lookup id = some task' ∧ task.redact = task'.redact ∧
      task.backend = task'.backend ∧ task.challenge = task'.challenge := by
  have same : (s.tasks.lookup id).map ConnectionTask.redact =
      (t.tasks.lookup id).map ConnectionTask.redact := by
    rw [← lookup_redact, ← lookup_redact, related]
  rw [found] at same
  obtain ⟨task', found', redacted⟩ := Option.map_eq_some_iff.mp same.symm
  have backends : task.redact.backend = task'.redact.backend := by rw [redacted]
  have challenges : task.redact.challenge = task'.redact.challenge := by rw [redacted]
  exact ⟨task', found', redacted.symm, backends, challenges⟩

/-- What a frame is decoded to does not tell the runs apart. -/
theorem decoded_alike {json : SerdeJson} {id : ConnectionId} {frame frame' : List UInt8}
    {task task' : ConnectionTask} (related : s.redact = t.redact)
    (alike : DecodesAlike json s id frame frame') (found : s.tasks.lookup id = some task)
    (found' : t.tasks.lookup id = some task') :
    redactDecoded (task.backend.decode json (s.decodeContext id task.challenge) frame) =
      redactDecoded (task'.backend.decode json (t.decodeContext id task'.challenge) frame') := by
  obtain ⟨other, same, -, backend, -⟩ := redacted_tasks related found
  obtain rfl := Option.some.inj (found'.symm.trans same)
  rw [alike task found, backend]
  cases task'.backend <;> rfl

private theorem decodeErrorEffects_congr {context : DecodeContext} {error error' : ProtocolError}
    (same : error.errorCode = error'.errorCode) :
    decodeErrorEffects context error = decodeErrorEffects context error' := by
  simp only [decodeErrorEffects, same]

private theorem closesConnection_congr {context : DecodeContext} {error error' : ProtocolError}
    (kind : error.kind = error'.kind) (same : error.errorCode = error'.errorCode) :
    closesConnection context error = closesConnection context error' := by
  simp only [closesConnection, kind, same]

/-- The receipt of frames that decode alike leads to states that differ in passwords only. -/
theorem frame_alike {id : ConnectionId} {frame frame' : List UInt8} (related : s.redact = t.redact)
    (alike : DecodesAlike setup.json s id frame frame')
    (step : s.step setup (.frame id frame) = some s')
    (step' : t.step setup (.frame id frame') = some t') : s'.redact = t'.redact := by
  have worlds : s.world.redact = t.world.redact := congrArg Server.world related
  have contexts : ∀ challenge, s.decodeContext id challenge = t.decodeContext id challenge := by
    intro challenge
    unfold decodeContext
    rw [← World.redact_state, worlds, World.redact_state]
  have calls : s.world.nextCall = t.world.nextCall := by
    rw [← World.redact_nextCall, worlds, World.redact_nextCall]
  cases step_stepped step with
  | @decoded _ _ task command world found stage decodes moved =>
      obtain ⟨other, same, tasks, -, challenge⟩ := redacted_tasks related found
      cases step_stepped step' with
      | @decoded _ _ task' command' world' found' stage' decodes' moved' =>
          obtain rfl := Option.some.inj (found'.symm.trans same)
          have told := decoded_alike related alike found found'
          rw [decodes, decodes'] at told
          have commands : command.redact = command'.redact := Except.ok.inj told
          have first := World.step_redact moved
          have second := World.step_redact moved'
          simp only [AsterFsd.Action.redact] at first
          simp only [AsterFsd.Action.redact] at second
          rw [worlds, calls, commands, second] at first
          have reached : world.redact = world'.redact := (Option.some.inj first).symm
          have left : ({ s with world } : Server).redact = { s.redact with world := world.redact } := rfl
          have right : ({ t with world := world' } : Server).redact =
            { t.redact with world := world'.redact } := rfl
          rw [redact_advance, redact_advance, left, right, related, reached, tasks, contexts, challenge,
            calls]
          rfl
      | @undecoded _ _ task' error' found' stage' fails' =>
          have told := decoded_alike related alike found found'
          rw [decodes, fails'] at told
          cases told
  | @undecoded _ _ task error found stage fails =>
      obtain ⟨other, same, tasks, -, challenge⟩ := redacted_tasks related found
      cases step_stepped step' with
      | @decoded _ _ task' command' world' found' stage' decodes' moved' =>
          have told := decoded_alike related alike found found'
          rw [fails, decodes'] at told
          cases told
      | @undecoded _ _ task' error' found' stage' fails' =>
          obtain rfl := Option.some.inj (found'.symm.trans same)
          have told := decoded_alike related alike found found'
          rw [fails, fails'] at told
          have errors : (error.kind, error.errorCode) = (error'.kind, error'.errorCode) :=
            Except.error.inj told
          have kinds := congrArg Prod.fst errors
          have codes := congrArg Prod.snd errors
          rw [redact_advance, redact_advance, related, tasks, contexts, challenge,
            decodeErrorEffects_congr codes, closesConnection_congr kinds codes]
          rfl

/-! ## What is told -/

/-- What a step of the server tells: the network state it starts from, the command it decodes, the
    effects that the core returns, the frames of a handshake, and the batch that is encoded for a
    recipient. -/
inductive Told where
  | network (state : NetworkState)
  | decoded (id : ConnectionId)
      (command : Except (ProtocolErrorKind × Option ErrorCode) Command)
  | returned (effects : Effects)
  | greeted (id : ConnectionId) (batch : Batch)
  | encoded (id : ConnectionId) (batch : Batch)

def tells (setup : Setup) (s : Server) (action : Server.Action) : List Told :=
  .network s.world.state ::
    match action with
    | .handshake id _ =>
        (s.tasks.lookup id).toList.map fun task =>
          .greeted id (task.backend.initialFrames setup.json (handshakeContext setup id task))
    | .frame id frame =>
        (s.tasks.lookup id).toList.map fun task =>
          .decoded id (redactDecoded
            (task.backend.decode setup.json (s.decodeContext id task.challenge) frame))
    | .executed id =>
        (s.tasks.lookup id).toList.flatMap fun task =>
          match task.stage with
          | .executing _ _ call => [.returned (s.returned call)]
          | _ => []
    | .disconnect id =>
        (s.tasks.lookup id).toList.flatMap fun task =>
          match task.stage with
          | .disconnecting reason _ =>
              [.returned (s.world.committed setup.core (.disconnect id reason))]
          | _ => []
    | .windDelta speed direction =>
        [.returned (s.world.committed setup.core (.windDelta speed direction))]
    | .dispatch task =>
        ((s.dispatchOf task).bind (·.batch? setup.json)).toList.map fun batch =>
          .encoded batch.1 batch.2
    | _ => []

/-- No step but the receipt of a frame tells a password. -/
theorem tells_redact (s : Server) {action : Server.Action}
    (other : ∀ id frame, action ≠ .frame id frame) :
    tells setup s.redact action.redact = tells setup s action := by
  cases action with
  | handshake id written =>
      simp only [tells, Action.redact, lookup_redact]
      cases s.tasks.lookup id <;> rfl
  | frame id frame => exact absurd rfl (other id frame)
  | executed id =>
      simp only [tells, Action.redact, lookup_redact, returned_redact]
      cases s.tasks.lookup id with
      | none => rfl
      | some task =>
          obtain ⟨listener, peer, challenge, stage⟩ := task
          cases stage <;> rfl
  | disconnect id =>
      have same : ∀ reason, s.redact.world.committed setup.core (.disconnect id reason) =
          s.world.committed setup.core (.disconnect id reason) := fun reason =>
        World.committed_redact (World.step_disconnect.mpr rfl)
      simp only [tells, Action.redact, lookup_redact, same]
      cases s.tasks.lookup id with
      | none => rfl
      | some task =>
          obtain ⟨listener, peer, challenge, stage⟩ := task
          cases stage <;> rfl
  | windDelta speed direction =>
      have same : s.redact.world.committed setup.core (.windDelta speed direction) =
          s.world.committed setup.core (.windDelta speed direction) :=
        World.committed_redact (World.step_windDelta.mpr rfl)
      simp only [tells, Action.redact, same]
      rfl
  | dispatch task =>
      simp only [tells, Action.redact, dispatchOf_redact]
      rfl
  | _ => rfl

/-- Alike steps from states that differ in passwords only lead to such states and tell the same. -/
theorem alike_step {action action' : Server.Action} (related : s.redact = t.redact)
    (alike : ActionsAlike setup.json s action action') (step : s.step setup action = some s')
    (step' : t.step setup action' = some t') :
    s'.redact = t'.redact ∧ tells setup s action = tells setup t action' := by
  obtain ⟨id, frame, frame', rfl, rfl, decodes⟩ | ⟨other, other', same⟩ := alike.cases
  · refine ⟨frame_alike related decodes step step', ?_⟩
    obtain ⟨task, found, -⟩ := Option.bind_eq_some_iff.mp step
    obtain ⟨task', found', -⟩ := redacted_tasks related found
    have decoded := decoded_alike related decodes found found'
    simp only [tells, redacted_state related, found, found', decoded, Option.toList_some, List.map_cons,
      List.map_nil]
  · have first := step_redact other step
    have second := step_redact other' step'
    rw [related, same, second] at first
    refine ⟨(Option.some.inj first).symm, ?_⟩
    rw [← tells_redact s other, ← tells_redact t other', related, same]

/-- The states differ in nothing that the core keeps or returns and nothing that a client is sent. -/
structure Indistinguishable (s t : Server) : Prop where
  network : s.world.state = t.world.state
  returned : ∀ call, s.returned call = t.returned call
  runtime : s.runtime = t.runtime
  writers : s.writers = t.writers
  dispatches : ∀ task, s.dispatchOf task = t.dispatchOf task

theorem indistinguishable (related : s.redact = t.redact) : Indistinguishable s t where
  network := redacted_state related
  returned call := by rw [← returned_redact, related, returned_redact]
  runtime := by rw [← redact_runtime, related, redact_runtime]
  writers := by rw [← redact_writers, related, redact_writers]
  dispatches task := by rw [← dispatchOf_redact, related, dispatchOf_redact]

/-- Two runs that receive the same frames up to the passwords of logins, with the same answers of the
    authenticator, tell the same at every step (the network states, the commands without their
    passwords, the effects, the frames for every client), and end in states that differ in nothing else
    that is kept or sent. -/
theorem password_noninterference (setup : Setup) (actions actions' : List Server.Action) (s s' : Server)
    (trace : (server setup).Trace actions s) (trace' : (server setup).Trace actions' s')
    (alike : (server setup).Alike (ActionsAlike setup.json) {} actions actions') :
    (server setup).history (tells setup) {} actions = (server setup).history (tells setup) {} actions' ∧
      Indistinguishable s s' := by
  have unwound : s.redact = s'.redact ∧ (server setup).history (tells setup) {} actions =
      (server setup).history (tells setup) {} actions' :=
    Machine.Alike.unwind (fun s t => s.redact = t.redact)
      (fun _ _ _ _ _ _ related alike step step' => alike_step related alike step step')
      rfl alike trace trace'
  exact ⟨unwound.2, indistinguishable unwound.1⟩

end Server

namespace Sample

/-- A pilot's login, the password left out. -/
def loginPacket (callsign : String) : RawPacket :=
  ⟨.client, "AP", callsign, "SERVER", ["1000", "", "1", "9", "1", "Ada"]⟩

/-- The pilot logs in with this password. -/
def loggingInWith (id : ConnectionId) (callsign password : String) : List Server.Action :=
  [.frame id ((loginPacket callsign).withPassword password).output, .lock id,
    .answered id (.authenticated "1000" password (.ok identity)), .lock id, .executed id]

/-- Two pilots log in one after the other, and the second is announced to the first. -/
def twoLogins (password password' : String) : List Server.Action :=
  connecting ⟨1⟩ ++ (loggingInWith ⟨1⟩ "AFR12" password ++ (sections 5 (.connection ⟨1⟩) ++
    (connecting ⟨2⟩ ++ (loggingInWith ⟨2⟩ "BAW9" password' ++ sections 9 (.connection ⟨2⟩)))))

end Sample

namespace Server

private theorem alike_loggingInWith (s : Server) (id : ConnectionId) {callsign password password' : String}
    (login : (Sample.loginPacket callsign).Login) (colonless : ':' ∉ password.toList)
    (colonless' : ':' ∉ password'.toList) :
    (server (Sample.setup 8)).Alike (ActionsAlike Sample.json) s
      (Sample.loggingInWith id callsign password) (Sample.loggingInWith id callsign password') := by
  have frames : ∀ s : Server, ActionsAlike Sample.json s
      (.frame id ((Sample.loginPacket callsign).withPassword password).output)
      (.frame id ((Sample.loginPacket callsign).withPassword password').output) := by
    intro s
    refine .frame fun task _ => ?_
    cases task.backend with
    | classic => exact .intro login colonless colonless'
    | vatsim => exact .intro login colonless colonless'
    | asterV1 => exact .refused rfl rfl
  exact ⟨frames s, fun _ _ => ⟨.same _, fun _ _ => ⟨.answered, fun _ _ => ⟨.same _, fun _ _ =>
    ⟨.same _, fun _ _ => trivial⟩⟩⟩⟩⟩

set_option maxRecDepth 8000 in
theorem password_noninterference_logins :
    (server (Sample.setup 8)).history (tells (Sample.setup 8)) {} (Sample.twoLogins "secret" "sesame") =
      (server (Sample.setup 8)).history (tells (Sample.setup 8)) {}
        (Sample.twoLogins "hunter2" "") := by
  have trace := (server (Sample.setup 8)).trace_final (Sample.twoLogins "secret" "sesame") (by decide)
  have trace' := (server (Sample.setup 8)).trace_final (Sample.twoLogins "hunter2" "") (by decide)
  have unchanged : ∀ (s : Server) (actions : List Server.Action),
      (server (Sample.setup 8)).Alike (ActionsAlike Sample.json) s actions actions :=
    Machine.Alike.refl fun s action => .same action
  have first : (Sample.loginPacket "AFR12").Login :=
    ⟨by decide, by decide, by decide, by decide, by decide⟩
  have second : (Sample.loginPacket "BAW9").Login :=
    ⟨by decide, by decide, by decide, by decide, by decide⟩
  have alike : (server (Sample.setup 8)).Alike (ActionsAlike Sample.json) {}
      (Sample.twoLogins "secret" "sesame") (Sample.twoLogins "hunter2" "") :=
    (unchanged _ _).append fun _ _ =>
      (alike_loggingInWith _ ⟨1⟩ first (by decide) (by decide)).append fun _ _ =>
        (unchanged _ _).append fun _ _ => (unchanged _ _).append fun _ _ =>
          (alike_loggingInWith _ ⟨2⟩ second (by decide) (by decide)).append fun _ _ => unchanged _ _
  exact (password_noninterference (Sample.setup 8) _ _ _ _ trace trace' alike).1

end Server

end AsterFsd
