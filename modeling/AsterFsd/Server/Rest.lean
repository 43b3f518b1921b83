import AsterFsd.Core.Registry
import AsterFsd.Server.Cleanup
import AsterFsd.Server.Owed
import AsterFsd.Server.Settling

/-! # Coming to rest

When nothing more comes in, the server finishes what it has begun, in whatever order its tasks run, and
then it waits: every task for its next frame and every writer at an empty mailbox. When the tasks
moreover leave, nothing is left of them.
-/

namespace AsterFsd

/-- A step of the core keeps every call that does not return. -/
theorem World.step_call_kept {config : CoreConfig} {w w' : World} {action : Action}
    (step : w.step config action = some w') {id : CallId} (stays : action ≠ .ret id) {call : Call}
    (found : w.calls.lookup id = some call) :
    ∃ call', w'.calls.lookup id = some call' := by
  have inserted : ∀ id' call', ∃ call'', (w.calls.insert id' call').lookup id = some call'' := by
    intro id' call'
    by_cases here : id = id'
    · subst here
      exact ⟨_, AList.lookup_insert _⟩
    · exact ⟨call, (AList.lookup_insert_ne here).trans found⟩
  cases action with
  | register =>
      obtain ⟨-, rfl⟩ := World.step_register.mp step
      exact ⟨call, found⟩
  | call =>
      obtain ⟨-, rfl⟩ := World.step_call.mp step
      exact inserted _ _
  | lock =>
      obtain ⟨_, _, _, -, -, rfl⟩ := World.step_lock.mp step
      exact inserted _ _
  | answered =>
      obtain ⟨_, _, -, -, rfl⟩ := World.step_answered.mp step
      exact inserted _ _
  | ret id' =>
      obtain ⟨_, _, _, -, rfl⟩ := World.step_ret.mp step
      have here : id ≠ id' := by
        rintro rfl
        exact stays rfl
      exact ⟨call, (AList.lookup_erase_ne here).trans found⟩
  | disconnect =>
      obtain rfl := World.step_disconnect.mp step
      exact ⟨call, found⟩
  | windDelta =>
      obtain rfl := World.step_windDelta.mp step
      exact ⟨call, found⟩

/-- A step of the core that is no call makes none, and leaves every call to its connection. -/
theorem World.step_call_old {config : CoreConfig} {w w' : World} {action : Action}
    (step : w.step config action = some w') (old : ∀ id c command, action ≠ .call id c command)
    {id : CallId} {call : Call} (found : w'.calls.lookup id = some call) :
    ∃ before, w.calls.lookup id = some before ∧ before.connectionId = call.connectionId := by
  obtain stored | ⟨c, command, rfl, -, -⟩ | ⟨before, stage, -, stored, rfl, -⟩ |
    ⟨before, answer, stage, -, stored, rfl, -⟩ := World.step_calls step found
  · exact ⟨call, stored, rfl⟩
  · exact absurd rfl (old id c command)
  · exact ⟨before, stored, rfl⟩
  · exact ⟨before, stored, rfl⟩

/-- The call that a task at this stage executes. -/
def ConnectionStage.call? : ConnectionStage → Option CallId
  | .executing _ _ call => some call
  | _ => none

namespace Server

variable {setup : Setup} {s s' : Server} {action : Server.Action} {i id : ConnectionId}

/-! ## Calls and their tasks -/

/-- The call that the task of a connection executes. -/
def callOf (s : Server) (i : ConnectionId) : Option CallId :=
  (s.tasks.lookup i).bind (·.stage.call?)

theorem callOf_some {call : CallId} : s.callOf i = some call ↔
    ∃ task frame context, s.tasks.lookup i = some task ∧
      task.stage = .executing frame context call := by
  rw [callOf, Option.bind_eq_some_iff]
  constructor
  · rintro ⟨task, found, executes⟩
    unfold ConnectionStage.call? at executes
    split at executes
    · rename_i frame context call' stage
      cases executes
      exact ⟨task, frame, context, found, stage⟩
    · cases executes
  · rintro ⟨task, frame, context, found, stage⟩
    exact ⟨task, found, by rw [stage]; rfl⟩

theorem callOf_advance (s : Server) (id i : ConnectionId) (task : ConnectionTask)
    (stage : ConnectionStage) :
    (s.advance id task stage).callOf i = if i = id then stage.call? else s.callOf i := by
  rw [callOf, lookup_advance]
  split <;> rfl

theorem callOf_finish (s : Server) (id i : ConnectionId) :
    (s.finish id).callOf i = if i = id then none else s.callOf i := by
  rw [callOf, lookup_finish]
  split <;> rfl

theorem callOf_afterSection {task : ConnectionTask} {dispatch : Dispatch} {runtime : Runtime}
    {rest : Option Dispatch} (found : s.tasks.lookup id = some task)
    (holds : task.dispatch? = some dispatch) (i : ConnectionId) :
    (s.afterSection id task runtime rest).callOf i = s.callOf i := by
  rw [callOf, lookup_afterSection]
  split
  · rename_i here
    subst here
    have idle : s.callOf i = none := by
      obtain ⟨listener, peer, challenge, stage⟩ := task
      cases stage with
      | dispatching | leaving => simp [callOf, found, ConnectionStage.call?]
      | _ => cases holds
    rw [idle]
    cases after : (afterDispatch i runtime task.stage rest).2 with
    | none => rfl
    | some stage =>
        cases stage with
        | executing frame context call => exact absurd after (afterDispatch_ne_executing holds)
        | _ => rfl
  · rfl

/-- A task that executes a call finds it in the core, and every call of the core has its task. -/
structure Attended (s : Server) : Prop where
  call : ∀ {i call}, s.callOf i = some call → ∃ record, s.world.calls.lookup call = some record
  task : ∀ {call record}, s.world.calls.lookup call = some record →
    s.callOf record.connectionId = some call

/-- A step that starts no call and lets none return. -/
theorem Attended.keep (attended : s.Attended) (setup : Setup) (tasks : ∀ i, s'.callOf i = s.callOf i)
    (world : s'.world = s.world ∨ ∃ moved, s.world.step setup.core moved = some s'.world ∧
      (∀ id c command, moved ≠ .call id c command) ∧ ∀ id, moved ≠ .ret id) : s'.Attended where
  call {i call} executes := by
    rw [tasks] at executes
    obtain ⟨record, found⟩ := attended.call executes
    obtain same | ⟨moved, step, -, stays⟩ := world
    · exact ⟨record, same ▸ found⟩
    · exact World.step_call_kept step (stays call) found
  task {call record} found := by
    rw [tasks]
    obtain same | ⟨moved, step, old, -⟩ := world
    · exact attended.task (same ▸ found)
    · obtain ⟨before, stored, caller⟩ := World.step_call_old step old found
      exact caller ▸ attended.task stored

/-- A task that executes nothing, before and after. -/
theorem callOf_idle {before : Server} {task : ConnectionTask} {stage : ConnectionStage}
    (same : before.tasks = s.tasks) (found : s.tasks.lookup id = some task)
    (was : task.stage.call? = none) (is_ : stage.call? = none) (i : ConnectionId) :
    (before.advance id task stage).callOf i = s.callOf i := by
  rw [callOf_advance]
  split
  · rename_i here
    rw [is_, here, callOf, found]
    exact was.symm
  · rw [callOf, callOf, same]

theorem callOf_ended {before : Server} {task : ConnectionTask} (same : before.tasks = s.tasks)
    (found : s.tasks.lookup id = some task) (was : task.stage.call? = none) (i : ConnectionId) :
    (before.finish id).callOf i = s.callOf i := by
  rw [callOf_finish]
  split
  · rename_i here
    rw [here, callOf, found]
    exact was.symm
  · rw [callOf, callOf, same]

theorem afterHandshake_call (setup : Setup) (id : ConnectionId) (task : ConnectionTask)
    (written : Bool) : (afterHandshake setup id task written).call? = none := by
  unfold afterHandshake
  split
  · rfl
  · split <;> rfl

theorem Stepped.attended (stepped : Stepped setup s action s') (owned : s.CallsOwned)
    (attended : s.Attended) : s'.Attended := by
  have idle : ∀ {task : ConnectionTask} {stage : ConnectionStage}, task.stage = stage →
      stage.call? = none → task.stage.call? = none := by
    rintro task stage rfl none_
    exact none_
  cases stepped with
  | @accepted peer listener challenge fresh =>
      refine attended.keep setup (fun i => ?_) (.inl rfl)
      by_cases here : i = ⟨s.nextConnectionId⟩
      · subst here
        have absent := AList.lookup_eq_none.mpr fresh
        simp [callOf, absent, ConnectionStage.call?]
      · simp [callOf, AList.lookup_insert_ne here]
  | @registered id task world found stage moved =>
      exact attended.keep setup (callOf_idle rfl found (idle stage rfl) rfl)
        (.inr ⟨_, moved, by simp, by simp⟩)
  | @refused id task world error found stage moved fails =>
      exact attended.keep setup (callOf_idle rfl found (idle stage rfl) rfl)
        (.inr ⟨_, moved, by simp, by simp⟩)
  | turnedAway found stage =>
      exact attended.keep setup (callOf_ended rfl found (idle stage rfl)) (.inl rfl)
  | handshake found stage =>
      exact attended.keep setup
        (callOf_idle rfl found (idle stage rfl) (afterHandshake_call ..)) (.inl rfl)
  | installed found stage =>
      exact attended.keep setup (callOf_idle rfl found (idle stage rfl) rfl) (.inl rfl)
  | @decoded id bytes task command world found stage decodes moved =>
      obtain ⟨-, rfl⟩ := World.step_call.mp moved
      constructor
      · intro i call executes
        rw [callOf_advance] at executes
        split at executes
        · obtain rfl := Option.some.inj executes
          exact ⟨_, AList.lookup_insert _⟩
        · obtain ⟨record, known⟩ := attended.call executes
          exact World.step_call_kept moved (by simp) known
      · intro call record known
        rw [callOf_advance]
        by_cases new : call = s.world.nextCall
        · subst new
          obtain rfl := Option.some.inj ((AList.lookup_insert _).symm.trans known)
          exact if_pos rfl
        · have executes := attended.task ((AList.lookup_insert_ne new).symm.trans known)
          rw [if_neg, ← executes]
          · rfl
          · intro here
            rw [here, callOf, found] at executes
            simp [stage, ConnectionStage.call?] at executes
  | undecoded found stage =>
      exact attended.keep setup (callOf_idle rfl found (idle stage rfl) rfl) (.inl rfl)
  | locked found stage moved =>
      exact attended.keep setup (fun _ => rfl) (.inr ⟨_, moved, by simp, by simp⟩)
  | answered found stage moved =>
      exact attended.keep setup (fun _ => rfl) (.inr ⟨_, moved, by simp, by simp⟩)
  | @executed id task frame context call world caller command effects found stage returns moved =>
      have own : ∀ i, s.callOf i = some call → i = id := by
        intro i executes
        obtain ⟨task', frame', context', found', stage'⟩ := callOf_some.mp executes
        have first := (owned i task' found' frame' context' call stage').2 _ returns
        exact first.symm.trans ((owned id task found frame context call stage).2 _ returns)
      have executes : s.callOf id = some call := callOf_some.mpr ⟨task, frame, context, found, stage⟩
      obtain ⟨_, _, _, -, rfl⟩ := World.step_ret.mp moved
      constructor
      · intro i call' executes'
        rw [callOf_advance] at executes'
        split at executes'
        · cases executes'
        · rename_i other
          obtain ⟨record, known⟩ := attended.call executes'
          have apart : call' ≠ call := by
            rintro rfl
            exact other (own i executes')
          exact ⟨record, (AList.lookup_erase_ne apart).trans known⟩
      · intro call' record known
        have apart : call' ≠ call := by
          rintro rfl
          simp at known
        have executes' := attended.task ((AList.lookup_erase_ne apart).symm.trans known)
        rw [callOf_advance, if_neg]
        · exact executes'
        · intro here
          rw [here] at executes'
          exact apart (Option.some.inj (executes'.symm.trans executes))
  | left found stage =>
      exact attended.keep setup (callOf_idle rfl found (idle stage rfl) rfl) (.inl rfl)
  | removed found stage =>
      exact attended.keep setup (callOf_idle rfl found (idle stage rfl) rfl) (.inl rfl)
  | @disconnected id task reason installed world found stage moved =>
      exact attended.keep setup (callOf_idle rfl found (idle stage rfl) rfl)
        (.inr ⟨_, moved, by simp, by simp⟩)
  | joined found stage =>
      exact attended.keep setup (callOf_ended rfl found (idle stage rfl)) (.inl rfl)
  | broadcast _ moved =>
      exact attended.keep setup (fun _ => rfl) (.inr ⟨_, moved, by simp, by simp⟩)
  | dispatched found holds =>
      exact attended.keep setup (callOf_afterSection found holds)
        (.inl (afterSection_world ..))
  | _ => exact attended.keep setup (fun _ => rfl) (.inl rfl)

theorem reachable_attended (reach : (server setup).Reachable s) : s.Attended := by
  have both : s.CallsOwned ∧ s.Attended := by
    refine reach.invariant (fun s => s.CallsOwned ∧ s.Attended) ?_ ?_
    · exact ⟨fun _ _ found => (nomatch found),
        ⟨fun executes => (nomatch executes), fun found => (nomatch found)⟩⟩
    · rintro s action s' ⟨owned, attended⟩ step
      exact ⟨(step_stepped step).owned owned, (step_stepped step).attended owned attended⟩
  exact both.2

/-! ## Writers and their mailboxes -/

/-- The stages of a task that has started a writer and not seen it end. -/
def hasWriter : ConnectionStage → Bool
  | .reading | .executing .. | .dispatching .. | .removing | .joining => true
  | .disconnecting _ installed => installed
  | .leaving _ installed => installed
  | .accepted | .refusing _ | .handshaking | .installing => false

/-- A task finds the writer it has started, a writer finds its mailbox, and a writer at work has its
    task. -/
structure Manned (s : Server) : Prop where
  writer : ∀ {i}, s.At hasWriter i → ∃ writer, s.writers.lookup i = some writer
  mailbox : ∀ {i writer}, s.writers.lookup i = some writer → i ∈ s.runtime.mailboxes
  task : ∀ {i writer}, s.writers.lookup i = some writer → writer.stage ≠ .finished →
    s.At hasWriter i
  batch : ∀ {i writer}, s.writers.lookup i = some writer → writer.stage ≠ .sending []

/-- A step that touches no writer, removes no mailbox and leaves a task to the same side of its
    writer. -/
theorem Manned.keep (manned : s.Manned) (writers : s'.writers = s.writers)
    (mailboxes : ∀ i, i ∈ s.runtime.mailboxes → i ∈ s'.runtime.mailboxes)
    (started : ∀ i, s'.At hasWriter i → s.At hasWriter i)
    (stays : ∀ i writer, s.writers.lookup i = some writer → writer.stage ≠ .finished →
      s.At hasWriter i → s'.At hasWriter i) : s'.Manned where
  writer at_ := writers ▸ manned.writer (started _ at_)
  mailbox found := mailboxes _ (manned.mailbox (writers ▸ found))
  task found going := by
    rw [writers] at found
    exact stays _ _ found going (manned.task found going)
  batch found := manned.batch (writers ▸ found)

/-- A task that stays on the same side of its writer. -/
theorem at_advance_iff {before : Server} {task : ConnectionTask} {stage : ConnectionStage}
    (same : before.tasks = s.tasks) (found : s.tasks.lookup id = some task)
    (side : hasWriter stage = hasWriter task.stage) (i : ConnectionId) :
    (before.advance id task stage).At hasWriter i ↔ s.At hasWriter i := by
  unfold At
  rw [lookup_advance]
  split
  · rename_i here
    rw [here, found]
    simp [side]
  · rw [same]

theorem at_finish_iff {before : Server} {task : ConnectionTask} (same : before.tasks = s.tasks)
    (found : s.tasks.lookup id = some task) (out : hasWriter task.stage = false) (i : ConnectionId) :
    (before.finish id).At hasWriter i ↔ s.At hasWriter i := by
  unfold At
  rw [lookup_finish]
  split
  · rename_i here
    rw [here, found]
    simp [out]
  · rw [same]

theorem at_afterSection_iff {task : ConnectionTask} {dispatch : Dispatch} {runtime : Runtime}
    {rest : Option Dispatch} (found : s.tasks.lookup id = some task)
    (holds : task.dispatch? = some dispatch) (i : ConnectionId) :
    (s.afterSection id task runtime rest).At hasWriter i ↔ s.At hasWriter i := by
  unfold At
  rw [lookup_afterSection]
  split
  · rename_i here
    rw [here, found]
    obtain ⟨listener, peer, challenge, stage⟩ := task
    cases stage with
    | dispatching frame context dispatch proceeds =>
        cases rest with
        | some rest => simp [afterDispatch, hasWriter]
        | none => cases proceeds <;> simp [afterDispatch, hasWriter]
    | leaving dispatch installed =>
        cases rest with
        | some rest => simp [afterDispatch, hasWriter]
        | none => cases installed <;> simp [afterDispatch, hasWriter]
    | _ => cases holds
  · rfl

end Server

/-! ## Mailboxes stay -/

namespace Runtime

theorem mem_trySend {runtime : Runtime} {j : ConnectionId} (stored : j ∈ runtime.mailboxes)
    (id : ConnectionId) (message : Outbound) : j ∈ (runtime.trySend id message).mailboxes := by
  unfold trySend
  split
  · exact stored
  · split
    · exact (AList.mem_insert _).mpr (.inr stored)
    · exact stored

theorem mem_offer {runtime : Runtime} {j : ConnectionId} (stored : j ∈ runtime.mailboxes)
    (id : ConnectionId) (frames : Except ProtocolError (List WireFrame)) :
    j ∈ (runtime.offer id frames).mailboxes := by
  cases frames with
  | ok frames => exact mem_trySend stored id _
  | error => exact stored

end Runtime

theorem Dispatched.mailbox {json : SerdeJson} {serverName : String} {network : NetworkState}
    {runtime runtime' : Runtime} {dispatch : Dispatch} {rest : Option Dispatch}
    (served : Dispatched json serverName network runtime dispatch runtime' rest) {j : ConnectionId}
    (stored : j ∈ runtime.mailboxes) : j ∈ runtime'.mailboxes := by
  cases served with
  | offered => exact Runtime.mem_offer stored ..
  | closed => exact Runtime.mem_trySend stored ..
  | _ => exact stored

namespace Server

variable {setup : Setup} {s s' : Server} {action : Server.Action} {i id : ConnectionId}

/-- A writer that reaches another stage, with mailboxes that stay. -/
theorem Manned.advanceWriter (manned : s.Manned) (before : Server) (stage : WriterStage)
    {writer : Writer} (stored : s.writers.lookup id = some writer)
    (writers : before.writers = s.writers) (tasks : before.tasks = s.tasks)
    (mailboxes : ∀ i, i ∈ s.runtime.mailboxes → i ∈ before.runtime.mailboxes)
    (going : writer.stage ≠ .finished) (batch : stage ≠ .sending []) :
    (before.advanceWriter id writer stage).Manned := by
  have same : ∀ i, (before.advanceWriter id writer stage).At hasWriter i ↔ s.At hasWriter i := by
    intro i
    unfold At
    rw [show (before.advanceWriter id writer stage).tasks = s.tasks from tasks]
  have lookup : ∀ j, (before.advanceWriter id writer stage).writers.lookup j =
      if j = id then some { writer with stage } else s.writers.lookup j := by
    intro j
    rw [Server.advanceWriter, writers]
    split
    · rename_i here
      rw [here]
      exact AList.lookup_insert _
    · rename_i other
      exact AList.lookup_insert_ne other
  constructor
  · intro i at_
    rw [lookup]
    split
    · exact ⟨_, rfl⟩
    · exact manned.writer ((same i).mp at_)
  · intro i writer' found
    refine mailboxes i ?_
    rw [lookup] at found
    split at found
    · rename_i here
      exact here ▸ manned.mailbox stored
    · exact manned.mailbox found
  · intro i writer' found going'
    rw [same]
    rw [lookup] at found
    split at found
    · rename_i here
      exact here ▸ manned.task stored going
    · exact manned.task found going'
  · intro i writer' found
    rw [lookup] at found
    split at found
    · cases found
      exact batch
    · exact manned.batch found

/-- A writer that ends closes its mailbox, which stays. -/
theorem Manned.finishWriter {before : Server} {writer : Writer} (manned : s.Manned)
    (stored : s.writers.lookup id = some writer) (writers : before.writers = s.writers)
    (tasks : before.tasks = s.tasks)
    (mailboxes : ∀ i, i ∈ s.runtime.mailboxes → i ∈ before.runtime.mailboxes)
    (going : writer.stage ≠ .finished) : (before.finishWriter id writer).Manned := by
  refine manned.advanceWriter
    { before with
      runtime := { before.runtime with
        mailboxes := before.runtime.mailboxes.modify id Channel.close }.cancel id }
    .finished stored writers tasks (fun i kept => ?_) going (by simp)
  have keys : i ∈ (before.runtime.mailboxes.modify id Channel.close).keys := by
    rw [KeyedMap.keys_modify]
    exact mailboxes i kept
  exact keys

theorem ofBatch_ne (frames : List WireFrame) :
    WriterStage.ofBatch frames ≠ .sending [] := by
  cases frames <;> simp [WriterStage.ofBatch]

theorem afterHandshake_hasWriter (setup : Setup) (id : ConnectionId) (task : ConnectionTask)
    (written : Bool) : hasWriter (afterHandshake setup id task written) = false := by
  unfold afterHandshake
  split
  · rfl
  · split <;> rfl

theorem Stepped.manned (stepped : Stepped setup s action s') (manned : s.Manned) : s'.Manned := by
  have unmoved : ∀ i, i ∈ s.runtime.mailboxes → i ∈ s.runtime.mailboxes := fun _ stored => stored
  -- a step that moves one task within its side
  have moves : ∀ {s' : Server}, s'.writers = s.writers →
      s'.runtime.mailboxes = s.runtime.mailboxes →
      (∀ i, s'.At hasWriter i ↔ s.At hasWriter i) → s'.Manned := by
    intro s' writers mailboxes same
    exact manned.keep writers (fun i stored => mailboxes ▸ stored) (fun i => (same i).mp)
      fun i _ _ _ => (same i).mpr
  cases stepped with
  | @accepted peer listener challenge fresh =>
      refine moves rfl rfl fun i => ?_
      unfold At
      by_cases here : i = ⟨s.nextConnectionId⟩
      · subst here
        have absent := AList.lookup_eq_none.mpr fresh
        simp [absent, hasWriter]
      · simp [AList.lookup_insert_ne here]
  | registered found stage =>
      exact moves rfl rfl (at_advance_iff rfl found (by rw [stage]; rfl))
  | refused found stage => exact moves rfl rfl (at_advance_iff rfl found (by rw [stage]; rfl))
  | turnedAway found stage => exact moves rfl rfl (at_finish_iff rfl found (by rw [stage]; rfl))
  | handshake found stage =>
      refine moves rfl rfl (at_advance_iff rfl found ?_)
      rw [afterHandshake_hasWriter, stage]
      rfl
  | @installed id task found stage =>
      have lookup : ∀ {value : Writer} j, (s.writers.insert id value).lookup j =
          if j = id then some value else s.writers.lookup j := by
        intro value j
        split
        · rename_i here
          rw [here]
          exact AList.lookup_insert _
        · rename_i other
          exact AList.lookup_insert_ne other
      constructor
      · intro i at_
        rw [advance_writers, lookup]
        split
        · exact ⟨_, rfl⟩
        · rename_i other
          refine manned.writer (at_.of_ne ?_)
          rw [lookup_advance, if_neg other]
      · intro i writer stored
        rw [advance_writers, lookup] at stored
        refine (AList.mem_insert _).mpr ?_
        split at stored
        · rename_i here
          exact .inl here
        · exact .inr (manned.mailbox stored)
      · intro i writer stored going
        rw [advance_writers, lookup] at stored
        split at stored
        · rename_i here
          rw [here]
          exact at_advance rfl
        · rename_i other
          exact (manned.task stored going).advance_ne other
      · intro i writer stored
        rw [advance_writers, lookup] at stored
        split at stored
        · cases stored
          simp
        · exact manned.batch stored
  | decoded found stage => exact moves rfl rfl (at_advance_iff rfl found (by rw [stage]; rfl))
  | undecoded found stage => exact moves rfl rfl (at_advance_iff rfl found (by rw [stage]; rfl))
  | locked | answered => exact moves rfl rfl fun _ => .rfl
  | executed found stage => exact moves rfl rfl (at_advance_iff rfl found (by rw [stage]; rfl))
  | left found stage => exact moves rfl rfl (at_advance_iff rfl found (by rw [stage]; rfl))
  | removed found stage => exact moves rfl rfl (at_advance_iff rfl found (by rw [stage]; rfl))
  | disconnected found stage => exact moves rfl rfl (at_advance_iff rfl found (by rw [stage]; rfl))
  | @joined id task writer found stage stored ended =>
      refine manned.keep rfl unmoved (fun i at_ => ?_) fun i writer' stored' going at_ => ?_
      · obtain ⟨task', found', side⟩ := at_
        rw [lookup_finish] at found'
        split at found'
        · cases found'
        · exact ⟨task', found', side⟩
      · have other : i ≠ id := by
          rintro rfl
          cases stored.symm.trans stored'
          exact going ended
        exact at_.of_ne ((lookup_finish ..).trans (if_neg other))
  | broadcast => exact moves rfl rfl fun _ => .rfl
  | maintained holds served =>
      exact manned.keep rfl (fun _ => served.mailbox) (fun _ at_ => at_) fun _ _ _ _ at_ => at_
  | dispatched found holds served =>
      refine manned.keep (afterSection_writers ..) (fun i stored => ?_)
        (fun i => (at_afterSection_iff found holds i).mp)
        fun i _ _ _ => (at_afterSection_iff found holds i).mpr
      rw [afterSection_mailboxes]
      exact served.mailbox stored
  | received stored found waits =>
      exact manned.advanceWriter _ _ stored rfl rfl (fun i kept => (AList.mem_insert _).mpr (.inr kept))
        (by simp [waits]) (ofBatch_ne _)
  | receivedClose stored found waits =>
      exact manned.finishWriter stored rfl rfl (fun i kept => (AList.mem_insert _).mpr (.inr kept))
        (by simp [waits])
  | abandoned stored found waits =>
      exact manned.finishWriter stored rfl rfl unmoved (by simp [waits])
  | sent stored sending =>
      exact manned.advanceWriter _ _ stored rfl rfl unmoved (by simp [sending]) (ofBatch_ne _)
  | failed stored sending =>
      exact manned.finishWriter stored rfl rfl unmoved (by simp [sending])

theorem reachable_manned (reach : (server setup).Reachable s) : s.Manned := by
  refine reach.invariant Manned ?_ fun s action s' manned step => (step_stepped step).manned manned
  constructor
  · rintro i ⟨task, found, -⟩
    cases found
  all_goals exact fun found => (nomatch found)

/-! ## What a task can always do -/

/-- The actions that are left to a server to which nothing comes in and which asks nobody to leave. -/
def inner : Server.Action → Bool
  | .leave _ => false
  | action => !brings action

/-- What the world outside completes: a write to a socket ends, well or badly, and a question to the
    authenticator or the weather provider is answered. The other actions are the server's own. -/
def completes : Server.Action → Bool
  | .refuse _ | .handshake .. | .answered .. | .send .. => true
  | _ => false

/-- The call waits for the answer to a question. -/
def asks : Stage → Bool
  | .authorizing .. | .authenticating .. | .observing .. => true
  | _ => false

/-- A call that is not about to return and waits for no answer can go on under the lock. -/
theorem call_goes_on (config : CoreConfig) {w : World} {call : CallId} {record : Call}
    (found : w.calls.lookup call = some record) :
    asks record.stage = true ∨ (∃ w', w.step config (.lock call) = some w') ∨
      ∃ w', w.step config (.ret call) = some w' := by
  obtain ⟨c, command, stage⟩ := record
  have locks : ∀ {state : NetworkState} {stage' : Stage},
      Network.lockSection config w.state c command stage = some (state, stage') →
      ∃ w', w.step config (.lock call) = some w' :=
    fun performed => ⟨_, World.step_lock.mpr ⟨_, _, _, found, performed, rfl⟩⟩
  cases stage with
  | invoked =>
      have performed : ∃ result, Network.lockSection config w.state c command .invoked =
          some result := by
        unfold Network.lockSection
        repeat' split
        all_goals exact ⟨_, rfl⟩
      obtain ⟨⟨state, stage'⟩, performed⟩ := performed
      exact .inr (.inl (locks performed))
  | identifying => exact .inr (.inl (locks rfl))
  | activating => exact .inr (.inl (locks rfl))
  | authorizing | authenticating | observing => exact .inl rfl
  | returning effects => exact .inr (.inr ⟨_, World.step_ret.mpr ⟨_, _, _, found, rfl⟩⟩)

/-- A question can be answered. -/
theorem asks_answered (config : CoreConfig) {w : World} {call : CallId} {record : Call}
    (found : w.calls.lookup call = some record) (waits : asks record.stage = true) :
    ∃ answer w', w.step config (.answered call answer) = some w' := by
  obtain ⟨c, command, stage⟩ := record
  have answers : ∀ answer, (Network.answerStage c stage answer).isSome = true →
      ∃ answer w', w.step config (.answered call answer) = some w' := by
    intro answer received
    obtain ⟨stage', received⟩ := Option.isSome_iff_exists.mp received
    exact ⟨answer, _, World.step_answered.mpr ⟨_, _, found, received, rfl⟩⟩
  cases stage with
  | authorizing identification generation =>
      refine answers (.authorized identification.clientId (.error .suspended)) ?_
      simp [Network.answerStage, Network.identifyAnswered]
  | authenticating login generation =>
      refine answers (.authenticated login.networkId login.password (.error .suspended)) ?_
      simp [Network.answerStage, Network.loginAnswered]
  | observing source station parsed coordinates =>
      refine answers (.observed { station, coordinates } (.ok none)) ?_
      simp [Network.answerStage]
  | invoked | identifying | activating | returning => cases waits

/-! ## What a server waits for -/

/-- A write to the socket of the connection has not ended. -/
inductive Writing (s : Server) (id : ConnectionId) : Prop where
  | refusal {task : ConnectionTask} {frames : List WireFrame}
      (found : s.tasks.lookup id = some task) (stage : task.stage = .refusing frames)
  | handshake {task : ConnectionTask} (found : s.tasks.lookup id = some task)
      (stage : task.stage = .handshaking)
  | batch {writer : Writer} {frames : List WireFrame} (stored : s.writers.lookup id = some writer)
      (stage : writer.stage = .sending frames)

/-- A question of the call that the connection executes has no answer yet. -/
def Asking (s : Server) (id : ConnectionId) : Prop :=
  ∃ call record, s.callOf id = some call ∧ s.world.calls.lookup call = some record ∧
    asks record.stage = true

/-- The connection waits for the end of a write or for an answer. -/
def Waits (s : Server) (id : ConnectionId) : Prop := s.Writing id ∨ s.Asking id

/-- Whatever a connection waits for can happen. -/
theorem Waits.completes (setup : Setup) (manned : s.Manned) (waits : s.Waits id) :
    ∃ action, completes action = true ∧ (s.step setup action).isSome = true := by
  obtain writing | ⟨call, record, executes, known, waits⟩ := waits
  · cases writing with
    | refusal found stage => exact ⟨.refuse id, rfl, by simp [Server.step, found, stage]⟩
    | handshake found stage => exact ⟨.handshake id true, rfl, by simp [Server.step, found, stage]⟩
    | @batch writer frames stored stage =>
        cases frames with
        | nil => exact absurd stage (manned.batch stored)
        | cons frame frames =>
            exact ⟨.send id false, rfl, by simp [Server.step, sendStep, stored, stage]⟩
  · obtain ⟨task, frame, context, found, stage⟩ := callOf_some.mp executes
    obtain ⟨answer, w, moved⟩ := asks_answered setup.core known waits
    exact ⟨.answered id answer, rfl, by simp [Server.step, found, stage, moved]⟩

/-! ## A server that has come to rest -/

/-- Every task waits for its next frame, no dispatch and no call is under way, and every writer has
    ended or waits at an empty mailbox. -/
structure AtRest (s : Server) : Prop where
  tasks : ∀ id task, s.tasks.lookup id = some task → task.stage = .reading
  maintenance : s.maintenance = none
  calls : ∀ call, s.world.calls.lookup call = none
  writers : ∀ id writer, s.writers.lookup id = some writer → writer.stage = .finished ∨
    writer.stage = .receiving ∧ ∃ mailbox, s.runtime.mailboxes.lookup id = some mailbox ∧
      mailbox.queue = []

/-- Likewise, but for what waits: a task, or a call of it, or a writer, may wait for the end of a write
    or for an answer. -/
structure Idle (s : Server) : Prop where
  tasks : ∀ id task, s.tasks.lookup id = some task → task.stage = .reading ∨ s.Waits id
  dispatches : ∀ id task, s.tasks.lookup id = some task → task.dispatch? = none
  maintenance : s.maintenance = none
  calls : ∀ call record, s.world.calls.lookup call = some record → ∃ id, s.Asking id
  writers : ∀ id writer, s.writers.lookup id = some writer → writer.stage = .finished ∨
    s.Writing id ∨ writer.stage = .receiving ∧
      ∃ mailbox, s.runtime.mailboxes.lookup id = some mailbox ∧ mailbox.queue = []

/-- Where nothing waits, nothing is under way. -/
theorem Idle.atRest (idle : s.Idle) (free : ∀ id, ¬ s.Waits id) : s.AtRest where
  tasks id task found := (idle.tasks id task found).resolve_right (free id)
  maintenance := idle.maintenance
  calls call := by
    cases known : s.world.calls.lookup call with
    | none => rfl
    | some record =>
        obtain ⟨id, asking⟩ := idle.calls call record known
        exact (free id (.inr asking)).elim
  writers id writer stored := by
    obtain ended | writing | waits := idle.writers id writer stored
    · exact .inl ended
    · exact (free id (.inl writing)).elim
    · exact .inr waits

section Settled

variable (settled :
  (server setup).Settled (fun action => inner action = true ∧ completes action = false) s)

include settled in
/-- An action of its own that is possible does not belong to a server that has settled. -/
theorem settled_absurd (action : Server.Action) (enabled : (s.step setup action).isSome = true)
    (own : inner action = true) (free : completes action = false) : False := by
  obtain ⟨next, step⟩ := Option.isSome_iff_exists.mp enabled
  cases step.symm.trans (settled action ⟨own, free⟩)

include settled in
theorem settled_maintenance : s.maintenance = none := by
  cases holds : s.maintenance with
  | none => rfl
  | some dispatch =>
      exact (settled_absurd settled (.dispatch .maintenance)
        (by simp [Server.step, dispatchStep, holds]) rfl rfl).elim

include settled in
theorem settled_dispatch {task : ConnectionTask} (found : s.tasks.lookup id = some task) :
    task.dispatch? = none := by
  cases holds : task.dispatch? with
  | none => rfl
  | some dispatch =>
      exact (settled_absurd settled (.dispatch (.connection id))
        (by simp [Server.step, dispatchStep, found, holds]) rfl rfl).elim

include settled in
theorem settled_sender : s.hasSender id = (s.runtime.connections.lookup id).isSome := by
  have tasks : (s.tasks.values.any fun task => task.dispatch?.any (holdsSender id)) = false := by
    rw [List.any_eq_false]
    intro task member
    obtain ⟨i, found⟩ := KeyedMap.mem_values_iff.mp member
    simp [settled_dispatch settled found]
  rw [hasSender, settled_maintenance settled, tasks]
  simp

include settled in
/-- A writer that has not ended writes, or it waits at an empty mailbox of which a sender is left. -/
theorem settled_writer (manned : s.Manned) {writer : Writer}
    (stored : s.writers.lookup id = some writer) :
    writer.stage = .finished ∨ s.Writing id ∨ writer.stage = .receiving ∧
      (∃ mailbox, s.runtime.mailboxes.lookup id = some mailbox ∧ mailbox.queue = []) ∧
      id ∈ s.runtime.connections := by
  obtain ⟨mailbox, found⟩ := KeyedMap.exists_lookup (manned.mailbox stored)
  cases stage : writer.stage with
  | finished => exact .inl rfl
  | sending frames => exact .inr (.inl (.batch stored stage))
  | receiving =>
      refine .inr (.inr ⟨rfl, ?_⟩)
      cases queued : mailbox.queue with
      | cons message queue =>
          exfalso
          have taken : mailbox.recv = some (message, { mailbox with queue }) :=
            Channel.recv_eq_some.mpr ⟨queue, queued, rfl⟩
          cases message with
          | frames batch =>
              exact settled_absurd settled (.receive id)
                (by simp [Server.step, receiveStep, stored, found, stage, taken]) rfl rfl
          | close =>
              exact settled_absurd settled (.receive id)
                (by simp [Server.step, receiveStep, stored, found, stage, taken]) rfl rfl
      | nil =>
          refine ⟨⟨mailbox, found, queued⟩, ?_⟩
          have empty : mailbox.recv = none := by simp [Channel.recv, queued]
          cases handle : s.runtime.connections.lookup id with
          | some handle => exact KeyedMap.mem_of_lookup handle
          | none =>
              exfalso
              have alone : s.hasSender id = false := by
                rw [settled_sender settled, handle]
                rfl
              exact settled_absurd settled (.receive id)
                (by simp [Server.step, receiveStep, stored, found, stage, empty, alone]) rfl rfl

include settled in
/-- Every task waits for a frame, for a write or for an answer: at any other stage it could go on. -/
theorem settled_reading (reach : (server setup).Reachable s) {task : ConnectionTask}
    (found : s.tasks.lookup id = some task) : task.stage = .reading ∨ s.Waits id := by
  have idle := settled_dispatch settled found
  cases stage : task.stage with
  | reading => exact .inl rfl
  | accepted =>
      exfalso
      have unknown := (reachable_opening reach).accepted task found stage
      have moved : s.world.step setup.core (.register id task.peer task.listener.protocol) = some _ :=
        World.step_register.mpr ⟨unknown, rfl⟩
      refine settled_absurd settled (.register id) ?_ rfl rfl
      simp only [Server.step, found, stage, moved, Option.bind_eq_bind, Option.bind_some]
      split <;> rfl
  | refusing frames => exact .inr (.inl (.refusal found stage))
  | handshaking => exact .inr (.inl (.handshake found stage))
  | installing =>
      exact (settled_absurd settled (.install id) (by simp [Server.step, found, stage]) rfl rfl).elim
  | executing frame context call =>
      have executes : s.callOf id = some call := callOf_some.mpr ⟨task, frame, context, found, stage⟩
      obtain ⟨record, known⟩ := (reachable_attended reach).call executes
      obtain waits | ⟨w, moved⟩ | ⟨w, moved⟩ := call_goes_on setup.core known
      · exact .inr (.inr ⟨call, record, executes, known, waits⟩)
      · exact (settled_absurd settled (.lock id)
          (by simp [Server.step, found, stage, moved]) rfl rfl).elim
      · exact (settled_absurd settled (.executed id)
          (by simp [Server.step, found, stage, moved]) rfl rfl).elim
  | dispatching => simp [ConnectionTask.dispatch?, stage] at idle
  | removing =>
      exact (settled_absurd settled (.remove id) (by simp [Server.step, found, stage]) rfl rfl).elim
  | disconnecting reason installed =>
      exfalso
      have moved : s.world.step setup.core (.disconnect id reason) = some _ :=
        World.step_disconnect.mpr rfl
      exact settled_absurd settled (.disconnect id)
        (by simp [Server.step, found, stage, moved]) rfl rfl
  | leaving => simp [ConnectionTask.dispatch?, stage] at idle
  | joining =>
      have manned := reachable_manned reach
      obtain ⟨writer, stored⟩ := manned.writer ⟨task, found, by rw [stage]; rfl⟩
      obtain ended | writing | ⟨-, -, handle⟩ := settled_writer settled manned stored
      · exact (settled_absurd settled (.join id)
          (by simp [Server.step, found, stage, stored, ended]) rfl rfl).elim
      · exact .inr (.inl writing)
      · exfalso
        obtain ⟨task', found', serves⟩ := (reachable_tended reach).handle id handle
        cases found'.symm.trans found
        simp [stage, inRuntime] at serves

include settled in
theorem settled_idle (reach : (server setup).Reachable s) : s.Idle where
  tasks _ _ found := settled_reading settled reach found
  dispatches _ _ found := settled_dispatch settled found
  maintenance := settled_maintenance settled
  calls call record known := by
    obtain ⟨task, frame, context, found, stage⟩ :=
      callOf_some.mp ((reachable_attended reach).task known)
    refine ⟨record.connectionId, call, record,
      callOf_some.mpr ⟨task, frame, context, found, stage⟩, known, ?_⟩
    obtain waits | ⟨w, moved⟩ | ⟨w, moved⟩ := call_goes_on setup.core known
    · exact waits
    · exact (settled_absurd settled (.lock record.connectionId)
        (by simp [Server.step, found, stage, moved]) rfl rfl).elim
    · exact (settled_absurd settled (.executed record.connectionId)
        (by simp [Server.step, found, stage, moved]) rfl rfl).elim
  writers _ _ stored := by
    obtain ended | writing | ⟨waits, empty, -⟩ :=
      settled_writer settled (reachable_manned reach) stored
    · exact .inl ended
    · exact .inr (.inl writing)
    · exact .inr (.inr ⟨waits, empty⟩)

end Settled

/-- Nothing is left of the connection: no task, no session and callsign, no handle, and its writer has
    ended. -/
structure Cleared (s : Server) (id : ConnectionId) : Prop where
  task : s.tasks.lookup id = none
  session : s.world.state.sessions.lookup id = none
  callsign : ∀ callsign, s.world.state.callsigns.lookup callsign ≠ some id
  connection : s.runtime.connections.lookup id = none
  writer : ∀ writer, s.writers.lookup id = some writer → writer.stage = .finished

/-- Nothing is left of any connection: no task, no call, no session and callsign, no handle, and every
    writer has ended. -/
structure Drained (s : Server) : Prop where
  tasks : ∀ id, s.tasks.lookup id = none
  maintenance : s.maintenance = none
  calls : ∀ call, s.world.calls.lookup call = none
  sessions : ∀ id, s.world.state.sessions.lookup id = none
  callsigns : ∀ callsign, s.world.state.callsigns.lookup callsign = none
  connections : ∀ id, s.runtime.connections.lookup id = none
  writers : ∀ id writer, s.writers.lookup id = some writer → writer.stage = .finished

/-- Nothing is left of a connection whose task is done. -/
theorem cleared_of_done (reach : (server setup).Reachable s) (done : s.tasks.lookup id = none) :
    s.Cleared id := by
  obtain ⟨session, connection⟩ := (reachable_tended reach).ended done
  refine ⟨done, session, fun callsign listed => ?_, connection, fun writer stored => ?_⟩
  · obtain ⟨session', presence, active, -⟩ :=
      (reachable_consistent (reachable_world reach)).active_of_lookup listed
    cases active.1.symm.trans session
  · by_contra going
    obtain ⟨task, found, -⟩ := (reachable_manned reach).task stored going
    cases found.symm.trans done

theorem drained_of_cleared (idle : s.Idle) (cleared : ∀ id, s.Cleared id) (free : ∀ id, ¬ s.Waits id) :
    s.Drained where
  tasks id := (cleared id).task
  maintenance := idle.maintenance
  calls := (idle.atRest free).calls
  sessions id := (cleared id).session
  callsigns callsign := by
    cases listed : s.world.state.callsigns.lookup callsign with
    | none => rfl
    | some id => exact ((cleared id).callsign callsign listed).elim
  connections id := (cleared id).connection
  writers id := (cleared id).writer

/-- A server whose tasks may leave has settled: of every connection that does not wait nothing is left,
    whatever the others wait for. -/
theorem settled_drained
    (settled : (server setup).Settled (fun action => brings action = false ∧ completes action = false) s)
    (reach : (server setup).Reachable s) :
    (∀ id, ¬ s.Waits id → s.Cleared id) ∧ ((∀ id, ¬ s.Waits id) → s.Drained) := by
  have stays :
      (server setup).Settled (fun action => inner action = true ∧ completes action = false) s := by
    rintro action ⟨own, free⟩
    refine settled action ⟨?_, free⟩
    cases action <;> first | rfl | cases own
  have idle := settled_idle stays reach
  have cleared : ∀ id, ¬ s.Waits id → s.Cleared id := by
    intro id free
    refine cleared_of_done reach ?_
    cases found : s.tasks.lookup id with
    | none => rfl
    | some task =>
        have stage := (idle.tasks id task found).resolve_right free
        have left : (server setup).step s (.leave id) = none := settled _ ⟨rfl, rfl⟩
        simp [server, Server.step, found, stage] at left
  exact ⟨cleared, fun free => drained_of_cleared idle (fun id => cleared id (free id)) free⟩

/-- Nothing waits where nothing is possible any more. -/
theorem settled_free {kind : Server.Action → Prop}
    (uses : ∀ action, completes action = true → kind action)
    (settled : (server setup).Settled kind s) (manned : s.Manned) (id : ConnectionId) :
    ¬ s.Waits id := by
  intro waits
  obtain ⟨action, outside, enabled⟩ := waits.completes setup manned
  obtain ⟨next, step⟩ := Option.isSome_iff_exists.mp enabled
  cases step.symm.trans (settled action (uses action outside))

theorem reachable_run {actions : List Server.Action} (reach : (server setup).Reachable s)
    (ran : (server setup).run s actions = some s') : (server setup).Reachable s' := by
  obtain ⟨before, trace⟩ := reach
  exact ⟨before ++ actions, trace.append ran⟩

/-- Actions of a kind that uses something up come to an end, and where they end is where the server
    has settled. -/
theorem comes_to {setup : Setup} {s : Server} (reach : (server setup).Reachable s)
    {kind : Server.Action → Prop} (uses : ∀ action, kind action → brings action = false)
    {Goal : Server → Prop}
    (ends : ∀ s', (server setup).Reachable s' → (server setup).Settled kind s' → Goal s') :
    (∀ states : Nat → Server, states 0 = s → ¬ ∀ n, ∃ action, kind action ∧
      (states n).step setup action = some (states (n + 1))) ∧
    ∃ actions s', (∀ action ∈ actions, kind action) ∧
      (server setup).run s actions = some s' ∧ Goal s' := by
  have decreases : ∀ (s : Server) (action : Server.Action) (s' : Server), kind action →
      (server setup).step s action = some s' → Less s'.leftover s.leftover :=
    fun s action s' own step => (step_stepped step).less (uses action own)
  refine ⟨fun states _ => Machine.no_endless less_wellFounded decreases states, ?_⟩
  obtain ⟨actions, s', own, ran, settled⟩ :=
    Machine.exists_settled less_wellFounded decreases s
  exact ⟨actions, s', own, ran, ends s' (reachable_run reach ran) settled⟩

/-- Whatever has come in, the server comes to rest as soon as nothing more does and what it waits for
    outside happens: its own actions, the ends of its writes and the answers it gets cannot go on for
    ever, in whatever order they happen and however they come out; there is a way to go on until none is
    possible; and when no action of its own is possible, nothing is under way but what waits for the end
    of a write or for an answer, either of which can come, and if nothing waits, then every frame that
    came in is processed, every call has returned, every dispatch is done and every message is taken by
    its writer or its writer has ended. -/
theorem server_comes_to_rest (setup : Setup) (s : Server) (reach : (server setup).Reachable s) :
    (∀ states : Nat → Server, states 0 = s → ¬ ∀ n, ∃ action, inner action = true ∧
      (states n).step setup action = some (states (n + 1))) ∧
    (∃ actions s', (∀ action ∈ actions, inner action = true) ∧
      (server setup).run s actions = some s' ∧ s'.AtRest) ∧
    ∀ actions s', (server setup).run s actions = some s' →
      (∀ action, inner action = true → completes action = false → s'.step setup action = none) →
      s'.Idle ∧
        (∀ id, s'.Waits id →
          ∃ action, completes action = true ∧ (s'.step setup action).isSome = true) ∧
        ((∀ id, ¬ s'.Waits id) → s'.AtRest) := by
  have uses : ∀ action, inner action = true → brings action = false := by
    intro action own
    cases action <;> first | rfl | cases own
  have covers : ∀ action, completes action = true → inner action = true := by
    intro action outside
    cases action <;> first | rfl | cases outside
  obtain ⟨ends, comes⟩ := comes_to reach uses fun s' reach settled =>
    (settled_idle (fun action own => settled action own.1) reach).atRest
      (settled_free covers settled (reachable_manned reach))
  refine ⟨ends, comes, fun actions s' ran settled => ?_⟩
  have reach' := reachable_run reach ran
  have idle := settled_idle (fun action own => settled action own.1 own.2) reach'
  exact ⟨idle, fun id waits => waits.completes setup (reachable_manned reach'), idle.atRest⟩

/-- When the tasks moreover leave, as at a shutdown, the server drains: that too comes to an end in
    every order and with every outcome; when no action of its own is possible, nothing is left of a
    connection that does not wait for the end of a write or for an answer, whatever others wait for; and
    if none does, there is no task, no call, no session, no callsign and no handle, and every writer has
    ended. -/
theorem server_drains (setup : Setup) (s : Server) (reach : (server setup).Reachable s) :
    (∀ states : Nat → Server, states 0 = s → ¬ ∀ n, ∃ action, brings action = false ∧
      (states n).step setup action = some (states (n + 1))) ∧
    (∃ actions s', (∀ action ∈ actions, brings action = false) ∧
      (server setup).run s actions = some s' ∧ s'.Drained) ∧
    ∀ actions s', (server setup).run s actions = some s' →
      (∀ action, brings action = false → completes action = false → s'.step setup action = none) →
      (∀ id, s'.Waits id →
          ∃ action, completes action = true ∧ (s'.step setup action).isSome = true) ∧
        (∀ id, ¬ s'.Waits id → s'.Cleared id) ∧ ((∀ id, ¬ s'.Waits id) → s'.Drained) := by
  have covers : ∀ action, completes action = true → brings action = false := by
    intro action outside
    cases action <;> first | rfl | cases outside
  obtain ⟨ends, comes⟩ := comes_to reach (fun _ own => own) fun s' reach settled =>
    (settled_drained (fun action own => settled action own.1) reach).2
      (settled_free covers settled (reachable_manned reach))
  refine ⟨ends, comes, fun actions s' ran settled => ?_⟩
  have reach' := reachable_run reach ran
  exact ⟨fun id waits => waits.completes setup (reachable_manned reach'),
    settled_drained (fun action own => settled action own.1 own.2) reach'⟩

end Server

namespace Sample

/-- A pilot has logged in and nobody has welcomed them yet. -/
def unwelcomed : List Server.Action := connecting ⟨1⟩ ++ loggingIn ⟨1⟩ "AFR12"

end Sample

namespace Server

set_option maxRecDepth 8000 in
/-- The server welcomes the pilot in its own time. -/
theorem server_comes_to_rest_unwelcomed :
    ∃ s, (server (Sample.setup 8)).Trace Sample.unwelcomed s ∧
      (s.tasks.lookup ⟨1⟩).any (fun task => task.dispatch?.isSome) = true ∧
      ∃ actions s', (∀ action ∈ actions, inner action = true) ∧
        (server (Sample.setup 8)).run s actions = some s' ∧ s'.AtRest := by
  have checked : ((server (Sample.setup 8)).run {} Sample.unwelcomed).any (fun s =>
      (s.tasks.lookup ⟨1⟩).any (fun task => task.dispatch?.isSome)) = true := by
    decide +kernel
  obtain ⟨s, trace, owes⟩ := (Option.any_eq_true _ _).mp checked
  exact ⟨s, trace, owes, (server_comes_to_rest (Sample.setup 8) s ⟨_, trace⟩).2.1⟩

set_option maxRecDepth 8000 in
/-- At a shutdown the pilot logs off again, and their callsign is free. -/
theorem server_drains_unwelcomed :
    ∃ s, (server (Sample.setup 8)).Trace Sample.unwelcomed s ∧
      s.world.state.callsigns.size = 1 ∧
      ∃ actions s', (∀ action ∈ actions, brings action = false) ∧
        (server (Sample.setup 8)).run s actions = some s' ∧ s'.Drained := by
  have checked : ((server (Sample.setup 8)).run {} Sample.unwelcomed).any (fun s =>
      decide (s.world.state.callsigns.size = 1)) = true := by
    decide +kernel
  obtain ⟨s, trace, listed⟩ := (Option.any_eq_true _ _).mp checked
  exact ⟨s, trace, of_decide_eq_true listed, (server_drains (Sample.setup 8) s ⟨_, trace⟩).2.1⟩

end Server

end AsterFsd
