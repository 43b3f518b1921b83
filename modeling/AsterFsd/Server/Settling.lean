import AsterFsd.Core.Steps
import AsterFsd.Server.PlainLoop

/-! # Work that comes to an end

As long as nothing comes in from outside, every step of the server uses something up: a task moves on
to a later stage, a dispatch has fewer sections left, a mailbox has fewer messages or a writer fewer
frames. The order matters: a task that moves on may start a dispatch, which may fill mailboxes, out of
which the writers take their frames.
-/

namespace AsterFsd

/-! ## What is left to do -/

/-- The sections and answers that a call still needs. -/
def Stage.rank : Stage → Nat
  | .invoked => 3
  | .authorizing .. | .authenticating .. | .observing .. => 2
  | .identifying .. | .activating .. => 1
  | .returning _ => 0

def World.callRank (w : World) (call : CallId) : Nat :=
  (w.calls.lookup call).elim 0 (·.stage.rank)

/-- The stages that a task has before it. -/
def ConnectionStage.rank (w : World) : ConnectionStage → Nat
  | .accepted => 13
  | .refusing _ => 1
  | .handshaking => 12
  | .installing => 11
  | .executing _ _ call => 7 + w.callRank call
  | .dispatching .. => 6
  | .reading => 5
  | .removing => 4
  | .disconnecting .. => 3
  | .leaving .. => 2
  | .joining => 1

def ConnectionTask.work (task : ConnectionTask) : Nat := task.dispatch?.elim 0 Dispatch.work

/-- The frames that a writer has before it, and its end. -/
def WriterStage.rank : WriterStage → Nat
  | .receiving => 1
  | .sending frames => 1 + frames.length
  | .finished => 0

theorem WriterStage.rank_ofBatch (frames : List WireFrame) :
    (ofBatch frames).rank = 1 + frames.length := by
  cases frames <;> rfl

theorem Network.lockSection_rank {config : CoreConfig} {state state' : NetworkState}
    {c : ConnectionId} {command : Command} {stage stage' : Stage}
    (performed : lockSection config state c command stage = some (state', stage')) :
    stage'.rank < stage.rank := by
  cases lockSection_sectioned performed with
  | refused =>
      cases stage with
      | invoked | identifying | activating => exact Nat.succ_pos _
      | authorizing | authenticating | observing | returning => cases performed
  | identifyRead | loginRead | weatherRead | executed | identified | activated => simp [Stage.rank]

theorem Network.answerStage_rank {c : ConnectionId} {stage stage' : Stage} {answer : Answer}
    (received : answerStage c stage answer = some stage') : stage'.rank < stage.rank := by
  cases answerStage_answered received <;> simp [Stage.rank]

namespace Server

variable {setup : Setup} {s s' : Server} {action : Server.Action}

def taskRank (s : Server) : Nat := s.tasks.weigh (·.stage.rank s.world)

def dispatchWork (s : Server) : Nat :=
  s.maintenance.elim 0 Dispatch.work + s.tasks.weigh ConnectionTask.work

def queued (s : Server) : Nat := s.runtime.mailboxes.weigh (·.queue.length)

def writerRank (s : Server) : Nat := s.writers.weigh (·.stage.rank)

/-- What is left to do, the kinds of work in the order in which they make each other. -/
def leftover (s : Server) : Nat × Nat × Nat × Nat :=
  (s.taskRank, s.dispatchWork, s.queued, s.writerRank)

/-- Less is left to do. -/
def Less : Nat × Nat × Nat × Nat → Nat × Nat × Nat × Nat → Prop :=
  Prod.Lex (· < ·) (Prod.Lex (· < ·) (Prod.Lex (· < ·) (· < ·)))

theorem less_wellFounded : WellFounded Less :=
  (Prod.lex Nat.lt_wfRel (Prod.lex Nat.lt_wfRel (Prod.lex Nat.lt_wfRel Nat.lt_wfRel))).wf

theorem Less.tasks (fewer : s'.taskRank < s.taskRank) : Less s'.leftover s.leftover :=
  .left _ _ fewer

theorem Less.dispatches (tasks : s'.taskRank ≤ s.taskRank) (fewer : s'.dispatchWork < s.dispatchWork) :
    Less s'.leftover s.leftover := by
  obtain less | same := Nat.lt_or_eq_of_le tasks
  · exact .tasks less
  · rw [leftover, leftover, same]
    exact .right _ (.left _ _ fewer)

theorem Less.messages (tasks : s'.taskRank = s.taskRank)
    (dispatches : s'.dispatchWork = s.dispatchWork) (fewer : s'.queued < s.queued) :
    Less s'.leftover s.leftover := by
  rw [leftover, leftover, tasks, dispatches]
  exact .right _ (.right _ (.left _ _ fewer))

theorem Less.frames (tasks : s'.taskRank = s.taskRank)
    (dispatches : s'.dispatchWork = s.dispatchWork) (messages : s'.queued = s.queued)
    (fewer : s'.writerRank < s.writerRank) : Less s'.leftover s.leftover := by
  rw [leftover, leftover, tasks, dispatches, messages]
  exact .right _ (.right _ (.right _ fewer))

/-! ## Every step uses something up -/

theorem callRank_insert (w : World) (id : CallId) (call : Call) (stage : Stage)
    (less : stage.rank < call.stage.rank) (found : w.calls.lookup id = some call) (other : CallId) :
    (w.advance id call stage).callRank other ≤ w.callRank other ∧
      (w.advance id call stage).callRank id < w.callRank id := by
  have own : (w.advance id call stage).callRank id = stage.rank := by
    simp [World.callRank, World.advance]
  have before : w.callRank id = call.stage.rank := by simp [World.callRank, found]
  refine ⟨?_, by rwa [own, before]⟩
  by_cases here : other = id
  · subst here
    rw [own, before]
    exact Nat.le_of_lt less
  · rw [World.callRank, World.advance, AList.lookup_insert_ne here]
    exact Nat.le_refl _

/-- A world in which no call has more before it leaves no task with more before it. -/
theorem rank_mono {w w' : World} (calls : ∀ call, w'.callRank call ≤ w.callRank call)
    (stage : ConnectionStage) : stage.rank w' ≤ stage.rank w := by
  cases stage with
  | executing _ _ call => exact Nat.add_le_add_left (calls call) 7
  | _ => exact Nat.le_refl _

theorem weigh_rank_mono {w w' : World} (calls : ∀ call, w'.callRank call ≤ w.callRank call)
    (tasks : KeyedMap ConnectionId ConnectionTask) :
    tasks.weigh (·.stage.rank w') ≤ tasks.weigh (·.stage.rank w) :=
  KeyedMap.weigh_mono fun _ task _ => rank_mono calls task.stage

/-- A task that reaches a lower stage leaves the tasks fewer stages. -/
theorem taskRank_advance (before : Server) {id : ConnectionId} {task : ConnectionTask}
    {stage : ConnectionStage} (same : before.tasks = s.tasks)
    (calls : ∀ call, before.world.callRank call ≤ s.world.callRank call)
    (found : s.tasks.lookup id = some task)
    (lower : stage.rank before.world < task.stage.rank s.world) :
    (before.advance id task stage).taskRank < s.taskRank := by
  have others := weigh_rank_mono calls (s.tasks.erase id)
  have own := KeyedMap.weigh_erase (f := (·.stage.rank s.world)) found
  rw [taskRank, taskRank, own, advance, same, KeyedMap.weigh_insert]
  exact Nat.add_lt_add_of_lt_of_le lower others

theorem taskRank_finish (before : Server) {id : ConnectionId} {task : ConnectionTask}
    (same : before.tasks = s.tasks)
    (calls : ∀ call, before.world.callRank call ≤ s.world.callRank call)
    (found : s.tasks.lookup id = some task) : (before.finish id).taskRank < s.taskRank := by
  have others := weigh_rank_mono calls (s.tasks.erase id)
  have own := KeyedMap.weigh_erase (f := (·.stage.rank s.world)) found
  have some_ : 0 < task.stage.rank s.world := by
    cases task.stage <;> simp [ConnectionStage.rank]
  rw [taskRank, taskRank, own, finish, same]
  change KeyedMap.weigh (·.stage.rank before.world) (s.tasks.erase id) < _
  omega

/-- A call that comes to an end leaves the tasks no further. -/
theorem taskRank_moved {world : World} {id : ConnectionId} {task : ConnectionTask}
    (calls : ∀ call, world.callRank call ≤ s.world.callRank call)
    (found : s.tasks.lookup id = some task)
    (lower : task.stage.rank world < task.stage.rank s.world) :
    ({ s with world } : Server).taskRank < s.taskRank := by
  have others := weigh_rank_mono calls (s.tasks.erase id)
  have own := KeyedMap.weigh_erase (f := (·.stage.rank s.world)) found
  have own' := KeyedMap.weigh_erase (f := (·.stage.rank world)) found
  rw [taskRank, taskRank, own, own']
  exact Nat.add_lt_add_of_lt_of_le lower others

end Server

/-- A section of a dispatch leaves it fewer sections. -/
theorem Dispatched.work {json : SerdeJson} {serverName : String} {network : NetworkState}
    {runtime runtime' : Runtime} {dispatch next : Dispatch}
    (served : Dispatched json serverName network runtime dispatch runtime' (some next)) :
    next.work < dispatch.work := by
  obtain ⟨deliveries, cache, close, cursor⟩ := dispatch
  cases served with
  | turned between left | skipped between left | fetched between left =>
      obtain rfl : cursor = .next := between
      obtain rfl := left
      simp [Dispatch.work, Dispatch.deliveriesWork] <;> omega
  | addressed holds | offered holds =>
      obtain rfl := holds
      simp [Dispatch.work]
  | closes between left =>
      obtain rfl : cursor = .next := between
      simp [Dispatch.work]

/-- Only a new call gives a call number more to do. -/
theorem World.step_callRank {config : CoreConfig} {w w' : World} {action : Action}
    (step : w.step config action = some w') (old : ∀ id c command, action ≠ .call id c command)
    (call : CallId) : w'.callRank call ≤ w.callRank call := by
  cases action with
  | call id c command => exact absurd rfl (old id c command)
  | register =>
      obtain ⟨-, rfl⟩ := World.step_register.mp step
      exact Nat.le_refl _
  | lock id =>
      obtain ⟨before, state, stage, found, performed, rfl⟩ := World.step_lock.mp step
      exact (Server.callRank_insert w id before stage (Network.lockSection_rank performed) found call).1
  | answered id answer =>
      obtain ⟨before, stage, found, received, rfl⟩ := World.step_answered.mp step
      exact (Server.callRank_insert w id before stage (Network.answerStage_rank received) found call).1
  | ret id =>
      obtain ⟨_, _, _, -, rfl⟩ := World.step_ret.mp step
      by_cases here : call = id
      · subst here
        simp [World.callRank]
      · rw [World.callRank, AList.lookup_erase_ne here]
        exact Nat.le_refl _
  | disconnect =>
      obtain rfl := World.step_disconnect.mp step
      exact Nat.le_refl _
  | windDelta =>
      obtain rfl := World.step_windDelta.mp step
      exact Nat.le_refl _

namespace Server

variable {setup : Setup} {s s' : Server} {action : Server.Action}

/-- The action brings work in from outside. -/
def brings : Server.Action → Bool
  | .accept .. | .frame .. | .windDelta .. => true
  | _ => false

theorem afterHandshake_rank (setup : Setup) (id : ConnectionId) (task : ConnectionTask)
    (written : Bool) (w : World) :
    (afterHandshake setup id task written).rank w < ConnectionStage.handshaking.rank w := by
  unfold afterHandshake
  split
  · simp [ConnectionStage.rank]
  · split <;> simp [ConnectionStage.rank]

/-- A dispatch uses up one of its sections or lets its task go on. -/
theorem afterSection_less {id : ConnectionId} {task : ConnectionTask} {dispatch : Dispatch}
    {runtime : Runtime} {rest : Option Dispatch} (found : s.tasks.lookup id = some task)
    (holds : task.dispatch? = some dispatch)
    (served : Dispatched setup.json setup.server.serverName s.world.state s.runtime dispatch
      runtime rest) :
    Less (s.afterSection id task runtime rest).leftover s.leftover := by
  have same : ∀ call, s.world.callRank call ≤ s.world.callRank call := fun _ => Nat.le_refl _
  obtain ⟨listener, peer, challenge, stage⟩ := task
  -- with sections left, the task stays where it is
  have going : ∀ {next : Dispatch} {stage' : ConnectionStage}, rest = some next →
      ConnectionTask.dispatch? ⟨listener, peer, challenge, stage'⟩ = some next →
      stage'.rank s.world = stage.rank s.world →
      Less ({ s with runtime }.advance id ⟨listener, peer, challenge, stage⟩ stage').leftover
        s.leftover := by
    rintro next stage' rfl holds' ranks
    have fewer := served.work
    have ranked := KeyedMap.weigh_replace (f := (·.stage.rank s.world)) found
      ⟨listener, peer, challenge, stage'⟩
    have worked := KeyedMap.weigh_replace (f := ConnectionTask.work) found
      ⟨listener, peer, challenge, stage'⟩
    simp only [ConnectionTask.work, holds, holds', Option.elim_some] at worked
    refine .dispatches ?_ ?_
    · dsimp only at ranked
      rw [ranks] at ranked
      exact Nat.le_of_eq (Nat.add_right_cancel ranked)
    · simp only [dispatchWork, advance]
      omega
  cases stage with
  | dispatching frame context current proceeds =>
      obtain rfl := Option.some.inj holds
      cases rest with
      | some next => exact going rfl rfl rfl
      | none =>
          refine .tasks (taskRank_advance { s with runtime } rfl same found ?_)
          cases proceeds <;> simp [ConnectionStage.rank]
  | leaving current installed =>
      obtain rfl := Option.some.inj holds
      cases rest with
      | some next => exact going rfl rfl rfl
      | none =>
          cases installed with
          | true =>
              refine .tasks (taskRank_advance { s with runtime := runtime.cancel id } rfl
                same found ?_)
              simp [ConnectionStage.rank]
          | false => exact .tasks (taskRank_finish { s with runtime } rfl same found)
  | _ => cases holds

/-- A writer that reaches another stage. -/
theorem writerRank_advance (stage : WriterStage) {before : Server} {id : ConnectionId}
    {writer : Writer} (same : before.writers = s.writers)
    (stored : s.writers.lookup id = some writer) :
    (before.advanceWriter id writer stage).writerRank + writer.stage.rank =
      s.writerRank + stage.rank := by
  have replaced := KeyedMap.weigh_replace (f := fun writer => writer.stage.rank) stored
    { writer with stage }
  simp only [writerRank, advanceWriter, same]
  exact replaced

theorem queued_finishWriter (s : Server) (id : ConnectionId) (writer : Writer) :
    (s.finishWriter id writer).queued = s.queued :=
  KeyedMap.weigh_modify (f := fun mailbox : Channel Outbound => mailbox.queue.length)
    (g := Channel.close) (fun _ => rfl) s.runtime.mailboxes id

/-- A waiting writer that ends leaves fewer writers. -/
theorem Less.finishWriter {id : ConnectionId} {writer : Writer}
    (stored : s.writers.lookup id = some writer) (waits : writer.stage = .receiving) :
    Less (s.finishWriter id writer).leftover s.leftover := by
  refine .frames rfl rfl (queued_finishWriter ..) ?_
  have moved := writerRank_advance .finished rfl stored
  rw [waits] at moved
  change (s.advanceWriter id writer .finished).writerRank < _
  simp only [WriterStage.rank] at moved
  omega

/-- Taking a message leaves one message fewer. -/
theorem queued_recv {id : ConnectionId} {mailbox mailbox' : Channel Outbound} {message : Outbound}
    (found : s.runtime.mailboxes.lookup id = some mailbox)
    (taken : mailbox.recv = some (message, mailbox')) :
    KeyedMap.weigh (·.queue.length) (s.runtime.mailboxes.insert id mailbox') < s.queued := by
  obtain ⟨queue, waiting, rfl⟩ := Channel.recv_eq_some.mp taken
  have replaced := KeyedMap.weigh_replace (f := fun mailbox : Channel Outbound => mailbox.queue.length)
    found { mailbox with queue }
  simp only [waiting, List.length_cons] at replaced
  rw [queued]
  omega

/-- Every step that brings nothing in uses something up. -/
theorem Stepped.less (stepped : Stepped setup s action s') (own : brings action = false) :
    Less s'.leftover s.leftover := by
  have same : ∀ call, s.world.callRank call ≤ s.world.callRank call := fun _ => Nat.le_refl _
  cases stepped with
  | accepted | decoded | undecoded | broadcast => cases own
  | @registered id task world found stage moved =>
      refine .tasks (taskRank_advance { s with world } rfl
        (World.step_callRank moved (by simp)) found ?_)
      simp [stage, ConnectionStage.rank]
  | @refused id task world error found stage moved =>
      refine .tasks (taskRank_advance { s with world } rfl
        (World.step_callRank moved (by simp)) found ?_)
      simp [stage, ConnectionStage.rank]
  | turnedAway found => exact .tasks (taskRank_finish s rfl same found)
  | handshake found stage =>
      refine .tasks (taskRank_advance s rfl same found ?_)
      rw [stage]
      exact afterHandshake_rank ..
  | installed found stage =>
      refine .tasks (taskRank_advance s rfl same found ?_)
      simp [stage, ConnectionStage.rank]
  | locked found stage moved =>
      refine .tasks (taskRank_moved (World.step_callRank moved (by simp)) found ?_)
      obtain ⟨before, state, next, asked, performed, rfl⟩ := World.step_lock.mp moved
      rw [stage]
      exact Nat.add_lt_add_left (callRank_insert s.world _ before next
        (Network.lockSection_rank performed) asked 0).2 7
  | answered found stage moved =>
      refine .tasks (taskRank_moved (World.step_callRank moved (by simp)) found ?_)
      obtain ⟨before, next, asked, received, rfl⟩ := World.step_answered.mp moved
      rw [stage]
      exact Nat.add_lt_add_left (callRank_insert s.world _ before next
        (Network.answerStage_rank received) asked 0).2 7
  | @executed id task frame context call world caller command effects found stage returns moved =>
      refine .tasks (taskRank_advance { s with world } rfl
        (World.step_callRank moved (by simp)) found ?_)
      rw [stage]
      simp only [ConnectionStage.rank]
      omega
  | left found stage =>
      refine .tasks (taskRank_advance s rfl same found ?_)
      simp [stage, ConnectionStage.rank]
  | removed found stage =>
      refine .tasks (taskRank_advance s rfl same found ?_)
      simp [stage, ConnectionStage.rank]
  | @disconnected id task reason installed world found stage moved =>
      refine .tasks (taskRank_advance { s with world } rfl
        (World.step_callRank moved (by simp)) found ?_)
      simp [stage, ConnectionStage.rank]
  | joined found => exact .tasks (taskRank_finish s rfl same found)
  | @maintained dispatch runtime rest holds served =>
      refine .dispatches (Nat.le_refl _) ?_
      simp only [dispatchWork, holds, Option.elim_some]
      cases rest with
      | some next => exact Nat.add_lt_add_right served.work _
      | none =>
          have some_ : 0 < dispatch.work := by
            unfold Dispatch.work
            split <;> omega
          exact Nat.add_lt_add_right some_ _
  | dispatched found holds served => exact afterSection_less found holds served
  | @received id writer mailbox mailbox' batch stored found waits taken =>
      exact .messages rfl rfl (queued_recv found taken)
  | @receivedClose id writer mailbox mailbox' stored found waits taken =>
      refine .messages rfl rfl ?_
      rw [queued_finishWriter]
      exact queued_recv found taken
  | abandoned stored found waits => exact .finishWriter stored waits
  | @sent id written writer frame frames stored sending =>
      refine .frames rfl rfl rfl ?_
      have moved := writerRank_advance (WriterStage.ofBatch frames) rfl stored
      rw [sending, WriterStage.rank_ofBatch] at moved
      simp only [WriterStage.rank, List.length_cons] at moved
      omega
  | @failed id written writer frame frames stored sending =>
      refine .frames rfl rfl (queued_finishWriter ..) ?_
      have moved := writerRank_advance .finished rfl stored
      rw [sending] at moved
      change (s.advanceWriter id writer .finished).writerRank < _
      simp only [WriterStage.rank, List.length_cons] at moved
      omega

end Server

end AsterFsd
