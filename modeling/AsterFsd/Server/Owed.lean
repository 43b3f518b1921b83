import AsterFsd.Core.Announcements
import AsterFsd.Lib.Feed
import AsterFsd.Server.Mailboxes

/-! # What tasks owe a recipient

Each task of the server is a producer of the mailbox of a recipient: it owes the recipient the events of
its last commit until it has enqueued or dropped them. A step of the server moves what the tasks owe as a
move of the mailbox does.
-/

namespace AsterFsd

variable {r : ConnectionId}

/-! ## What a dispatch has for a recipient -/

/-- The events of the deliveries for `r`, once for each time one of them names it. -/
def eventsTo (r : ConnectionId) (deliveries : List Delivery) : List Event :=
  deliveries.flatMap fun delivery => (delivery.recipients.filter (· = r)).map fun _ => delivery.event

theorem eventsTo_cons {id : ConnectionId} {recipients : List ConnectionId} {event : Event}
    {rest : List Delivery} : eventsTo r (⟨id :: recipients, event⟩ :: rest) =
      (if id = r then [event] else []) ++ eventsTo r (⟨recipients, event⟩ :: rest) := by
  by_cases here : id = r
  · simp [eventsTo, here, List.replicate_succ]
  · simp [eventsTo, here]

theorem filterMap_eventsTo (r : ConnectionId) (deliveries : List Delivery) :
    (eventsTo r deliveries).filterMap Event.notice = noticesTo r deliveries := by
  simp only [eventsTo, noticesTo, List.filterMap_flatMap, List.filterMap_map, Function.comp_def]

namespace Dispatch

/-- The events that a dispatch still has for `r`, the one it holds a handle for first. -/
def eventsTo (r : ConnectionId) (dispatch : Dispatch) : List Event :=
  match dispatch.cursor with
  | .next => AsterFsd.eventsTo r dispatch.deliveries
  | .fetched id _ event | .addressed id _ event _ =>
      (if id = r then [event] else []) ++ AsterFsd.eventsTo r dispatch.deliveries
  | .closing .. => []

/-- What the next section of a dispatch does to the mailbox of `r`. -/
def move (json : SerdeJson) (runtime : Runtime) (r : ConnectionId) (task : TaskId)
    (dispatch : Dispatch) : Feed.Move TaskId Event :=
  match dispatch.cursor, dispatch.deliveries with
  | .next, ⟨id :: _, _⟩ :: _ =>
      if id = r ∧ runtime.connections.lookup id = none then .drop task else .idle
  | .addressed id .., _ =>
      if id ≠ r then .idle
      else if (dispatch.posts json runtime r).isEmpty then .drop task
      else .enqueue task
  | _, _ => .idle

theorem move_ne_commit {json : SerdeJson} {runtime : Runtime} {r : ConnectionId} {task producer : TaskId}
    {dispatch : Dispatch} {values : List Event} :
    dispatch.move json runtime r task ≠ .commit producer values := by
  unfold move
  split
  · split <;> exact fun same => by cases same
  · split
    · exact fun same => by cases same
    · split <;> exact fun same => by cases same
  · exact fun same => by cases same

/-- A section enqueues an event for `r` exactly when it puts the frames of it into the mailbox. -/
theorem batches_move (json : SerdeJson) (runtime : Runtime) (r : ConnectionId) (task : TaskId)
    (dispatch : Dispatch) :
    (∃ handle event context frames, dispatch.cursor = .addressed r handle event context ∧
      dispatch.move json runtime r task = .enqueue task ∧
      Outbound.batches (dispatch.posts json runtime r) = [frames] ∧
      (encodeCached json handle.backend context event dispatch.encodedByDialect).1 = .ok frames) ∨
    (∀ other, dispatch.move json runtime r task ≠ .enqueue other) ∧
      Outbound.batches (dispatch.posts json runtime r) = [] := by
  obtain ⟨deliveries, encodedByDialect, close, cursor⟩ := dispatch
  cases cursor with
  | next =>
      refine .inr ⟨fun other same => ?_, rfl⟩
      cases deliveries with
      | nil => cases same
      | cons delivery rest =>
          obtain ⟨recipients, event⟩ := delivery
          cases recipients with
          | nil => cases same
          | cons id recipients =>
              simp only [move] at same
              split at same <;> cases same
  | fetched id handle event => exact .inr ⟨(fun other same => by cases same), rfl⟩
  | closing id handle =>
      refine .inr ⟨(fun other same => by cases same), ?_⟩
      simp only [posts, message?]
      split <;> rfl
  | addressed id handle event context =>
      have refused : Dispatch.posts json runtime r
          ⟨deliveries, encodedByDialect, close, .addressed id handle event context⟩ = [] →
          (∀ other, Dispatch.move json runtime r task
            ⟨deliveries, encodedByDialect, close, .addressed id handle event context⟩ ≠
              .enqueue other) ∧
          Outbound.batches (Dispatch.posts json runtime r
            ⟨deliveries, encodedByDialect, close, .addressed id handle event context⟩) = [] := by
        intro none_
        rw [none_]
        refine ⟨fun other same => ?_, rfl⟩
        simp only [move, none_] at same
        split at same <;> cases same
      cases encoded : (encodeCached json handle.backend context event encodedByDialect).1 with
      | error error => exact .inr (refused (by simp [posts, message?, encoded, Except.map]))
      | ok frames =>
          have posted : Dispatch.posts json runtime r
              ⟨deliveries, encodedByDialect, close, .addressed id handle event context⟩ =
                if id = r ∧ runtime.HasRoom r then [.frames frames] else [] := by
            simp [posts, message?, encoded, Except.map]
          by_cases taken : id = r ∧ runtime.HasRoom r
          · rw [if_pos taken] at posted
            obtain ⟨rfl, room⟩ := taken
            refine .inl ⟨handle, event, context, frames, rfl, ?_, by rw [posted]; rfl, encoded⟩
            simp [move, posted]
          · exact .inr (refused (by rw [posted, if_neg taken]))

/-- A section hands over the first event that the dispatch has for `r`, drops it, or keeps what it has. -/
theorem eventsTo_dispatched {json : SerdeJson} {serverName : String} {network : NetworkState}
    {runtime runtime' : Runtime} {dispatch : Dispatch} {rest : Option Dispatch}
    (served : Dispatched json serverName network runtime dispatch runtime' rest) (r : ConnectionId)
    (task : TaskId) {owed : TaskId → List Event} (owes : owed task = dispatch.eventsTo r) :
    Function.update owed task (rest.elim [] (·.eventsTo r)) =
      Feed.after owed (dispatch.move json runtime r task) := by
  have kept : ∀ {events : List Event}, events = dispatch.eventsTo r →
      Function.update owed task events = owed := by
    rintro events rfl
    rw [← owes, Function.update_eq_self]
  obtain ⟨deliveries, encodedByDialect, close, cursor⟩ := dispatch
  cases served with
  | turned between left =>
      subst between left
      exact kept rfl
  | @skipped id recipients event rest between left absent =>
      subst between left
      have events : owed task = (if id = r then [event] else []) ++
          AsterFsd.eventsTo r (⟨recipients, event⟩ :: rest) := owes.trans eventsTo_cons
      by_cases here : id = r
      · have drops : Dispatch.move json runtime r task
            ⟨⟨id :: recipients, event⟩ :: rest, encodedByDialect, close, .next⟩ = .drop task :=
          if_pos ⟨here, absent⟩
        rw [if_pos here] at events
        rw [drops]
        change _ = Function.update owed task (owed task).tail
        rw [events]
        rfl
      · rw [if_neg here] at events
        have idle : Dispatch.move json runtime r task
            ⟨⟨id :: recipients, event⟩ :: rest, encodedByDialect, close, .next⟩ = .idle :=
          if_neg fun both => here both.1
        rw [idle]
        exact kept (events.symm.trans owes)
  | @fetched id recipients event rest handle between left found =>
      subst between left
      have idle : Dispatch.move json runtime r task
          ⟨⟨id :: recipients, event⟩ :: rest, encodedByDialect, close, .next⟩ = .idle :=
        if_neg fun both => by cases found.symm.trans both.2
      rw [idle]
      exact kept eventsTo_cons.symm
  | addressed holds =>
      subst holds
      exact kept rfl
  | @offered id handle event context frames cache holds encoded =>
      subst holds
      by_cases here : id = r
      · have events : owed task = event :: AsterFsd.eventsTo r deliveries := by
          rw [owes]
          simp [eventsTo, here]
        have tail : Feed.after owed (Dispatch.move json runtime r task
            ⟨deliveries, encodedByDialect, close, .addressed id handle event context⟩) =
            Function.update owed task (owed task).tail := by
          simp only [move, here, ne_eq, not_true_eq_false, if_false]
          split <;> rfl
        rw [tail, events]
        rfl
      · have idle : Dispatch.move json runtime r task
            ⟨deliveries, encodedByDialect, close, .addressed id handle event context⟩ = .idle :=
          if_pos here
        rw [idle]
        exact kept (by simp [eventsTo, here])
  | ended between left =>
      subst between left
      exact kept rfl
  | closes between left asked found =>
      subst between left
      exact kept rfl
  | closed holds =>
      subst holds
      exact kept rfl

end Dispatch

namespace Server

variable {setup : Setup} {s s' : Server} {action : Server.Action} {j : ConnectionId}

/-! ## What a task owes a recipient -/

/-- The events that a task at this stage still has for `j`. -/
def stageOwes (world : World) (j : ConnectionId) : ConnectionStage → List Event
  | .executing _ _ call =>
      eventsTo j ((world.calls.lookup call).elim {} (·.stage.effects)).deliveries
  | .dispatching _ _ dispatch _ => dispatch.eventsTo j
  | .leaving dispatch _ => dispatch.eventsTo j
  | _ => []

/-- The events that a task still has for `j`. -/
def owes (s : Server) (j : ConnectionId) : TaskId → List Event
  | .connection id => (s.tasks.lookup id).elim [] fun task => stageOwes s.world j task.stage
  | .maintenance => s.maintenance.elim [] (·.eventsTo j)

/-- The effects that a step brings about, and the task that will dispatch them: those that the core
    commits in it, or those of a frame that does not decode. -/
def produces (setup : Setup) (s : Server) : Server.Action → Option (TaskId × Effects)
  | .frame id bytes => do
      let task ← s.tasks.lookup id
      let context := s.decodeContext id task.challenge
      match task.backend.decode setup.json context bytes with
      | .ok _ => none
      | .error error => some (.connection id, decodeErrorEffects context error)
  | .lock id => do
      let task ← s.tasks.lookup id
      match task.stage with
      | .executing _ _ call => some (.connection id, s.world.committed setup.core (.lock call))
      | _ => none
  | .answered id answer => do
      let task ← s.tasks.lookup id
      match task.stage with
      | .executing _ _ call =>
          some (.connection id, s.world.committed setup.core (.answered call answer))
      | _ => none
  | .disconnect id => do
      let task ← s.tasks.lookup id
      match task.stage with
      | .disconnecting reason _ =>
          some (.connection id, s.world.committed setup.core (.disconnect id reason))
      | _ => none
  | .windDelta speed direction =>
      some (.maintenance, s.world.committed setup.core (.windDelta speed direction))
  | _ => none

/-- The effects that a step brings about. -/
def effects (setup : Setup) (s : Server) (action : Server.Action) : Effects :=
  (s.produces setup action).elim {} Prod.snd

/-- A step brings about what the core commits in it, or the error for a frame that does not decode. -/
theorem Stepped.effects (stepped : Stepped setup s action s') :
    (s'.world = s.world ∧ (s.effects setup action = {} ∨
        ∃ context error, s.effects setup action = decodeErrorEffects context error)) ∨
      ∃ moved, s.world.step setup.core moved = some s'.world ∧
        s.effects setup action = s.world.committed setup.core moved := by
  cases stepped with
  | registered found stage moved | refused found stage moved =>
      obtain ⟨unregistered, rfl⟩ := World.step_register.mp moved
      exact .inr ⟨_, moved, by simp [Server.effects, produces, World.committed, World.perform, unregistered]⟩
  | decoded found stage decodes moved =>
      exact .inr ⟨_, moved, by simp [Server.effects, produces, found, decodes, World.committed, World.perform]⟩
  | undecoded found stage fails =>
      exact .inl ⟨rfl, .inr ⟨_, _, by simp [Server.effects, produces, found, fails]; rfl⟩⟩
  | locked found stage moved | answered found stage moved | disconnected found stage moved =>
      exact .inr ⟨_, moved, by simp [Server.effects, produces, found, stage]⟩
  | executed found stage returns moved =>
      exact .inr ⟨_, moved, by simp [Server.effects, produces, World.committed, World.perform, returns]⟩
  | broadcast idle moved => exact .inr ⟨_, moved, rfl⟩
  | dispatched => exact .inl ⟨afterSection_world .., .inl rfl⟩
  | _ => exact .inl ⟨rfl, .inl rfl⟩

/-- What a step does to the mailbox of `j`. -/
def move (setup : Setup) (j : ConnectionId) (s : Server) (action : Server.Action) :
    Feed.Move TaskId Event :=
  match s.produces setup action with
  | some (task, effects) => .commit task (eventsTo j effects.deliveries)
  | none =>
      match action with
      | .dispatch task =>
          (s.dispatchOf task).elim .idle fun dispatch => dispatch.move setup.json s.runtime j task
      | _ => .idle

theorem move_dispatch {task : TaskId} {dispatch : Dispatch} (held : s.dispatchOf task = some dispatch) :
    move setup j s (.dispatch task) = dispatch.move setup.json s.runtime j task := by
  simp [move, produces, held]

/-- What a step commits to the mailbox of `j` is what it brings about for `j`. -/
theorem move_commit {task : TaskId} {values : List Event}
    (commits : move setup j s action = .commit task values) :
    ∃ effects, s.produces setup action = some (task, effects) ∧
      values = eventsTo j effects.deliveries := by
  unfold move at commits
  cases produces : s.produces setup action with
  | some made =>
      obtain ⟨producer, effects⟩ := made
      simp only [produces, Feed.Move.commit.injEq] at commits
      obtain ⟨rfl, rfl⟩ := commits
      exact ⟨effects, rfl, rfl⟩
  | none =>
      simp only [produces] at commits
      cases action with
      | dispatch producer =>
          dsimp only at commits
          cases held : s.dispatchOf producer with
          | none => simp [held] at commits
          | some dispatch =>
              simp only [held, Option.elim_some] at commits
              exact absurd commits Dispatch.move_ne_commit
      | _ => cases commits

theorem owes_dispatchOf {task : TaskId} {dispatch : Dispatch}
    (held : s.dispatchOf task = some dispatch) : s.owes j task = dispatch.eventsTo j := by
  cases task with
  | maintenance =>
      have held : s.maintenance = some dispatch := held
      simp [owes, held]
  | connection id =>
      obtain ⟨⟨listener, peer, challenge, stage⟩, found, held⟩ := Option.bind_eq_some_iff.mp held
      simp only [owes, found, Option.elim_some]
      cases stage with
      | dispatching frame context started proceeds =>
          obtain rfl := Option.some.inj held
          rfl
      | leaving started installed =>
          obtain rfl := Option.some.inj held
          rfl
      | _ => cases held

/-! ## Whose call it is -/

/-- The call that a task executes is its own. A call number that was not drawn yet belongs to nobody. -/
def CallsOwned (s : Server) : Prop :=
  ∀ id task, s.tasks.lookup id = some task → ∀ frame context call,
    task.stage = .executing frame context call →
      call < s.world.nextCall ∧
        ∀ record, s.world.calls.lookup call = some record → record.connectionId = id

private theorem owned_world {world : World} {moved : AsterFsd.Action} {id : ConnectionId} {call : CallId}
    (drawn : call < s.world.nextCall)
    (own : ∀ record, s.world.calls.lookup call = some record → record.connectionId = id)
    (step : s.world.step setup.core moved = some world) :
    call < world.nextCall ∧
      ∀ record, world.calls.lookup call = some record → record.connectionId = id := by
  refine ⟨Nat.lt_of_lt_of_le drawn (World.step_nextCall_le step), fun record found => ?_⟩
  obtain stored | ⟨_, _, -, fresh, -⟩ | ⟨before, stage, -, stored, rfl, -⟩ |
    ⟨before, answer, stage, -, stored, rfl, -⟩ := World.step_calls step found
  · exact own record stored
  · exact absurd fresh (Nat.ne_of_lt drawn)
  · exact own before stored
  · exact own before stored

theorem afterDispatch_ne_executing {id : ConnectionId} {task : ConnectionTask} {dispatch : Dispatch}
    {runtime : Runtime} {rest : Option Dispatch} {frame : List UInt8} {context : DecodeContext}
    {call : CallId} (holds : task.dispatch? = some dispatch) :
    (afterDispatch id runtime task.stage rest).2 ≠ some (.executing frame context call) := by
  obtain ⟨listener, peer, challenge, before⟩ := task
  cases before with
  | dispatching frame context dispatch proceeds =>
      cases rest with
      | none => cases proceeds <;> exact fun same => by cases same
      | some rest => exact fun same => by cases same
  | leaving dispatch installed =>
      cases rest with
      | none => cases installed <;> exact fun same => by cases same
      | some rest => exact fun same => by cases same
  | _ => cases holds

/-- After a section a task owes what its dispatch has left. -/
theorem afterDispatch_owes {id : ConnectionId} {task : ConnectionTask} {dispatch : Dispatch}
    {runtime : Runtime} {rest : Option Dispatch} (holds : task.dispatch? = some dispatch)
    (world : World) (j : ConnectionId) :
    (afterDispatch id runtime task.stage rest).2.elim [] (stageOwes world j) =
      rest.elim [] (·.eventsTo j) := by
  obtain ⟨listener, peer, challenge, before⟩ := task
  cases before with
  | dispatching frame context dispatch proceeds =>
      cases rest with
      | none => cases proceeds <;> rfl
      | some rest => rfl
  | leaving dispatch installed =>
      cases rest with
      | none => cases installed <;> rfl
      | some rest => rfl
  | _ => cases holds

theorem Stepped.owned (stepped : Stepped setup s action s') (owned : s.CallsOwned) :
    s'.CallsOwned := by
  have others : ∀ id task, s.tasks.lookup id = some task → ∀ frame context call,
      task.stage = .executing frame context call →
        call < s'.world.nextCall ∧
          ∀ record, s'.world.calls.lookup call = some record → record.connectionId = id := by
    intro id task found frame context call stage
    obtain ⟨drawn, own⟩ := owned id task found frame context call stage
    obtain same | ⟨moved, step⟩ := stepped.world
    · rw [same]
      exact ⟨drawn, own⟩
    · exact owned_world drawn own step
  cases stepped with
  | @accepted peer listener challenge fresh unregistered =>
      intro id task found frame context call stage
      by_cases here : id = ⟨s.nextConnectionId⟩
      · subst here
        obtain rfl := Option.some.inj ((AList.lookup_insert _).symm.trans found)
        cases stage
      · exact others id task ((AList.lookup_insert_ne here).symm.trans found) frame context call stage
  | registered found stage moved => exact advance_tasks others fun _ _ _ same => by cases same
  | refused found stage moved fails => exact advance_tasks others fun _ _ _ same => by cases same
  | turnedAway found stage => exact finish_tasks others
  | @handshake id written task found stage =>
      refine advance_tasks others fun frame context call same => ?_
      unfold afterHandshake at same
      split at same
      · cases same
      · split at same <;> cases same
  | installed found stage => exact advance_tasks others fun _ _ _ same => by cases same
  | @decoded id bytes task command world found stage decodes moved =>
      refine advance_tasks (s := { s with world }) others fun frame context call same => ?_
      cases same
      obtain ⟨-, rfl⟩ := World.step_call.mp moved
      refine ⟨Nat.lt_succ_self _, fun record drawn => ?_⟩
      obtain rfl := Option.some.inj ((AList.lookup_insert _).symm.trans drawn)
      rfl
  | undecoded found stage fails => exact advance_tasks others fun _ _ _ same => by cases same
  | locked found stage moved => exact others
  | answered found stage moved => exact others
  | @executed id task frame context call world caller command effects found stage returns moved =>
      exact advance_tasks (s := { s with world }) others fun _ _ _ same => by cases same
  | left found stage => exact advance_tasks others fun _ _ _ same => by cases same
  | removed found stage => exact advance_tasks others fun _ _ _ same => by cases same
  | @disconnected id task reason installed world found stage moved =>
      exact advance_tasks (s := { s with world }) others fun _ _ _ same => by cases same
  | joined found stage stored ended => exact finish_tasks others
  | broadcast idle moved => exact others
  | maintained holds served => exact others
  | @dispatched id task dispatch runtime rest found holds served =>
      intro i task' kept frame context call same
      rw [lookup_afterSection] at kept
      split at kept
      · obtain ⟨stage, left, rfl⟩ := Option.map_eq_some_iff.mp kept
        obtain rfl : stage = .executing frame context call := same
        exact absurd left (afterDispatch_ne_executing holds)
      · exact others i task' kept frame context call same
  | received => exact others
  | receivedClose => exact others
  | abandoned => exact others
  | sent => exact others
  | failed => exact others

theorem reachable_owned (reach : (server setup).Reachable s) : s.CallsOwned := by
  refine reach.invariant CallsOwned (fun _ _ found => by cases found) ?_
  intro s action s' owned step
  exact (step_stepped step).owned owned

/-! ## What a step does -/

/-- When only the task of `id` moves, only what it owes changes. -/
theorem owes_task {id : ConnectionId} (world : s'.world = s.world)
    (maintenance : s'.maintenance = s.maintenance)
    (others : ∀ i, i ≠ id → s'.tasks.lookup i = s.tasks.lookup i) :
    s'.owes j = Function.update (s.owes j) (.connection id) (s'.owes j (.connection id)) := by
  funext producer
  by_cases here : producer = .connection id
  · rw [here, Function.update_self]
  · rw [Function.update_of_ne here]
    cases producer with
    | maintenance => simp only [owes, maintenance]
    | connection i =>
        have other : i ≠ id := fun same => here (congrArg _ same)
        simp only [owes, world, others i other]

theorem owes_advance (s : Server) (id j : ConnectionId) (task : ConnectionTask)
    (stage : ConnectionStage) : (s.advance id task stage).owes j =
      Function.update (s.owes j) (.connection id) (stageOwes s.world j stage) := by
  have own : (s.advance id task stage).owes j (.connection id) = stageOwes s.world j stage := by
    simp [owes, lookup_advance]
  rw [← own]
  exact owes_task rfl rfl fun i other => (lookup_advance ..).trans (if_neg other)

theorem owes_finish (s : Server) (id j : ConnectionId) : (s.finish id).owes j =
    Function.update (s.owes j) (.connection id) [] := by
  have own : (s.finish id).owes j (.connection id) = [] := by
    simp [owes, lookup_finish]
  rw [← own]
  exact owes_task rfl rfl fun i other => (lookup_finish ..).trans (if_neg other)

theorem owes_afterSection {id : ConnectionId} {task : ConnectionTask} {dispatch : Dispatch}
    {runtime : Runtime} {rest : Option Dispatch} (holds : task.dispatch? = some dispatch) :
    (s.afterSection id task runtime rest).owes j =
      Function.update (s.owes j) (.connection id) (rest.elim [] (·.eventsTo j)) := by
  have own : (s.afterSection id task runtime rest).owes j (.connection id) =
      rest.elim [] (·.eventsTo j) := by
    have owed : (afterDispatch id runtime task.stage rest).2.elim [] (stageOwes s.world j) =
        rest.elim [] (·.eventsTo j) := afterDispatch_owes holds s.world j
    rw [← owed]
    simp only [owes, lookup_afterSection, if_true, afterSection_world]
    cases (afterDispatch id runtime task.stage rest).2 <;> rfl
  rw [← own]
  exact owes_task (afterSection_world ..) (afterSection_maintenance ..) fun i other =>
    (lookup_afterSection ..).trans (if_neg other)

/-- No task but `id` executes the call that the action of the core is about. -/
def Alone (s : Server) (id : ConnectionId) (moved : AsterFsd.Action) : Prop :=
  ∀ i task frame context call, i ≠ id → s.tasks.lookup i = some task →
    task.stage = .executing frame context call → moved.call? ≠ some call

/-- A step of the core changes at most what the task owes whose call it is about. -/
theorem owes_moved {world : World} {moved : AsterFsd.Action} {id : ConnectionId}
    (step : s.world.step setup.core moved = some world) (alone : s.Alone id moved) :
    ({ s with world } : Server).owes j = Function.update (s.owes j) (.connection id)
      ((s.tasks.lookup id).elim [] fun task => stageOwes world j task.stage) := by
  funext producer
  by_cases here : producer = .connection id
  · subst here
    rw [Function.update_self]
    rfl
  · rw [Function.update_of_ne here]
    cases producer with
    | maintenance => rfl
    | connection i =>
        have other : i ≠ id := fun same => here (congrArg _ same)
        simp only [owes]
        cases found : s.tasks.lookup i with
        | none => rfl
        | some task =>
            simp only [Option.elim_some]
            cases stage : task.stage with
            | executing frame context call =>
                simp only [stageOwes]
                rw [World.step_lookup_ne step (alone i task frame context call other found stage)]
            | _ => rfl

theorem owes_moved_advance {world : World} {moved : AsterFsd.Action} {id : ConnectionId}
    (step : s.world.step setup.core moved = some world) (alone : s.Alone id moved)
    (task : ConnectionTask) (stage : ConnectionStage) :
    (({ s with world } : Server).advance id task stage).owes j =
      Function.update (s.owes j) (.connection id) (stageOwes world j stage) := by
  rw [owes_advance, owes_moved step alone, Function.update_idem]

/-- An action of the core that is about no call is alone. -/
theorem alone_of_callless {id : ConnectionId} {moved : AsterFsd.Action} (callless : moved.call? = none) :
    s.Alone id moved := by
  intro i task frame context call other found stage same
  cases callless.symm.trans same

theorem CallsOwned.alone {id : ConnectionId} {task : ConnectionTask} {frame : List UInt8}
    {context : DecodeContext} {call : CallId} {record : Call} {moved : AsterFsd.Action}
    (owned : s.CallsOwned) (found : s.tasks.lookup id = some task)
    (stage : task.stage = .executing frame context call)
    (stored : s.world.calls.lookup call = some record) (about : moved.call? = some call) :
    s.Alone id moved := by
  intro i task' frame' context' call' other found' stage' same
  obtain rfl : call = call' := Option.some.inj (about.symm.trans same)
  have mine := (owned id task found frame context call stage).2 record stored
  have theirs := (owned i task' found' frame' context' call stage').2 record stored
  exact other (theirs.symm.trans mine)

theorem lockSection_effects {config : CoreConfig} {state state' : NetworkState} {c : ConnectionId}
    {command : Command} {stage stage' : Stage}
    (performed : Network.lockSection config state c command stage = some (state', stage')) :
    stage.effects = {} := by
  cases stage with
  | returning effects => cases performed
  | _ => rfl

theorem answerStage_effects {c : ConnectionId} {stage stage' : Stage} {answer : Answer}
    (received : Network.answerStage c stage answer = some stage') : stage.effects = {} := by
  cases stage with
  | returning effects => cases received
  | _ => rfl

/-- What tasks owe `j` moves with the mailbox of `j`. -/
theorem Stepped.owes (stepped : Stepped setup s action s') (owned : s.CallsOwned) (j : ConnectionId) :
    s'.owes j = Feed.after (s.owes j) (move setup j s action) := by
  have owing : ∀ {id : ConnectionId} {task : ConnectionTask}, s.tasks.lookup id = some task →
      s.owes j (.connection id) = stageOwes s.world j task.stage := by
    intro id task found
    simp [Server.owes, found]
  have idle : ∀ {id : ConnectionId} {events : List Event}, s.owes j (.connection id) = events →
      Function.update (s.owes j) (.connection id) events = s.owes j := by
    rintro id events rfl
    exact Function.update_eq_self ..
  -- A task between frames owes nothing.
  have resting : ∀ {id : ConnectionId} {task : ConnectionTask} {stage : ConnectionStage},
      s.tasks.lookup id = some task → task.stage = stage → stageOwes s.world j stage = [] →
        s.owes j (.connection id) = [] := by
    intro id task stage found reached none_
    rw [owing found, reached, none_]
  cases stepped with
  | @accepted peer listener challenge fresh unregistered =>
      have none_ : s.owes j (.connection ⟨s.nextConnectionId⟩) = [] := by
        simp [Server.owes, AList.lookup_eq_none.mpr fresh]
      exact (owes_advance s _ j ⟨listener, peer, challenge, .accepted⟩ .accepted).trans (idle none_)
  | @registered id task world found stage moved =>
      exact (owes_moved_advance moved (alone_of_callless rfl) task .handshaking).trans
        (idle (resting found stage rfl))
  | @refused id task world error found stage moved fails =>
      exact (owes_moved_advance moved (alone_of_callless rfl) task
        (.refusing (refusal setup id task error))).trans (idle (resting found stage rfl))
  | @turnedAway id task frames found stage =>
      rw [owes_finish]
      exact idle (resting found stage rfl)
  | @handshake id written task found stage =>
      have nothing : stageOwes s.world j (afterHandshake setup id task written) = [] := by
        unfold afterHandshake
        split
        · rfl
        · split <;> rfl
      rw [owes_advance, nothing]
      exact idle (resting found stage rfl)
  | @installed id task found stage =>
      rw [owes_advance]
      exact idle (resting found stage rfl)
  | @decoded id bytes task command world found stage decodes moved =>
      have alone : s.Alone id (.call s.world.nextCall id command) := by
        intro i task' frame context call other found' stage' same
        obtain rfl := Option.some.inj same
        exact Nat.lt_irrefl _ (owned i task' found' frame context _ stage').1
      have fresh : stageOwes world j
          (.executing bytes (s.decodeContext id task.challenge) s.world.nextCall) = [] := by
        obtain ⟨-, rfl⟩ := World.step_call.mp moved
        simp [stageOwes, Stage.effects, eventsTo]
      have still : move setup j s (.frame id bytes) = .idle := by
        simp [move, produces, found, decodes]
      rw [owes_moved_advance moved alone, fresh, still]
      exact idle (resting found stage rfl)
  | @undecoded id bytes task error found stage fails =>
      have commits : move setup j s (.frame id bytes) = .commit (.connection id)
          (eventsTo j (decodeErrorEffects (s.decodeContext id task.challenge) error).deliveries) := by
        simp [move, produces, found, fails]
      have nothing := resting found stage rfl
      rw [owes_advance, commits, Feed.after_commit nothing]
      rfl
  | @locked id task frame context call world found stage moved =>
      obtain ⟨record, state, reached, stored, performed, rfl⟩ := World.step_lock.mp moved
      have alone : s.Alone id (.lock call) := owned.alone found stage stored rfl
      have commits : move setup j s (.lock id) =
          .commit (.connection id) (eventsTo j reached.effects.deliveries) := by
        simp [move, produces, found, stage, World.committed_lock stored performed]
      have nothing : s.owes j (.connection id) = [] := by
        rw [owing found, stage]
        simp [stageOwes, stored, lockSection_effects performed, eventsTo]
      have owed : stageOwes { s.world.advance call record reached with state } j task.stage =
          eventsTo j reached.effects.deliveries := by
        simp [stage, stageOwes, World.advance]
      rw [owes_moved moved alone, found, Option.elim_some, owed, commits, Feed.after_commit nothing]
  | @answered id answer task frame context call world found stage moved =>
      obtain ⟨record, reached, stored, received, rfl⟩ := World.step_answered.mp moved
      have alone : s.Alone id (.answered call answer) := owned.alone found stage stored rfl
      have commits : move setup j s (.answered id answer) =
          .commit (.connection id) (eventsTo j reached.effects.deliveries) := by
        simp [move, produces, found, stage, World.committed_answered stored received]
      have nothing : s.owes j (.connection id) = [] := by
        rw [owing found, stage]
        simp [stageOwes, stored, answerStage_effects received, eventsTo]
      have owed : stageOwes (s.world.advance call record reached) j task.stage =
          eventsTo j reached.effects.deliveries := by
        simp [stage, stageOwes, World.advance]
      rw [owes_moved moved alone, found, Option.elim_some, owed, commits, Feed.after_commit nothing]
  | @executed id task frame context call world caller command effects found stage returns moved =>
      have alone : s.Alone id (.ret call) := owned.alone found stage returns rfl
      rw [owes_moved_advance moved alone]
      refine idle ((owing found).trans ?_)
      rw [stage]
      simp only [stageOwes, returns, Option.elim_some]
      rfl
  | @left id task found stage =>
      rw [owes_advance]
      exact idle (resting found stage rfl)
  | @removed id task found stage =>
      rw [owes_advance]
      exact idle (resting found stage rfl)
  | @disconnected id task reason installed world found stage moved =>
      have commits : move setup j s (.disconnect id) = .commit (.connection id)
          (eventsTo j (s.world.committed setup.core (.disconnect id reason)).deliveries) := by
        simp [move, produces, found, stage]
      have nothing := resting found stage rfl
      rw [owes_moved_advance moved (alone_of_callless rfl), commits, Feed.after_commit nothing]
      rfl
  | @joined id task writer found stage stored ended =>
      rw [owes_finish]
      exact idle (resting found stage rfl)
  | @broadcast speed direction world free moved =>
      obtain rfl := World.step_windDelta.mp moved
      have nothing : s.owes j .maintenance = [] := by simp [Server.owes, free]
      funext producer
      cases producer with
      | connection i => simp [Server.owes, move, produces, Feed.after]
      | maintenance =>
          simp only [move, produces, Feed.after, nothing, List.nil_append, Function.update_self]
          rfl
  | @maintained dispatch runtime rest holds served =>
      have owes : s.owes j .maintenance = dispatch.eventsTo j := owes_dispatchOf holds
      have moves : move setup j s (.dispatch .maintenance) =
          dispatch.move setup.json s.runtime j .maintenance := move_dispatch holds
      rw [moves, ← Dispatch.eventsTo_dispatched served j .maintenance owes]
      funext producer
      cases producer with
      | connection i => rfl
      | maintenance => rfl
  | @dispatched id task dispatch runtime rest found holds served =>
      have held : s.dispatchOf (.connection id) = some dispatch := by
        simp [dispatchOf, found, holds]
      have owes : s.owes j (.connection id) = dispatch.eventsTo j := owes_dispatchOf held
      have moves : move setup j s (.dispatch (.connection id)) =
          dispatch.move setup.json s.runtime j (.connection id) :=
        move_dispatch held
      rw [moves, ← Dispatch.eventsTo_dispatched served j (.connection id) owes]
      exact owes_afterSection holds
  | received => rfl
  | receivedClose => rfl
  | abandoned => rfl
  | sent => rfl
  | failed => rfl

end Server

end AsterFsd
