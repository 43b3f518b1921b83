import AsterFsd.Server.Connection

/-! # What a step of the server can do

Each section of a dispatch and each step of the server, with the conditions under which it happens and
the state it leads to. What the server keeps over its runs is proved against these lists.
-/

namespace AsterFsd

/-! ## Sections of a dispatch -/

/-- The context in which an event is encoded for a recipient. -/
def Dispatch.context (serverName : String) (network : NetworkState) (id : ConnectionId) :
    EncodeContext where
  connectionId := id
  recipient := (Network.snapshot network id).bind (·.presence)
  serverName := serverName

section Dispatched

variable (json : SerdeJson) (serverName : String) (network : NetworkState) (runtime : Runtime)

/-- Everything that one section of a dispatch can do. -/
inductive Dispatched (dispatch : Dispatch) : Runtime → Option Dispatch → Prop where
  | turned {event : Event} {rest : List Delivery} (between : dispatch.cursor = .next)
      (left : dispatch.deliveries = ⟨[], event⟩ :: rest) :
      Dispatched dispatch runtime (some { dispatch with deliveries := rest, encodedByDialect := ∅ })
  | skipped {id : ConnectionId} {recipients : List ConnectionId} {event : Event}
      {rest : List Delivery} (between : dispatch.cursor = .next)
      (left : dispatch.deliveries = ⟨id :: recipients, event⟩ :: rest)
      (absent : runtime.connections.lookup id = none) :
      Dispatched dispatch runtime
        (some { dispatch with deliveries := ⟨recipients, event⟩ :: rest })
  | fetched {id : ConnectionId} {recipients : List ConnectionId} {event : Event}
      {rest : List Delivery} {handle : ConnectionHandle} (between : dispatch.cursor = .next)
      (left : dispatch.deliveries = ⟨id :: recipients, event⟩ :: rest)
      (found : runtime.connections.lookup id = some handle) :
      Dispatched dispatch runtime
        (some { dispatch with
          deliveries := ⟨recipients, event⟩ :: rest
          cursor := .fetched id handle event })
  | addressed {id : ConnectionId} {handle : ConnectionHandle} {event : Event}
      (holds : dispatch.cursor = .fetched id handle event) :
      Dispatched dispatch runtime
        (some { dispatch with
          cursor := .addressed id handle event (Dispatch.context serverName network id) })
  | offered {id : ConnectionId} {handle : ConnectionHandle} {event : Event}
      {context : EncodeContext} {frames : Except ProtocolError (List WireFrame)}
      {encodedByDialect : FrameCache} (holds : dispatch.cursor = .addressed id handle event context)
      (encoded : encodeCached json handle.backend context event dispatch.encodedByDialect =
        (frames, encodedByDialect)) :
      Dispatched dispatch (runtime.offer id frames)
        (some { dispatch with encodedByDialect, cursor := .next })
  | ended (between : dispatch.cursor = .next) (left : dispatch.deliveries = []) :
      Dispatched dispatch runtime none
  | closes {close : CloseConnection} {handle : ConnectionHandle} (between : dispatch.cursor = .next)
      (left : dispatch.deliveries = []) (asked : dispatch.close = some close)
      (found : runtime.connections.lookup close.connectionId = some handle) :
      Dispatched dispatch runtime
        (some { dispatch with cursor := .closing close.connectionId handle })
  | closed {id : ConnectionId} {handle : ConnectionHandle}
      (holds : dispatch.cursor = .closing id handle) :
      Dispatched dispatch (runtime.trySend id .close) none

variable {json serverName network runtime}

theorem Dispatch.step_dispatched {dispatch : Dispatch} {runtime' : Runtime}
    {rest : Option Dispatch}
    (step : dispatch.step json serverName network runtime = (runtime', rest)) :
    Dispatched json serverName network runtime dispatch runtime' rest := by
  obtain ⟨deliveries, encodedByDialect, close, cursor⟩ := dispatch
  cases cursor with
  | next =>
      cases deliveries with
      | nil =>
          cases close with
          | none =>
              cases step
              exact .ended rfl rfl
          | some close =>
              cases found : runtime.connections.lookup close.connectionId with
              | none =>
                  simp only [Dispatch.step, found] at step
                  cases step
                  exact .ended rfl rfl
              | some handle =>
                  simp only [Dispatch.step, found] at step
                  cases step
                  exact .closes rfl rfl rfl found
      | cons delivery deliveries =>
          obtain ⟨recipients, event⟩ := delivery
          cases recipients with
          | nil =>
              cases step
              exact .turned rfl rfl
          | cons id recipients =>
              cases found : runtime.connections.lookup id with
              | none =>
                  simp only [Dispatch.step, found] at step
                  cases step
                  exact .skipped rfl rfl found
              | some handle =>
                  simp only [Dispatch.step, found] at step
                  cases step
                  exact .fetched rfl rfl found
  | fetched id handle event =>
      cases step
      exact .addressed rfl
  | addressed id handle event context =>
      simp only [Dispatch.step] at step
      cases step
      exact .offered rfl rfl
  | closing id handle =>
      cases step
      exact .closed rfl

/-- A section of a dispatch stores and removes no handle. -/
theorem Dispatched.connections {dispatch : Dispatch} {runtime' : Runtime} {rest : Option Dispatch}
    (served : Dispatched json serverName network runtime dispatch runtime' rest) :
    runtime'.connections = runtime.connections := by
  cases served with
  | offered holds encoded => exact Runtime.offer_connections ..
  | closed holds => exact Runtime.trySend_connections ..
  | _ => rfl

/-- What a dispatch still tells, and to whom, is allowed. -/
structure Dispatch.Within (Allowed : ConnectionId → Event → Prop) (dispatch : Dispatch) : Prop where
  deliveries : ∀ delivery ∈ dispatch.deliveries, ∀ r ∈ delivery.recipients, Allowed r delivery.event
  cursor : match dispatch.cursor with
    | .fetched r _ event | .addressed r _ event _ => Allowed r event
    | .next | .closing .. => True

namespace Dispatch.Within

variable {Allowed Allowed' : ConnectionId → Event → Prop} {dispatch next : Dispatch}

theorem mono (within : dispatch.Within Allowed) (weaker : ∀ r event, Allowed r event → Allowed' r event) :
    dispatch.Within Allowed' where
  deliveries delivery member r named := weaker r _ (within.deliveries delivery member r named)
  cursor := by
    have told := within.cursor
    cases cursor : dispatch.cursor with
    | next | closing => trivial
    | fetched | addressed =>
        rw [cursor] at told
        exact weaker _ _ told

theorem start {effects : Effects}
    (allowed : ∀ delivery ∈ effects.deliveries, ∀ r ∈ delivery.recipients, Allowed r delivery.event) :
    (Dispatch.start effects).Within Allowed := ⟨allowed, trivial⟩

private theorem first_served {id : ConnectionId} {recipients : List ConnectionId} {event : Event}
    {rest : List Delivery}
    (deliveries : ∀ delivery ∈ (⟨id :: recipients, event⟩ : Delivery) :: rest,
      ∀ r ∈ delivery.recipients, Allowed r delivery.event) :
    Allowed id event ∧
      ∀ delivery ∈ (⟨recipients, event⟩ : Delivery) :: rest,
        ∀ r ∈ delivery.recipients, Allowed r delivery.event := by
  obtain ⟨first, later⟩ := List.forall_mem_cons.mp deliveries
  obtain ⟨served, left⟩ := List.forall_mem_cons.mp first
  exact ⟨served, List.forall_mem_cons.mpr ⟨left, later⟩⟩

/-- No section tells what its dispatch did not have to tell. -/
theorem dispatched {runtime' : Runtime} {rest : Option Dispatch} (within : dispatch.Within Allowed)
    (served : Dispatched json serverName network runtime dispatch runtime' rest)
    (more : rest = some next) : next.Within Allowed := by
  obtain ⟨deliveries, cursor⟩ := within
  cases served with
  | turned between left =>
      cases more
      rw [left] at deliveries
      rw [between]
      exact ⟨fun delivery member => deliveries delivery (List.mem_cons_of_mem _ member), trivial⟩
  | skipped between left absent =>
      cases more
      rw [left] at deliveries
      rw [between]
      exact ⟨(first_served deliveries).2, trivial⟩
  | fetched between left found =>
      cases more
      rw [left] at deliveries
      exact ⟨(first_served deliveries).2, (first_served deliveries).1⟩
  | addressed holds =>
      cases more
      rw [holds] at cursor
      exact ⟨deliveries, cursor⟩
  | offered holds encoded =>
      cases more
      exact ⟨deliveries, trivial⟩
  | closes between left asked found =>
      cases more
      exact ⟨deliveries, trivial⟩
  | ended => cases more
  | closed => cases more

end Dispatch.Within

end Dispatched

/-! ## Steps of the server -/

namespace Server

variable {setup : Setup} {s s' : Server}

/-! ## Frames -/

@[simp] theorem advance_runtime (s : Server) (id : ConnectionId) (task : ConnectionTask)
    (stage : ConnectionStage) : (s.advance id task stage).runtime = s.runtime := rfl

@[simp] theorem advance_world (s : Server) (id : ConnectionId) (task : ConnectionTask)
    (stage : ConnectionStage) : (s.advance id task stage).world = s.world := rfl

@[simp] theorem advance_writers (s : Server) (id : ConnectionId) (task : ConnectionTask)
    (stage : ConnectionStage) : (s.advance id task stage).writers = s.writers := rfl

@[simp] theorem advance_maintenance (s : Server) (id : ConnectionId) (task : ConnectionTask)
    (stage : ConnectionStage) : (s.advance id task stage).maintenance = s.maintenance := rfl

@[simp] theorem finish_world (s : Server) (id : ConnectionId) :
    (s.finish id).world = s.world := rfl

theorem lookup_advance (s : Server) (id j : ConnectionId) (task : ConnectionTask)
    (stage : ConnectionStage) :
    (s.advance id task stage).tasks.lookup j =
      if j = id then some { task with stage } else s.tasks.lookup j := by
  split
  · rename_i here
    rw [here]
    exact AList.lookup_insert _
  · rename_i other
    exact AList.lookup_insert_ne other

theorem lookup_finish (s : Server) (id j : ConnectionId) :
    (s.finish id).tasks.lookup j = if j = id then none else s.tasks.lookup j := by
  split
  · rename_i here
    rw [here]
    exact AList.lookup_erase id s.tasks
  · rename_i other
    exact AList.lookup_erase_ne other

/-- What holds of every task still does when one of them reaches another stage. -/
theorem advance_tasks {P : ConnectionId → ConnectionTask → Prop} {i : ConnectionId}
    {task : ConnectionTask} {stage : ConnectionStage}
    (others : ∀ j task, s.tasks.lookup j = some task → P j task)
    (own : P i { task with stage }) (j : ConnectionId) (task' : ConnectionTask)
    (found : (s.advance i task stage).tasks.lookup j = some task') : P j task' := by
  rw [lookup_advance] at found
  split at found
  · rename_i here
    cases found
    exact here ▸ own
  · exact others j task' found

theorem finish_tasks {P : ConnectionId → ConnectionTask → Prop} {i : ConnectionId}
    (others : ∀ j task, s.tasks.lookup j = some task → P j task) (j : ConnectionId)
    (task' : ConnectionTask) (found : (s.finish i).tasks.lookup j = some task') : P j task' := by
  rw [lookup_finish] at found
  split at found
  · cases found
  · exact others j task' found

/-- The stage that the dispatch of a connection task leaves it in. -/
theorem lookup_afterSection (s : Server) (id j : ConnectionId) (task : ConnectionTask)
    (runtime : Runtime) (rest : Option Dispatch) :
    (s.afterSection id task runtime rest).tasks.lookup j =
      if j = id then
        ((afterDispatch id runtime task.stage rest).2.map fun stage => { task with stage })
      else s.tasks.lookup j := by
  unfold afterSection
  split
  · rename_i after
    rw [after]
    exact lookup_advance ..
  · rename_i after
    rw [after]
    exact lookup_finish ..

theorem afterDispatch_runtime (id : ConnectionId) (runtime : Runtime) (stage : ConnectionStage)
    (rest : Option Dispatch) :
    (afterDispatch id runtime stage rest).1 = runtime ∨
      (afterDispatch id runtime stage rest).1 = runtime.cancel id := by
  unfold afterDispatch
  split
  · exact .inl rfl
  · exact .inl rfl
  · exact .inl rfl
  · split
    · exact .inr rfl
    · exact .inl rfl
  · exact .inl rfl

theorem afterSection_runtime (s : Server) (id : ConnectionId) (task : ConnectionTask)
    (runtime : Runtime) (rest : Option Dispatch) :
    (s.afterSection id task runtime rest).runtime = runtime ∨
      (s.afterSection id task runtime rest).runtime = runtime.cancel id := by
  have outcome := afterDispatch_runtime id runtime task.stage rest
  unfold afterSection
  split <;> (rename_i after; rw [after] at outcome; exact outcome)

@[simp] theorem afterSection_mailboxes (s : Server) (id : ConnectionId) (task : ConnectionTask)
    (runtime : Runtime) (rest : Option Dispatch) :
    (s.afterSection id task runtime rest).runtime.mailboxes = runtime.mailboxes := by
  obtain same | cancelled := afterSection_runtime s id task runtime rest
  · rw [same]
  · rw [cancelled]
    rfl

@[simp] theorem afterSection_connections (s : Server) (id : ConnectionId) (task : ConnectionTask)
    (runtime : Runtime) (rest : Option Dispatch) :
    (s.afterSection id task runtime rest).runtime.connections = runtime.connections := by
  obtain same | cancelled := afterSection_runtime s id task runtime rest
  · rw [same]
  · rw [cancelled]
    rfl

@[simp] theorem afterSection_world (s : Server) (id : ConnectionId) (task : ConnectionTask)
    (runtime : Runtime) (rest : Option Dispatch) :
    (s.afterSection id task runtime rest).world = s.world := by
  unfold afterSection
  split <;> rfl

@[simp] theorem afterSection_writers (s : Server) (id : ConnectionId) (task : ConnectionTask)
    (runtime : Runtime) (rest : Option Dispatch) :
    (s.afterSection id task runtime rest).writers = s.writers := by
  unfold afterSection
  split <;> rfl

@[simp] theorem afterSection_maintenance (s : Server) (id : ConnectionId) (task : ConnectionTask)
    (runtime : Runtime) (rest : Option Dispatch) :
    (s.afterSection id task runtime rest).maintenance = s.maintenance := by
  unfold afterSection
  split <;> rfl

/-! ## Inversion -/

/-- Everything that one step of the server can do. -/
inductive Stepped (setup : Setup) (s : Server) : Server.Action → Server → Prop where
  | accepted {peer : SocketAddr} {listener : ListenerConfig} {challenge : String}
      (fresh : (⟨s.nextConnectionId⟩ : ConnectionId) ∉ s.tasks)
      (unregistered : (⟨s.nextConnectionId⟩ : ConnectionId) ∉ s.world.registered) :
      Stepped setup s (.accept peer listener challenge)
        { s with
          tasks := s.tasks.insert ⟨s.nextConnectionId⟩ { listener, peer, challenge, stage := .accepted }
          nextConnectionId := s.nextConnectionId + 1 }
  | registered {id : ConnectionId} {task : ConnectionTask} {world : World}
      (found : s.tasks.lookup id = some task) (stage : task.stage = .accepted)
      (moved : s.world.step setup.core (.register id task.peer task.listener.protocol) = some world) :
      Stepped setup s (.register id) ({ s with world }.advance id task .handshaking)
  | refused {id : ConnectionId} {task : ConnectionTask} {world : World} {error : RegisterError}
      (found : s.tasks.lookup id = some task) (stage : task.stage = .accepted)
      (moved : s.world.step setup.core (.register id task.peer task.listener.protocol) = some world)
      (fails : (Network.register setup.core s.world.state id task.peer task.listener.protocol).2 =
        .error error) :
      Stepped setup s (.register id)
        ({ s with world }.advance id task (.refusing (refusal setup id task error)))
  | turnedAway {id : ConnectionId} {task : ConnectionTask} {frames : List WireFrame}
      (found : s.tasks.lookup id = some task) (stage : task.stage = .refusing frames) :
      Stepped setup s (.refuse id) (s.finish id)
  | handshake {id : ConnectionId} {written : Bool} {task : ConnectionTask}
      (found : s.tasks.lookup id = some task) (stage : task.stage = .handshaking) :
      Stepped setup s (.handshake id written) (s.advance id task (afterHandshake setup id task written))
  | installed {id : ConnectionId} {task : ConnectionTask} (found : s.tasks.lookup id = some task)
      (stage : task.stage = .installing) :
      Stepped setup s (.install id)
        ({ s with
            runtime := { s.runtime with
              connections := s.runtime.connections.insert id ⟨task.backend⟩
              mailboxes :=
                s.runtime.mailboxes.insert id { capacity := setup.server.mailboxCapacity } }
            writers :=
              s.writers.insert id { maxFrameBytes := task.listener.maxFrameBytes } }.advance
          id task .reading)
  | decoded {id : ConnectionId} {bytes : List UInt8} {task : ConnectionTask} {command : Command}
      {world : World} (found : s.tasks.lookup id = some task) (stage : task.stage = .reading)
      (decodes : task.backend.decode setup.json (s.decodeContext id task.challenge) bytes =
        .ok command)
      (moved : s.world.step setup.core (.call s.world.nextCall id command) = some world) :
      Stepped setup s (.frame id bytes)
        ({ s with world }.advance id task
          (.executing bytes (s.decodeContext id task.challenge) s.world.nextCall))
  | undecoded {id : ConnectionId} {bytes : List UInt8} {task : ConnectionTask}
      {error : ProtocolError} (found : s.tasks.lookup id = some task)
      (stage : task.stage = .reading)
      (fails : task.backend.decode setup.json (s.decodeContext id task.challenge) bytes =
        .error error) :
      Stepped setup s (.frame id bytes)
        (s.advance id task
          (.dispatching bytes (s.decodeContext id task.challenge)
            (Dispatch.start (decodeErrorEffects (s.decodeContext id task.challenge) error))
            (!closesConnection (s.decodeContext id task.challenge) error)))
  | locked {id : ConnectionId} {task : ConnectionTask} {frame : List UInt8}
      {context : DecodeContext} {call : CallId} {world : World}
      (found : s.tasks.lookup id = some task) (stage : task.stage = .executing frame context call)
      (moved : s.world.step setup.core (.lock call) = some world) :
      Stepped setup s (.lock id) { s with world }
  | answered {id : ConnectionId} {answer : Answer} {task : ConnectionTask} {frame : List UInt8}
      {context : DecodeContext} {call : CallId} {world : World}
      (found : s.tasks.lookup id = some task) (stage : task.stage = .executing frame context call)
      (moved : s.world.step setup.core (.answered call answer) = some world) :
      Stepped setup s (.answered id answer) { s with world }
  | executed {id : ConnectionId} {task : ConnectionTask} {frame : List UInt8}
      {context : DecodeContext} {call : CallId} {world : World} {caller : ConnectionId}
      {command : Command} {effects : Effects} (found : s.tasks.lookup id = some task)
      (stage : task.stage = .executing frame context call)
      (returns : s.world.calls.lookup call = some ⟨caller, command, .returning effects⟩)
      (moved : s.world.step setup.core (.ret call) = some world) :
      Stepped setup s (.executed id)
        ({ s with world }.advance id task
          (.dispatching frame context (Dispatch.start effects) true))
  | left {id : ConnectionId} {task : ConnectionTask} (found : s.tasks.lookup id = some task)
      (stage : task.stage = .reading) : Stepped setup s (.leave id) (s.advance id task .removing)
  | removed {id : ConnectionId} {task : ConnectionTask} (found : s.tasks.lookup id = some task)
      (stage : task.stage = .removing) :
      Stepped setup s (.remove id)
        ({ s with
            runtime := { s.runtime with
              connections := s.runtime.connections.erase id } }.advance id task
          (.disconnecting "connection closed" true))
  | disconnected {id : ConnectionId} {task : ConnectionTask} {reason : String} {installed : Bool}
      {world : World} (found : s.tasks.lookup id = some task)
      (stage : task.stage = .disconnecting reason installed)
      (moved : s.world.step setup.core (.disconnect id reason) = some world) :
      Stepped setup s (.disconnect id)
        ({ s with world }.advance id task
          (.leaving (Dispatch.start (s.world.committed setup.core (.disconnect id reason)))
            installed))
  | joined {id : ConnectionId} {task : ConnectionTask} {writer : Writer}
      (found : s.tasks.lookup id = some task) (stage : task.stage = .joining)
      (stored : s.writers.lookup id = some writer) (ended : writer.stage = .finished) :
      Stepped setup s (.join id) (s.finish id)
  | broadcast {speed direction : Int32} {world : World} (idle : s.maintenance = none)
      (moved : s.world.step setup.core (.windDelta speed direction) = some world) :
      Stepped setup s (.windDelta speed direction)
        { s with
          world
          maintenance :=
            some (Dispatch.start (s.world.committed setup.core (.windDelta speed direction))) }
  | maintained {dispatch : Dispatch} {runtime : Runtime} {rest : Option Dispatch}
      (holds : s.maintenance = some dispatch)
      (served : Dispatched setup.json setup.server.serverName s.world.state s.runtime dispatch
        runtime rest) :
      Stepped setup s (.dispatch .maintenance) { s with runtime, maintenance := rest }
  | dispatched {id : ConnectionId} {task : ConnectionTask} {dispatch : Dispatch}
      {runtime : Runtime} {rest : Option Dispatch} (found : s.tasks.lookup id = some task)
      (holds : task.dispatch? = some dispatch)
      (served : Dispatched setup.json setup.server.serverName s.world.state s.runtime dispatch
        runtime rest) :
      Stepped setup s (.dispatch (.connection id)) (s.afterSection id task runtime rest)
  | received {id : ConnectionId} {writer : Writer} {mailbox mailbox' : Channel Outbound}
      {batch : List WireFrame} (stored : s.writers.lookup id = some writer)
      (found : s.runtime.mailboxes.lookup id = some mailbox) (waits : writer.stage = .receiving)
      (taken : mailbox.recv = some (.frames batch, mailbox')) :
      Stepped setup s (.receive id)
        ({ s with
            runtime := { s.runtime with
              mailboxes := s.runtime.mailboxes.insert id mailbox' } }.advanceWriter id writer
          (WriterStage.ofBatch batch))
  | receivedClose {id : ConnectionId} {writer : Writer} {mailbox mailbox' : Channel Outbound}
      (stored : s.writers.lookup id = some writer)
      (found : s.runtime.mailboxes.lookup id = some mailbox) (waits : writer.stage = .receiving)
      (taken : mailbox.recv = some (.close, mailbox')) :
      Stepped setup s (.receive id)
        ({ s with
            runtime := { s.runtime with
              mailboxes := s.runtime.mailboxes.insert id mailbox' } }.finishWriter id writer)
  | abandoned {id : ConnectionId} {writer : Writer} {mailbox : Channel Outbound}
      (stored : s.writers.lookup id = some writer)
      (found : s.runtime.mailboxes.lookup id = some mailbox) (waits : writer.stage = .receiving)
      (empty : mailbox.recv = none) (alone : s.hasSender id = false) :
      Stepped setup s (.receive id) (s.finishWriter id writer)
  | sent {id : ConnectionId} {written : Bool} {writer : Writer} {frame : WireFrame}
      {frames : List WireFrame} (stored : s.writers.lookup id = some writer)
      (sending : writer.stage = .sending (frame :: frames)) (wrote : written = true)
      (encodes : FsdFrameCodec.encodes writer.maxFrameBytes frame.bytes = true) :
      Stepped setup s (.send id written)
        (s.advanceWriter id writer (WriterStage.ofBatch frames))
  | failed {id : ConnectionId} {written : Bool} {writer : Writer} {frame : WireFrame}
      {frames : List WireFrame} (stored : s.writers.lookup id = some writer)
      (sending : writer.stage = .sending (frame :: frames))
      (refused : (written && FsdFrameCodec.encodes writer.maxFrameBytes frame.bytes) = false) :
      Stepped setup s (.send id written) (s.finishWriter id writer)

theorem dispatchStep_stepped {task : TaskId} (step : s.dispatchStep setup task = some s') :
    Stepped setup s (.dispatch task) s' := by
  cases task with
  | maintenance =>
      obtain ⟨dispatch, holds, step⟩ := Option.bind_eq_some_iff.mp step
      cases step
      exact .maintained holds (Dispatch.step_dispatched rfl)
  | connection id =>
      obtain ⟨task, found, step⟩ := Option.bind_eq_some_iff.mp step
      obtain ⟨dispatch, holds, step⟩ := Option.bind_eq_some_iff.mp step
      cases step
      exact .dispatched found holds (Dispatch.step_dispatched rfl)

theorem receiveStep_stepped {id : ConnectionId} (step : s.receiveStep id = some s') :
    Stepped setup s (.receive id) s' := by
  obtain ⟨writer, stored, step⟩ := Option.bind_eq_some_iff.mp step
  obtain ⟨mailbox, found, step⟩ := Option.bind_eq_some_iff.mp step
  split at step
  · cases step
  · rename_i waits
    have waits := not_not.mp waits
    split at step
    · rename_i message mailbox' taken
      cases message with
      | frames batch =>
          cases step
          exact .received stored found waits taken
      | close =>
          cases step
          exact .receivedClose stored found waits taken
    · rename_i empty
      split at step
      · cases step
      · rename_i alone
        cases step
        exact .abandoned stored found waits empty (Bool.eq_false_iff.mpr alone)

theorem sendStep_stepped {id : ConnectionId} {written : Bool}
    (step : s.sendStep id written = some s') : Stepped setup s (.send id written) s' := by
  obtain ⟨writer, stored, step⟩ := Option.bind_eq_some_iff.mp step
  split at step
  · rename_i frame frames sending
    split at step
    · rename_i passes
      obtain ⟨wrote, encodes⟩ := Bool.and_eq_true_iff.mp passes
      cases step
      exact .sent stored sending wrote encodes
    · rename_i fails
      cases step
      exact .failed stored sending (Bool.eq_false_iff.mpr fails)
  · cases step

theorem step_stepped {action : Server.Action} (step : s.step setup action = some s') :
    Stepped setup s action s' := by
  cases action with
  | accept peer listener challenge =>
      simp only [Server.step] at step
      split at step
      · cases step
      · rename_i fresh
        cases step
        exact .accepted (fun known => fresh (.inl known)) (fun known => fresh (.inr known))
  | register id =>
      obtain ⟨task, found, step⟩ := Option.bind_eq_some_iff.mp step
      split at step
      · rename_i stage
        obtain ⟨world, moved, step⟩ := Option.bind_eq_some_iff.mp step
        split at step
        · cases step
          exact .registered found stage moved
        · rename_i fails
          cases step
          exact .refused found stage moved fails
      · cases step
  | refuse id =>
      obtain ⟨task, found, step⟩ := Option.bind_eq_some_iff.mp step
      split at step
      · rename_i stage
        cases step
        exact .turnedAway found stage
      · cases step
  | handshake id written =>
      obtain ⟨task, found, step⟩ := Option.bind_eq_some_iff.mp step
      split at step
      · rename_i stage
        cases step
        exact .handshake found stage
      · cases step
  | install id =>
      obtain ⟨task, found, step⟩ := Option.bind_eq_some_iff.mp step
      split at step
      · rename_i stage
        cases step
        exact .installed found stage
      · cases step
  | frame id bytes =>
      obtain ⟨task, found, step⟩ := Option.bind_eq_some_iff.mp step
      split at step
      · rename_i stage
        split at step
        · cases step
        · dsimp only at step
          split at step
          · rename_i decodes
            obtain ⟨world, moved, step⟩ := Option.bind_eq_some_iff.mp step
            cases step
            exact .decoded found stage decodes moved
          · rename_i fails
            cases step
            exact .undecoded found stage fails
      · cases step
  | lock id =>
      obtain ⟨task, found, step⟩ := Option.bind_eq_some_iff.mp step
      split at step
      · rename_i stage
        obtain ⟨world, moved, step⟩ := Option.bind_eq_some_iff.mp step
        cases step
        exact .locked found stage moved
      · cases step
  | answered id answer =>
      obtain ⟨task, found, step⟩ := Option.bind_eq_some_iff.mp step
      split at step
      · rename_i stage
        obtain ⟨world, moved, step⟩ := Option.bind_eq_some_iff.mp step
        cases step
        exact .answered found stage moved
      · cases step
  | executed id =>
      obtain ⟨task, found, step⟩ := Option.bind_eq_some_iff.mp step
      split at step
      · rename_i stage
        obtain ⟨world, moved, step⟩ := Option.bind_eq_some_iff.mp step
        obtain ⟨caller, command, effects, returns, -⟩ := World.step_ret.mp moved
        simp only [returns] at step
        cases step
        exact .executed found stage returns moved
      · cases step
  | leave id =>
      obtain ⟨task, found, step⟩ := Option.bind_eq_some_iff.mp step
      split at step
      · rename_i stage
        cases step
        exact .left found stage
      · cases step
  | remove id =>
      obtain ⟨task, found, step⟩ := Option.bind_eq_some_iff.mp step
      split at step
      · rename_i stage
        cases step
        exact .removed found stage
      · cases step
  | disconnect id =>
      obtain ⟨task, found, step⟩ := Option.bind_eq_some_iff.mp step
      split at step
      · rename_i stage
        obtain ⟨world, moved, step⟩ := Option.bind_eq_some_iff.mp step
        cases step
        exact .disconnected found stage moved
      · cases step
  | join id =>
      obtain ⟨task, found, step⟩ := Option.bind_eq_some_iff.mp step
      obtain ⟨writer, stored, step⟩ := Option.bind_eq_some_iff.mp step
      split at step
      · rename_i stage ended
        cases step
        exact .joined found stage stored ended
      · cases step
  | windDelta speed direction =>
      simp only [Server.step] at step
      split at step
      · cases step
      · rename_i idle
        obtain ⟨world, moved, step⟩ := Option.bind_eq_some_iff.mp step
        cases step
        exact .broadcast idle moved
  | dispatch task => exact dispatchStep_stepped step
  | receive id => exact receiveStep_stepped step
  | send id written => exact sendStep_stepped step

/-! ## The core below -/

/-- A step of the server makes at most one step of the core. -/
theorem Stepped.world {action : Server.Action} (stepped : Stepped setup s action s') :
    s'.world = s.world ∨ ∃ moved, s.world.step setup.core moved = some s'.world := by
  cases stepped with
  | registered _ _ moved => exact .inr ⟨_, moved⟩
  | refused _ _ moved _ => exact .inr ⟨_, moved⟩
  | decoded _ _ _ moved => exact .inr ⟨_, moved⟩
  | locked _ _ moved => exact .inr ⟨_, moved⟩
  | answered _ _ moved => exact .inr ⟨_, moved⟩
  | executed _ _ _ moved => exact .inr ⟨_, moved⟩
  | disconnected _ _ moved => exact .inr ⟨_, moved⟩
  | broadcast _ moved => exact .inr ⟨_, moved⟩
  | dispatched => exact .inl (afterSection_world ..)
  | _ => exact .inl rfl

theorem reachable_world (reach : (server setup).Reachable s) :
    (machine setup.core).Reachable s.world := by
  have start : (machine setup.core).Trace [] {} := rfl
  refine reach.invariant (fun s => (machine setup.core).Reachable s.world) start.reachable ?_
  intro s action s' held step
  obtain same | ⟨moved, step⟩ := (step_stepped step).world
  · rw [same]
    exact held
  · exact held.step step

end Server

end AsterFsd
