import AsterFsd.Server.Owed
import AsterFsd.Server.PlainLoop

/-! # The dialect of a connection

A connection is accepted on one listener, and whatever a dispatch has for it is encoded by the backend of
that listener.
-/

namespace AsterFsd

namespace Server

variable {setup : Setup} {s s' : Server} {action : Server.Action} {actions : List Server.Action}
  {j : ConnectionId}

/-! ## Every dispatch -/

/-- Every dispatch in progress has the property. -/
structure EachDispatch (Holds : Dispatch → Prop) (s : Server) : Prop where
  tasks : ∀ id task, s.tasks.lookup id = some task → ∀ dispatch, task.dispatch? = some dispatch →
    Holds dispatch
  maintenance : ∀ dispatch, s.maintenance = some dispatch → Holds dispatch

theorem EachDispatch.of {Holds : Dispatch → Prop} (each : s.EachDispatch Holds) {task : TaskId}
    {dispatch : Dispatch} (held : s.dispatchOf task = some dispatch) : Holds dispatch := by
  cases task with
  | maintenance => exact each.maintenance dispatch held
  | connection id =>
      obtain ⟨task, found, holds⟩ := Option.bind_eq_some_iff.mp held
      exact each.tasks id task found dispatch holds

/-- The dispatch that a section leaves a connection task with is the rest of the one it had. -/
theorem afterDispatch_dispatch? {id : ConnectionId} {runtime : Runtime} {task task' : ConnectionTask}
    {dispatch next : Dispatch} {rest : Option Dispatch} (holds : task.dispatch? = some dispatch)
    (kept : ((afterDispatch id runtime task.stage rest).2.map fun stage => { task with stage }) =
      some task') (left : task'.dispatch? = some next) : rest = some next := by
  obtain ⟨listener, peer, challenge, stage⟩ := task
  cases stage with
  | dispatching frame context started proceeds =>
      cases rest with
      | none =>
          cases proceeds with
          | true => cases kept; cases left
          | false => cases kept; cases left
      | some more => cases kept; exact left
  | leaving started installed =>
      cases rest with
      | none =>
          cases installed with
          | true => cases kept; cases left
          | false => cases kept
      | some more => cases kept; exact left
  | _ => cases holds

/-- What holds of every dispatch when it starts, and stays so in its sections, holds of every
    dispatch. -/
theorem EachDispatch.step {Holds : Dispatch → Prop} (each : s.EachDispatch Holds)
    (stepped : Stepped setup s action s') (start : ∀ effects, Holds (.start effects))
    (kept : ∀ {dispatch next : Dispatch} {runtime' : Runtime}, Holds dispatch →
      Dispatched setup.json setup.server.serverName s.world.state s.runtime dispatch runtime'
        (some next) → Holds next) : s'.EachDispatch Holds := by
  have unheld : ∀ {id : ConnectionId} {task : ConnectionTask} {stage : ConnectionStage},
      ({ task with stage } : ConnectionTask).dispatch? = none →
      ∀ j task', (s.advance id task stage).tasks.lookup j = some task' →
        ∀ dispatch, task'.dispatch? = some dispatch → Holds dispatch := by
    intro id task stage none_
    exact advance_tasks each.tasks fun dispatch holds => by cases none_.symm.trans holds
  have started : ∀ {id : ConnectionId} {task : ConnectionTask} {stage : ConnectionStage}
      {effects : Effects}, ({ task with stage } : ConnectionTask).dispatch? = some (.start effects) →
      ∀ j task', (s.advance id task stage).tasks.lookup j = some task' →
        ∀ dispatch, task'.dispatch? = some dispatch → Holds dispatch := by
    intro id task stage effects starts
    refine advance_tasks each.tasks fun dispatch holds => ?_
    obtain rfl := Option.some.inj (starts.symm.trans holds)
    exact start effects
  cases stepped with
  | @accepted peer listener challenge fresh unregistered =>
      refine ⟨fun id task found => ?_, each.maintenance⟩
      by_cases here : id = ⟨s.nextConnectionId⟩
      · subst here
        obtain rfl := Option.some.inj ((AList.lookup_insert _).symm.trans found)
        exact fun _ holds => nomatch holds
      · exact each.tasks id task ((AList.lookup_insert_ne here).symm.trans found)
  | registered | refused | installed | decoded | left | removed =>
      exact ⟨unheld rfl, each.maintenance⟩
  | turnedAway | joined => exact ⟨finish_tasks each.tasks, each.maintenance⟩
  | handshake =>
      refine ⟨unheld ?_, each.maintenance⟩
      unfold afterHandshake
      split
      · rfl
      · split <;> rfl
  | undecoded | executed | disconnected => exact ⟨started rfl, each.maintenance⟩
  | broadcast idle moved =>
      refine ⟨each.tasks, fun dispatch holds => ?_⟩
      obtain rfl := Option.some.inj holds
      exact start _
  | maintained holds served =>
      refine ⟨each.tasks, fun dispatch left => ?_⟩
      subst left
      exact kept (each.maintenance _ holds) served
  | @dispatched id task dispatch runtime rest found holds served =>
      refine ⟨fun i task' found' next left => ?_, by simpa using each.maintenance⟩
      rw [lookup_afterSection] at found'
      split at found'
      · obtain rfl := afterDispatch_dispatch? holds found' left
        exact kept (each.tasks id task found dispatch holds) served
      · exact each.tasks i task' found' next left
  | _ => exact ⟨each.tasks, each.maintenance⟩

/-! ## The dialect of a connection -/

/-- The listener that the step accepts `j` on. -/
def admits (j : ConnectionId) (s : Server) : Server.Action → List ListenerConfig
  | .accept _ listener _ => if ⟨s.nextConnectionId⟩ = j then [listener] else []
  | _ => []

/-- The listeners that `j` was accepted on, at most one. -/
def admissions (setup : Setup) (j : ConnectionId) (actions : List Server.Action) :
    List ListenerConfig :=
  (server setup).history (admits j) (server setup).init actions

/-- A connection that was accepted has a task or is registered, and its task and its handle are for the
    listener that it was accepted on. -/
structure Lodged (s : Server) (j : ConnectionId) (listeners : List ListenerConfig) : Prop where
  once : listeners.length ≤ 1
  known : listeners ≠ [] → j ∈ s.tasks ∨ j ∈ s.world.registered
  entered : ∀ task, s.tasks.lookup j = some task → task.stage = .accepted ∨ j ∈ s.world.registered
  task : ∀ task, s.tasks.lookup j = some task → task.listener ∈ listeners
  handle : ∀ handle, s.runtime.connections.lookup j = some handle →
    ∃ listener ∈ listeners, handle.backend = BackendRegistry.get listener.protocol

section Lodging

variable {listeners : List ListenerConfig}

/-- A step that accepts nobody as `j`. -/
theorem Lodged.keep (lodged : s.Lodged j listeners)
    (registered : j ∈ s.world.registered → j ∈ s'.world.registered)
    (tasks : ∀ task', s'.tasks.lookup j = some task' → ∃ task, s.tasks.lookup j = some task ∧
      task'.listener = task.listener ∧ (task'.stage = task.stage ∨ j ∈ s'.world.registered))
    (stays : j ∈ s.tasks → j ∈ s'.tasks ∨ j ∈ s'.world.registered)
    (handle : ∀ handle, s'.runtime.connections.lookup j = some handle →
      s.runtime.connections.lookup j = some handle ∨
        ∃ task, s.tasks.lookup j = some task ∧ handle.backend = task.backend) :
    s'.Lodged j listeners where
  once := lodged.once
  known some_ := by
    obtain present | known := lodged.known some_
    · exact stays present
    · exact .inr (registered known)
  entered task' found' := by
    obtain ⟨task, found, -, same | known⟩ := tasks task' found'
    · rw [same]
      exact (lodged.entered task found).imp_right registered
    · exact .inr known
  task task' found' := by
    obtain ⟨task, found, same, -⟩ := tasks task' found'
    rw [same]
    exact lodged.task task found
  handle one stored := by
    obtain old | ⟨task, found, same⟩ := handle one stored
    · exact lodged.handle one old
    · exact ⟨task.listener, lodged.task task found, same⟩

/-- The task of a connection goes on, by now or before registered. -/
private theorem lodged_advance {t : Server} {id : ConnectionId} {task : ConnectionTask}
    {stage : ConnectionStage} (lodged : s.Lodged j listeners) (tasks : t.tasks = s.tasks)
    (found : s.tasks.lookup id = some task)
    (entered : j = id → j ∈ t.world.registered)
    (registered : j ∈ s.world.registered → j ∈ t.world.registered)
    (handle : ∀ handle, t.runtime.connections.lookup j = some handle →
      s.runtime.connections.lookup j = some handle ∨
        ∃ task, s.tasks.lookup j = some task ∧ handle.backend = task.backend) :
    (t.advance id task stage).Lodged j listeners := by
  refine lodged.keep registered (fun task' found' => ?_) (fun present => ?_) handle
  · rw [lookup_advance] at found'
    split at found'
    · rename_i here
      obtain rfl := Option.some.inj found'
      exact ⟨task, by rw [here, found], rfl, .inr (entered here)⟩
    · rw [tasks] at found'
      exact ⟨task', found', rfl, .inl rfl⟩
  · exact .inl ((AList.mem_insert _).mpr (.inr (tasks ▸ present)))

private theorem lodged_finish {t : Server} {id : ConnectionId} (lodged : s.Lodged j listeners)
    (tasks : t.tasks = s.tasks) (entered : j = id → j ∈ t.world.registered)
    (registered : j ∈ s.world.registered → j ∈ t.world.registered)
    (connections : t.runtime.connections = s.runtime.connections) :
    (t.finish id).Lodged j listeners := by
  refine lodged.keep registered (fun task' found' => ?_) (fun present => ?_) fun handle stored => ?_
  · rw [lookup_finish] at found'
    split at found'
    · cases found'
    · rw [tasks] at found'
      exact ⟨task', found', rfl, .inl rfl⟩
  · by_cases here : j = id
    · exact .inr (entered here)
    · exact .inl (AList.mem_erase.mpr ⟨here, tasks ▸ present⟩)
  · exact .inl (connections ▸ stored)

theorem Lodged.step (lodged : s.Lodged j listeners)
    (stepped : Stepped setup s action s') : s'.Lodged j (listeners ++ admits j s action) := by
  have registered : j ∈ s.world.registered → j ∈ s'.world.registered := by
    intro known
    obtain same | ⟨moved, step⟩ := stepped.world
    · exact same ▸ known
    · exact World.step_registered step known
  -- A task past its first stage is registered.
  have entered : ∀ {id task}, s.tasks.lookup id = some task → task.stage ≠ .accepted → j = id →
      j ∈ s'.world.registered := by
    rintro id task found past rfl
    exact registered ((lodged.entered task found).resolve_left past)
  cases stepped with
  | @accepted peer listener challenge fresh unregistered =>
      by_cases here : ⟨s.nextConnectionId⟩ = j
      · subst here
        have none_ : listeners = [] := by
          by_contra some_
          obtain present | known := lodged.known some_
          · exact fresh present
          · exact unregistered known
        have admitted : listeners ++ admits ⟨s.nextConnectionId⟩ s (.accept peer listener challenge) =
            [listener] := by simp [none_, admits]
        rw [admitted]
        refine ⟨Nat.le_refl 1, fun _ => .inl ((AList.mem_insert _).mpr (.inl rfl)), ?_, ?_, ?_⟩
        · intro task found
          obtain rfl := Option.some.inj ((AList.lookup_insert _).symm.trans found)
          exact .inl rfl
        · intro task found
          obtain rfl := Option.some.inj ((AList.lookup_insert _).symm.trans found)
          exact List.mem_singleton_self _
        · intro handle stored
          obtain ⟨listener', listed, -⟩ := lodged.handle handle stored
          rw [none_] at listed
          cases listed
      · have other : listeners ++ admits j s (.accept peer listener challenge) = listeners := by
          simp [admits, here]
        rw [other]
        refine lodged.keep id (fun task found => ?_) (fun present => ?_) fun _ => .inl
        · exact ⟨task, (AList.lookup_insert_ne (Ne.symm here)).symm.trans found, rfl, .inl rfl⟩
        · exact .inl ((AList.mem_insert _).mpr (.inr present))
  | registered found stage moved | refused found stage moved =>
      simp only [admits, List.append_nil]
      refine lodged_advance lodged rfl found (fun here => ?_) registered fun _ => .inl
      rw [World.step_registered_eq moved, here]
      exact List.mem_cons_self
  | @installed id task found stage =>
      simp only [admits, List.append_nil]
      refine lodged_advance lodged rfl found (entered found (by simp [stage])) registered ?_
      intro handle stored
      by_cases here : j = id
      · subst here
        obtain rfl := Option.some.inj ((AList.lookup_insert _).symm.trans stored)
        exact .inr ⟨task, found, rfl⟩
      · exact .inl ((AList.lookup_insert_ne here).symm.trans stored)
  | @removed id task found stage =>
      simp only [admits, List.append_nil]
      refine lodged_advance lodged rfl found (entered found (by simp [stage])) registered ?_
      intro handle stored
      by_cases here : j = id
      · subst here
        cases (AList.lookup_erase j s.runtime.connections).symm.trans stored
      · exact .inl ((AList.lookup_erase_ne here).symm.trans stored)
  | handshake found stage | left found stage | undecoded found stage | decoded found stage
  | executed found stage | disconnected found stage =>
      simp only [admits, List.append_nil]
      exact lodged_advance lodged rfl found (entered found (by simp [stage])) registered fun _ => .inl
  | turnedAway found stage | joined found stage =>
      simp only [admits, List.append_nil]
      exact lodged_finish lodged rfl (entered found (by simp [stage])) registered rfl
  | maintained holds served =>
      simp only [admits, List.append_nil]
      refine lodged.keep registered (fun task found => ⟨task, found, rfl, .inl rfl⟩) .inl ?_
      exact fun handle stored => .inl (served.connections ▸ stored)
  | @dispatched id task dispatch runtime rest found holds served =>
      simp only [admits, List.append_nil]
      have past : task.stage ≠ .accepted := by
        intro stage
        simp [ConnectionTask.dispatch?, stage] at holds
      refine lodged.keep registered (fun task' found' => ?_) (fun present => ?_) fun handle stored => ?_
      · rw [lookup_afterSection] at found'
        split at found'
        · rename_i here
          obtain ⟨stage, -, rfl⟩ := Option.map_eq_some_iff.mp found'
          exact ⟨task, by rw [here, found], rfl, .inr (entered found past here)⟩
        · exact ⟨task', found', rfl, .inl rfl⟩
      · by_cases here : j = id
        · exact .inr (entered found past here)
        · obtain ⟨task', found'⟩ := KeyedMap.exists_lookup present
          exact .inl (KeyedMap.mem_of_lookup
            (((lookup_afterSection ..).trans (if_neg here)).trans found'))
      · rw [afterSection_connections, served.connections] at stored
        exact .inl stored
  | _ =>
      simp only [admits, List.append_nil]
      exact lodged.keep registered (fun task found => ⟨task, found, rfl, .inl rfl⟩) .inl fun _ => .inl

theorem trace_lodged (trace : (server setup).Trace actions s) :
    s.Lodged j (admissions setup j actions) := by
  refine trace.invariant (fun actions s => s.Lodged j (admissions setup j actions)) ?_ ?_
  · exact
      { once := Nat.zero_le 1
        known := fun some_ => absurd rfl some_
        entered := fun _ found => nomatch found
        task := fun _ found => nomatch found
        handle := fun _ found => nomatch found }
  · intro actions s action s' trace lodged step
    unfold admissions at lodged ⊢
    rw [trace.history_snoc]
    exact lodged.step (step_stepped step)

/-- Whatever the run does later, the listener of a task is the only one that its connection was accepted
    on. -/
theorem admissions_task {more : List Server.Action} {t : Server} {task : ConnectionTask}
    (trace : (server setup).Trace actions s) (found : s.tasks.lookup j = some task)
    (later : (server setup).Trace (actions ++ more) t) {listener : ListenerConfig}
    (listed : listener ∈ admissions setup j (actions ++ more)) : listener = task.listener := by
  have own : task.listener ∈ admissions setup j (actions ++ more) := by
    unfold admissions
    rw [Machine.history_append trace]
    exact List.mem_append_left _ ((trace_lodged trace).task task found)
  have once := (trace_lodged later (j := j)).once
  match only : admissions setup j (actions ++ more), once with
  | [first], _ =>
      rw [only] at listed own
      exact (List.mem_singleton.mp listed).trans (List.mem_singleton.mp own).symm
  | [], _ => rw [only] at own; cases own

/-! ## The dialect of the session, the limit of the writer -/

/-- A step registers a connection in the dialect of its listener. -/
theorem Stepped.registers (stepped : Stepped setup s action s') :
    s'.world = s.world ∨ ∃ moved, s.world.step setup.core moved = some s'.world ∧
      ∀ id peer dialect, moved = .register id peer dialect → ∃ task, s.tasks.lookup id = some task ∧
        dialect = task.listener.protocol := by
  cases stepped with
  | registered found _ moved | refused found _ moved =>
      refine .inr ⟨_, moved, fun id peer dialect same => ?_⟩
      cases same
      exact ⟨_, found, rfl⟩
  | decoded _ _ _ moved | executed _ _ _ moved => exact .inr ⟨_, moved, nofun⟩
  | locked _ _ moved | answered _ _ moved | disconnected _ _ moved => exact .inr ⟨_, moved, nofun⟩
  | broadcast _ moved => exact .inr ⟨_, moved, nofun⟩
  | dispatched => exact .inl (afterSection_world ..)
  | _ => exact .inl rfl

/-- The session of a connection has the dialect of the listener that it was accepted on. -/
theorem trace_dialect (trace : (server setup).Trace actions s) {session : Session}
    (found : s.world.state.sessions.lookup j = some session) :
    ∃ listener ∈ admissions setup j actions, session.dialect = listener.protocol := by
  have all : ∀ session, s.world.state.sessions.lookup j = some session →
      ∃ listener ∈ admissions setup j actions, session.dialect = listener.protocol := by
    refine trace.invariant (fun actions s => ∀ session, s.world.state.sessions.lookup j = some session →
      ∃ listener ∈ admissions setup j actions, session.dialect = listener.protocol)
      (by simp [server]) ?_
    intro actions s action s' trace held step session found
    have admitted : admissions setup j (actions ++ [action]) =
        admissions setup j actions ++ admits j s action := trace.history_snoc action (admits j)
    rw [admitted]
    obtain same | ⟨moved, ran, registers⟩ := (step_stepped step).registers
    · obtain ⟨listener, listed, dialect⟩ := held session (same ▸ found)
      exact ⟨listener, List.mem_append_left _ listed, dialect⟩
    · obtain ⟨before, stored, kept⟩ | ⟨peer, registered⟩ := World.step_dialect ran found
      · obtain ⟨listener, listed, dialect⟩ := held before stored
        exact ⟨listener, List.mem_append_left _ listed, kept.trans dialect⟩
      · obtain ⟨task, known, dialect⟩ := registers _ _ _ registered
        exact ⟨task.listener, List.mem_append_left _ ((trace_lodged trace).task task known), dialect⟩
  exact all session found

/-- The writer of a connection has the frame limit of the listener that it was accepted on. -/
theorem trace_limit (trace : (server setup).Trace actions s) {writer : Writer}
    (found : s.writers.lookup j = some writer) :
    ∃ listener ∈ admissions setup j actions, writer.maxFrameBytes = listener.maxFrameBytes := by
  have all : ∀ writer, (s.lane j).writer = some writer →
      ∃ listener ∈ admissions setup j actions, writer.maxFrameBytes = listener.maxFrameBytes := by
    refine trace.invariant (fun actions s => ∀ writer, (s.lane j).writer = some writer →
      ∃ listener ∈ admissions setup j actions, writer.maxFrameBytes = listener.maxFrameBytes)
      (by simp [server, lane]) ?_
    intro actions s action s' trace held step writer found
    have admitted : admissions setup j (actions ++ [action]) =
        admissions setup j actions ++ admits j s action := trace.history_snoc action (admits j)
    rw [admitted]
    have stepped := step_stepped step
    obtain installs | move := stepped.lane (j := j)
    · obtain ⟨rfl, -⟩ := installs
      cases stepped with
      | @installed _ task known stage =>
          refine ⟨task.listener, List.mem_append_left _ ((trace_lodged trace).task task known), ?_⟩
          obtain rfl := Option.some.inj ((AList.lookup_insert _).symm.trans found)
          rfl
    · obtain ⟨before, stored, same⟩ := move.limit found
      obtain ⟨listener, listed, limit⟩ := held before stored
      exact ⟨listener, List.mem_append_left _ listed, same.trans limit⟩
  exact all writer found

/-! ## Frames -/

/-- What the event is encoded to for `j`, in the dialect of a listener that it was accepted on. -/
def Encodes (setup : Setup) (j : ConnectionId) (listeners : List ListenerConfig) (event : Event)
    (batch : Batch) : Prop :=
  ∃ listener ∈ listeners, ∃ recipient,
    (BackendRegistry.get listener.protocol).encode setup.json
      { connectionId := j, recipient, serverName := setup.server.serverName } event = batch

/-- The dispatch encodes what it has for `j` in the dialect of `j`. -/
def Suits (setup : Setup) (j : ConnectionId) (listeners : List ListenerConfig) (dispatch : Dispatch) :
    Prop :=
  dispatch.Coherent setup.json ∧
    match dispatch.cursor with
    | .fetched id handle _ => id = j →
        ∃ listener ∈ listeners, handle.backend = BackendRegistry.get listener.protocol
    | .addressed id handle event context => id = j →
        Encodes setup j listeners event (handle.backend.encode setup.json context event)
    | _ => True

theorem Encodes.append {event : Event} {batch : Batch} (encodes : Encodes setup j listeners event batch)
    (more : List ListenerConfig) : Encodes setup j (listeners ++ more) event batch := by
  obtain ⟨listener, listed, made⟩ := encodes
  exact ⟨listener, List.mem_append_left _ listed, made⟩

theorem Suits.append {dispatch : Dispatch} (suits : Suits setup j listeners dispatch)
    (more : List ListenerConfig) : Suits setup j (listeners ++ more) dispatch := by
  obtain ⟨deliveries, encodedByDialect, close, cursor⟩ := dispatch
  refine ⟨suits.1, ?_⟩
  cases cursor with
  | fetched id handle event =>
      intro here
      obtain ⟨listener, listed, same⟩ := suits.2 here
      exact ⟨listener, List.mem_append_left _ listed, same⟩
  | addressed id handle event context => exact fun here => (suits.2 here).append more
  | _ => trivial

theorem Suits.dispatched {dispatch next : Dispatch} {runtime' : Runtime}
    (suits : Suits setup j listeners dispatch) (lodged : s.Lodged j listeners)
    (served : Dispatched setup.json setup.server.serverName s.world.state s.runtime dispatch runtime'
      (some next)) : Suits setup j listeners next := by
  refine ⟨suits.1.dispatched served rfl, ?_⟩
  cases served with
  | fetched between left found =>
      rintro rfl
      exact lodged.handle _ found
  | addressed holds =>
      have held := suits.2
      simp only [holds] at held
      rintro rfl
      obtain ⟨listener, listed, same⟩ := held rfl
      exact ⟨listener, listed, _, by rw [same]; rfl⟩
  | turned between | skipped between => simp only [between]
  | offered | closes => trivial

theorem trace_suits (trace : (server setup).Trace actions s) :
    s.EachDispatch (Suits setup j (admissions setup j actions)) := by
  refine trace.invariant
    (fun actions s => s.EachDispatch (Suits setup j (admissions setup j actions))) ?_ ?_
  · exact
      { tasks := fun _ _ found => nomatch found
        maintenance := fun _ holds => nomatch holds }
  · intro actions s action s' trace each step
    have admitted : admissions setup j (actions ++ [action]) =
        admissions setup j actions ++ admits j s action := trace.history_snoc action (admits j)
    have after : s'.EachDispatch (Suits setup j (admissions setup j actions)) :=
      each.step (step_stepped step) (fun effects => ⟨.start setup.json effects, trivial⟩)
        fun suits served => suits.dispatched (trace_lodged trace) served
    rw [admitted]
    exact
      { tasks := fun id task found dispatch holds => (after.tasks id task found dispatch holds).append _
        maintenance := fun dispatch holds => (after.maintenance dispatch holds).append _ }

end Lodging

end Server

end AsterFsd
