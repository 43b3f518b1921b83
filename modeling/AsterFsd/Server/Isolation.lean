import AsterFsd.Protocol.Carriage
import AsterFsd.Protocol.Compact
import AsterFsd.Server.Mailboxes
import AsterFsd.Server.PlainLoop

/-! # Bystanders

A dispatch cancels the recipient whose event does not encode, not the connection whose command made the
event. What a command tells others is known, and so is which strings a classic frame can carry: a
bystander is cancelled for the strings of another client exactly when these do not fit the classic frames
that the bystander reads.
-/

namespace AsterFsd

open ClassicProtocol

def Server.Action.Trusted : Server.Action → Prop
  | .answered _ answer => answer.Trusted
  | _ => True

/-- The answers the action brings. -/
def Server.Action.answers : Server.Action → List Answer
  | .answered _ answer => [answer]
  | _ => []

namespace Server

theorem trusted_of_answers {actions : List Server.Action}
    (said : ∀ answer ∈ actions.flatMap Action.answers, answer.Trusted) :
    ∀ action ∈ actions, action.Trusted := by
  intro action member
  cases action with
  | answered id answer => exact said answer (List.mem_flatMap.mpr ⟨_, member, List.mem_singleton_self _⟩)
  | _ => trivial

/-! ## Whose dispatch it is -/

/-- The task of connection `i` has the core execute the command. -/
def Executes (s : Server) (i : ConnectionId) (command : Command) : Prop :=
  ∃ task frame context call stage, s.tasks.lookup i = some task ∧
    task.stage = .executing frame context call ∧
    s.world.calls.lookup call = some ⟨i, command, stage⟩

/-- In the run, the core carried out the command of `i` as a kill of `j`. -/
def KilledBy (setup : Setup) (actions : List Server.Action) (i : ConnectionId) (command : Command)
    (j : ConnectionId) : Prop :=
  ∃ before after s, actions = before ++ .lock i :: after ∧ (server setup).Trace before s ∧
    s.Executes i command ∧ s.world.state.Killed i command j

/-- The task of `i` dispatches what the core returned for the command that its frame decoded to. -/
def Dispatches (setup : Setup) (s : Server) (i : ConnectionId) (command : Command)
    (dispatch : Dispatch) : Prop :=
  ∃ task frame context proceeds, s.tasks.lookup i = some task ∧
    task.stage = .dispatching frame context dispatch proceeds ∧
    task.backend.decode setup.json context frame = .ok command

theorem KilledBy.append {setup : Setup} {actions : List Server.Action} {i j : ConnectionId}
    {command : Command} (killed : KilledBy setup actions i command j) (more : List Server.Action) :
    KilledBy setup (actions ++ more) i command j := by
  obtain ⟨before, after, s, rfl, trace, executes, accepted⟩ := killed
  exact ⟨before, after ++ more, s, by simp, trace, executes, accepted⟩

end Server

/-- What a dispatch still tells, and to whom, is what the command may tell them. -/
def Dispatch.Speaks (killed : ConnectionId → Prop) (issuer : ConnectionId) (command : Command)
    (dispatch : Dispatch) : Prop :=
  dispatch.Within (Spoken killed issuer command)

theorem Dispatch.Speaks.mono {killed killed' : ConnectionId → Prop} {issuer : ConnectionId}
    {command : Command} {dispatch : Dispatch} (speaks : dispatch.Speaks killed issuer command)
    (weaker : ∀ j, killed j → killed' j) : dispatch.Speaks killed' issuer command :=
  Within.mono speaks fun _ _ spoken => spoken.mono weaker

namespace Server

variable {setup : Setup} {actions : List Server.Action} {action : Server.Action} {s s' : Server}
  {world world' : World} {i : ConnectionId}

/-! ## Calls and tasks -/

/-- The call is one of connection `i` for the command, and what it is about to return is what the command
    may tell. A call number that was not drawn yet belongs to nobody. -/
structure CallSpeaks (setup : Setup) (actions : List Server.Action) (world : World) (i : ConnectionId)
    (command : Command) (call : CallId) : Prop where
  drawn : call < world.nextCall
  speaks : ∀ record, world.calls.lookup call = some record →
    record.connectionId = i ∧ record.command = command ∧
      ∀ effects, record.stage = .returning effects →
        effects.Speaks (KilledBy setup actions i command) i command

/-- What a task executes or dispatches is what the command of its frame may tell. -/
def TaskSpeaks (setup : Setup) (actions : List Server.Action) (world : World) (i : ConnectionId)
    (task : ConnectionTask) : Prop :=
  match task.stage with
  | .executing frame context call => ∃ command,
      task.backend.decode setup.json context frame = .ok command ∧
        CallSpeaks setup actions world i command call
  | .dispatching frame context dispatch _ => ∀ command,
      task.backend.decode setup.json context frame = .ok command →
        dispatch.Coherent setup.json ∧ dispatch.Speaks (KilledBy setup actions i command) i command
  | _ => True

structure Speaking (setup : Setup) (actions : List Server.Action) (s : Server) : Prop where
  vouched : s.world.Vouched
  tasks : ∀ i task, s.tasks.lookup i = some task → TaskSpeaks setup actions s.world i task

theorem CallSpeaks.kept {command : Command} {call : CallId}
    (speaks : CallSpeaks setup actions world i command call) :
    CallSpeaks setup (actions ++ [action]) world i command call where
  drawn := speaks.drawn
  speaks record found := by
    obtain ⟨own, same, said⟩ := speaks.speaks record found
    exact ⟨own, same, fun effects returns =>
      (said effects returns).mono fun _ killed => killed.append [action]⟩

theorem CallSpeaks.moved {command : Command} {call : CallId} {moved : AsterFsd.Action}
    (speaks : CallSpeaks setup actions world i command call)
    (reach : (machine setup.core).Reachable world) (vouched : world.Vouched)
    (vouched' : world'.Vouched) (step : world.step setup.core moved = some world')
    (locks : moved = .lock call → ∀ j, (∃ record, world.calls.lookup call = some record) →
      world.state.Killed i command j → KilledBy setup (actions ++ [action]) i command j) :
    CallSpeaks setup (actions ++ [action]) world' i command call where
  drawn := Nat.lt_of_lt_of_le speaks.drawn (World.step_nextCall_le step)
  speaks record found := by
    have kept : CallSpeaks setup (actions ++ [action]) world i command call := speaks.kept
    have before : ∃ old, world.calls.lookup call = some old ∧
        record.connectionId = old.connectionId ∧ record.command = old.command := by
      obtain stored | ⟨_, _, -, fresh, -⟩ | ⟨old, stage, -, stored, rfl, -⟩ |
        ⟨old, answer, stage, -, stored, rfl, -⟩ := World.step_calls step found
      · exact ⟨record, stored, rfl, rfl⟩
      · exact absurd fresh (Nat.ne_of_lt speaks.drawn)
      · exact ⟨old, stored, rfl, rfl⟩
      · exact ⟨old, stored, rfl, rfl⟩
    obtain ⟨old, stored, sameId, sameCommand⟩ := before
    obtain ⟨own, same, -⟩ := speaks.speaks old stored
    have own : record.connectionId = i := sameId.trans own
    have same : record.command = command := sameCommand.trans same
    refine ⟨own, same, fun effects returns => ?_⟩
    obtain unchanged | said := World.step_speaks reach vouched vouched' step found returns
    · exact (kept.speaks record unchanged).2.2 effects returns
    · subst own same
      exact said.mono fun j killed => locks killed.1 j ⟨old, stored⟩ killed.2

/-- A task that the step leaves alone speaks as before. -/
theorem TaskSpeaks.later {task : ConnectionTask} (speaks : TaskSpeaks setup actions world i task)
    (calls : ∀ command call, CallSpeaks setup actions world i command call →
      CallSpeaks setup (actions ++ [action]) world' i command call) :
    TaskSpeaks setup (actions ++ [action]) world' i task := by
  obtain ⟨listener, peer, challenge, stage⟩ := task
  cases stage with
  | executing frame context call =>
      obtain ⟨command, decodes, call⟩ := speaks
      exact ⟨command, decodes, calls command _ call⟩
  | dispatching frame context dispatch proceeds =>
      intro command decodes
      obtain ⟨coherent, said⟩ := speaks command decodes
      exact ⟨coherent, said.mono fun _ killed => killed.append [action]⟩
  | _ => trivial

/-! ## Steps -/

/-- A step of the server moves the core by at most one action, which is trusted if the step is; a section
    under the lock is that of the call that a task executes. -/
theorem Stepped.moves (stepped : Stepped setup s action s') (trusted : action.Trusted) :
    s'.world = s.world ∨ ∃ moved : AsterFsd.Action,
      s.world.step setup.core moved = some s'.world ∧ moved.Trusted ∧
      ∀ call, moved = .lock call → ∃ id task frame context, action = .lock id ∧
        s.tasks.lookup id = some task ∧ task.stage = .executing frame context call := by
  cases stepped with
  | registered _ _ moved => exact .inr ⟨_, moved, trivial, nofun⟩
  | refused _ _ moved _ => exact .inr ⟨_, moved, trivial, nofun⟩
  | decoded _ _ _ moved => exact .inr ⟨_, moved, trivial, nofun⟩
  | @locked id task frame context call world found stage moved =>
      refine .inr ⟨_, moved, trivial, fun call' same => ?_⟩
      obtain rfl := AsterFsd.Action.lock.inj same
      exact ⟨id, task, frame, context, rfl, found, stage⟩
  | answered _ _ moved => exact .inr ⟨_, moved, trusted, nofun⟩
  | executed _ _ _ moved => exact .inr ⟨_, moved, trivial, nofun⟩
  | disconnected _ _ moved => exact .inr ⟨_, moved, trivial, nofun⟩
  | broadcast _ moved => exact .inr ⟨_, moved, trivial, nofun⟩
  | dispatched => exact .inl (afterSection_world ..)
  | _ => exact .inl rfl

theorem Speaking.calls (speaking : Speaking setup actions s) (trace : (server setup).Trace actions s)
    (trusted : action.Trusted) (stepped : Stepped setup s action s') :
    s'.world.Vouched ∧ ∀ i command call, CallSpeaks setup actions s.world i command call →
      CallSpeaks setup (actions ++ [action]) s'.world i command call := by
  obtain same | ⟨moved, step, sound, locks⟩ := stepped.moves trusted
  · rw [same]
    exact ⟨speaking.vouched, fun _ _ _ speaks => speaks.kept⟩
  · have vouched := World.step_vouched speaking.vouched sound step
    refine ⟨vouched, fun i command call speaks => ?_⟩
    refine speaks.moved (reachable_world trace.reachable) speaking.vouched vouched step ?_
    intro same j ⟨record, stored⟩ killed
    obtain ⟨id, task, frame, context, rfl, found, stage⟩ := locks call same
    have task_ := speaking.tasks id task found
    simp only [TaskSpeaks, stage] at task_
    obtain ⟨asked, -, own⟩ := task_
    -- The call belongs to the task that took the lock, so `i` is that task's connection.
    obtain ⟨first, -, -⟩ := own.speaks record stored
    obtain ⟨second, named, -⟩ := speaks.speaks record stored
    obtain rfl : id = i := first.symm.trans second
    obtain ⟨connectionId, _, callStage⟩ := record
    subst second named
    exact ⟨actions, [], s, rfl, trace, ⟨task, frame, context, call, callStage, found, stage, stored⟩,
      killed⟩

/-- What is left of a dispatch after a section is within what the command may tell. -/
private theorem section_speaks {serverName : String} {network : NetworkState}
    {runtime runtime' : Runtime} {task task' : ConnectionTask} {dispatch : Dispatch}
    {rest : Option Dispatch} (speaks : TaskSpeaks setup actions world i task)
    (holds : task.dispatch? = some dispatch)
    (served : Dispatched setup.json serverName network runtime dispatch runtime' rest)
    (kept : ((afterDispatch i runtime' task.stage rest).2.map fun stage => { task with stage }) =
      some task') : TaskSpeaks setup actions world i task' := by
  obtain ⟨listener, peer, challenge, stage⟩ := task
  cases stage with
  | dispatching frame context started proceeds =>
      obtain rfl := Option.some.inj holds
      cases rest with
      | none =>
          cases proceeds with
          | true => cases kept; trivial
          | false => cases kept; trivial
      | some next =>
          cases kept
          intro command decodes
          obtain ⟨coherent, said⟩ := speaks command decodes
          exact ⟨coherent.dispatched served rfl, Dispatch.Within.dispatched said served rfl⟩
  | leaving started installed =>
      cases rest with
      | none =>
          cases installed with
          | true => cases kept; trivial
          | false => cases kept
      | some next => cases kept; trivial
  | _ => cases holds

theorem Speaking.step (speaking : Speaking setup actions s) (trace : (server setup).Trace actions s)
    (trusted : action.Trusted) (step : s.step setup action = some s') :
    Speaking setup (actions ++ [action]) s' := by
  have stepped := step_stepped step
  obtain ⟨vouched, calls⟩ := speaking.calls trace trusted stepped
  have others : ∀ i task, s.tasks.lookup i = some task →
      TaskSpeaks setup (actions ++ [action]) s'.world i task :=
    fun i task found => (speaking.tasks i task found).later (calls i)
  refine ⟨vouched, ?_⟩
  cases stepped with
  | @accepted peer listener challenge fresh unregistered =>
      intro j task found
      by_cases here : j = ⟨s.nextConnectionId⟩
      · subst here
        obtain rfl := Option.some.inj ((AList.lookup_insert _).symm.trans found)
        trivial
      · exact others j task ((AList.lookup_insert_ne here).symm.trans found)
  | registered found stage moved => exact advance_tasks others trivial
  | refused found stage moved fails => exact advance_tasks others trivial
  | turnedAway found stage => exact finish_tasks others
  | @handshake id written task found stage =>
      refine advance_tasks others ?_
      unfold afterHandshake
      split
      · trivial
      · split <;> trivial
  | installed found stage => exact advance_tasks others trivial
  | @decoded id bytes task command world found stage decodes moved =>
      refine advance_tasks (s := { s with world }) others ⟨command, decodes, ?_⟩
      obtain ⟨-, rfl⟩ := World.step_call.mp moved
      refine ⟨Nat.lt_succ_self _, fun record drawn => ?_⟩
      obtain rfl := Option.some.inj ((AList.lookup_insert _).symm.trans drawn)
      exact ⟨rfl, rfl, nofun⟩
  | undecoded found stage fails =>
      refine advance_tasks others fun command decodes => ?_
      cases fails.symm.trans decodes
  | locked found stage moved => exact others
  | answered found stage moved => exact others
  | @executed id task frame context call world caller command effects found stage returns moved =>
      have speaks := speaking.tasks id task found
      simp only [TaskSpeaks, stage] at speaks
      obtain ⟨asked, known, own⟩ := speaks
      obtain ⟨-, -, said⟩ := own.speaks _ returns
      refine advance_tasks (s := { s with world }) others fun command decodes => ?_
      obtain rfl : asked = command := Except.ok.inj (known.symm.trans decodes)
      exact ⟨.start setup.json effects,
        Dispatch.Speaks.mono (.start (said effects rfl)) fun _ killed => killed.append [_]⟩
  | left found stage => exact advance_tasks others trivial
  | removed found stage => exact advance_tasks others trivial
  | disconnected found stage moved => exact advance_tasks others trivial
  | joined found stage stored ended => exact finish_tasks others
  | broadcast idle moved => exact others
  | maintained holds served => exact others
  | @dispatched id task dispatch runtime rest found holds served =>
      intro j task' kept
      rw [lookup_afterSection] at kept
      split at kept
      · rename_i here
        subst here
        exact section_speaks (others j task found) holds served kept
      · exact others j task' kept
  | received => exact others
  | receivedClose => exact others
  | abandoned => exact others
  | sent => exact others
  | failed => exact others

theorem Speaking.dispatches {command : Command} {dispatch : Dispatch}
    (speaking : Speaking setup actions s) (dispatches : s.Dispatches setup i command dispatch) :
    dispatch.Coherent setup.json ∧ dispatch.Speaks (KilledBy setup actions i command) i command := by
  obtain ⟨task, frame, context, proceeds, found, stage, decodes⟩ := dispatches
  have speaks := speaking.tasks i task found
  simp only [TaskSpeaks, stage] at speaks
  exact speaks command decodes

theorem trace_speaking (trace : (server setup).Trace actions s)
    (trusted : ∀ action ∈ actions, action.Trusted) : Speaking setup actions s := by
  have all : (∀ action ∈ actions, action.Trusted) → Speaking setup actions s := by
    refine trace.invariant (fun actions s => (∀ action ∈ actions, action.Trusted) →
      Speaking setup actions s) ?_ ?_
    · intro _
      exact
        { vouched :=
            { sessions := fun _ _ _ found => nomatch found
              activating := fun _ _ _ _ _ found => nomatch found }
          tasks := fun _ _ found => nomatch found }
    · intro actions s action s' trace speaking step trusted
      have before : ∀ action ∈ actions, action.Trusted :=
        fun action member => trusted action (List.mem_append_left _ member)
      exact (speaking before).step trace (trusted action (by simp)) step
  exact all trusted

/-! ## Isolation -/

/-- In every dispatch of a run for a command that a frame decoded to, what is told others encodes, and
    a token is triggered only of the issuer, of the target of a kill that was carried out, and of a
    connection whose mailbox is full or closed. -/
structure Isolated (setup : Setup) (actions : List Server.Action) : Prop where
  encodes : ∀ before after s i command dispatch j handle event context,
    actions = before ++ .dispatch (.connection i) :: after → (server setup).Trace before s →
      s.Dispatches setup i command dispatch → dispatch.cursor = .addressed j handle event context →
        j ≠ i → ∃ frames, handle.backend.encode setup.json context event = .ok frames
  cancels : ∀ before after s s' i command dispatch j,
    actions = before ++ .dispatch (.connection i) :: after → (server setup).Trace before s →
      s.step setup (.dispatch (.connection i)) = some s' → s.Dispatches setup i command dispatch →
        s'.runtime.cancelled = j :: s.runtime.cancelled →
          j = i ∨ KilledBy setup before i command j ∨ ¬ s.runtime.HasRoom j

/-- If the step is about to encode an event for another connection that reads classic frames, such a frame
    can carry the strings of the issuer in it. -/
def FitsOthers (setup : Setup) (s : Server) (action : Server.Action) : Prop :=
  ∀ i command dispatch j handle event context, action = .dispatch (.connection i) →
    s.Dispatches setup i command dispatch → dispatch.cursor = .addressed j handle event context →
      j ≠ i → handle.backend ≠ .asterV1 → command.Fits event

private theorem trySend_cancelled {runtime : Runtime} {id j : ConnectionId} {message : Outbound}
    (cancelled : (runtime.trySend id message).cancelled = j :: runtime.cancelled) :
    ¬ runtime.HasRoom j := by
  by_cases room : runtime.HasRoom id
  · obtain ⟨mailbox, found, free⟩ := room
    obtain ⟨next, accepted⟩ := Channel.trySend_isOk.mpr free
    rw [Runtime.trySend_room found accepted] at cancelled
    exact absurd cancelled.symm (List.cons_ne_self _ _)
  · rw [Runtime.trySend_full room message] at cancelled
    obtain rfl := (List.cons.inj cancelled).1
    exact room

/-- A section of the dispatch of a frame triggers the token of a connection that has no room, or for
    which the event does not encode. -/
theorem section_cancels {command : Command} {dispatch : Dispatch} {j : ConnectionId}
    (dispatches : s.Dispatches setup i command dispatch) (coherent : dispatch.Coherent setup.json)
    (step : s.step setup (.dispatch (.connection i)) = some s')
    (cancelled : s'.runtime.cancelled = j :: s.runtime.cancelled) :
    ¬ s.runtime.HasRoom j ∨ ∃ handle event context, dispatch.cursor = .addressed j handle event context ∧
      ∀ frames, handle.backend.encode setup.json context event ≠ .ok frames := by
  obtain ⟨task, frame, context, proceeds, found, stage, -⟩ := dispatches
  cases step_stepped step with
  | @dispatched _ other started runtime rest found' holds served =>
      obtain rfl := Option.some.inj (found.symm.trans found')
      have same : dispatch = started := by
        simpa only [ConnectionTask.dispatch?, stage, Option.some.injEq] using holds
      subst same
      have runtimes : (s.afterSection i task runtime rest).runtime = runtime := by
        simp only [afterSection, stage]
        cases rest <;> rfl
      rw [runtimes] at cancelled
      cases served with
      | @offered id handle event context frames encodedByDialect cursor encoded =>
          have plain := (show dispatch.encodedByDialect.Holds setup.json event from by
            simp only [Dispatch.Coherent, cursor] at coherent
            exact coherent.1).encodeCached_fst handle.backend context
          rw [encoded] at plain
          cases frames with
          | error error =>
              obtain rfl := (List.cons.inj cancelled).1
              refine .inr ⟨handle, event, context, cursor, fun frames encodes => ?_⟩
              cases plain.trans encodes
          | ok frames => exact .inl (trySend_cancelled cancelled)
      | closed cursor => exact .inl (trySend_cancelled cancelled)
      | _ => exact absurd cancelled.symm (List.cons_ne_self _ _)

/-- A run keeps bystanders out of what other clients say exactly when, whenever an event is about to be
    encoded for another connection that reads classic frames, such a frame can carry the strings that the
    issuer put into it. -/
theorem isolated_iff (setup : Setup) (actions : List Server.Action) (documented : setup.json.Documented)
    (trusted : ∀ action ∈ actions, action.Trusted) :
    Isolated setup actions ↔ (server setup).Along (FitsOthers setup) {} actions := by
  have speaking : ∀ before after mid, actions = before ++ after → (server setup).Trace before mid →
      Speaking setup before mid := by
    intro before after mid split ran
    exact trace_speaking ran fun action member =>
      trusted action (split ▸ List.mem_append_left _ member)
  rw [Machine.along_iff]
  constructor
  · intro isolated before action after mid split ran i command dispatch j handle event context same
      dispatches cursor other classic
    subst same
    obtain ⟨coherent, said⟩ := (speaking before _ mid split ran).dispatches dispatches
    have encodes := isolated.encodes before after mid i command dispatch j handle event context split ran
      dispatches cursor other
    have spoken := said.cursor
    rw [cursor] at spoken
    exact ((spoken.isOk documented other handle.backend context).mp encodes).resolve_left classic
  · intro fits
    have encodes : ∀ before after s i command dispatch j handle event context,
        actions = before ++ .dispatch (.connection i) :: after → (server setup).Trace before s →
          s.Dispatches setup i command dispatch →
            dispatch.cursor = .addressed j handle event context → j ≠ i →
              ∃ frames, handle.backend.encode setup.json context event = .ok frames := by
      intro before after mid i command dispatch j handle event context split ran dispatches cursor other
      obtain ⟨coherent, said⟩ := (speaking before _ mid split ran).dispatches dispatches
      have spoken := said.cursor
      rw [cursor] at spoken
      refine (spoken.isOk documented other handle.backend context).mpr ?_
      by_cases json : handle.backend = .asterV1
      · exact .inl json
      · exact .inr (fits before _ after mid split ran i command dispatch j handle event context rfl
          dispatches cursor other json)
    refine ⟨encodes, ?_⟩
    intro before after mid s' i command dispatch j split ran step dispatches cancelled
    obtain ⟨coherent, said⟩ := (speaking before _ mid split ran).dispatches dispatches
    obtain full | ⟨handle, event, context, cursor, fails⟩ :=
      section_cancels dispatches coherent step cancelled
    · exact .inr (.inr full)
    · refine .inl ?_
      by_contra other
      obtain ⟨frames, encoded⟩ :=
        encodes before after mid i command dispatch j handle event context split ran dispatches cursor other
      exact fails frames encoded

/-- The task of `i` dispatches for a command, and the event it is about to encode for another connection
    does not encode. -/
def fails (setup : Setup) (s : Server) (i : ConnectionId) : Bool :=
  (s.tasks.lookup i).any fun task =>
    match task.stage with
    | .dispatching frame context dispatch _ =>
        (task.backend.decode setup.json context frame).isOk &&
          match dispatch.cursor with
          | .addressed j handle event recipient =>
              j ≠ i && !(handle.backend.encode setup.json recipient event).isOk
          | _ => false
    | _ => false

theorem Isolated.not_fails {before : List Server.Action}
    (isolated : Isolated setup (before ++ [.dispatch (.connection i)]))
    (trace : (server setup).Trace before s) : s.fails setup i = false := by
  unfold fails
  cases found : s.tasks.lookup i with
  | none => rfl
  | some task =>
      rw [Option.any_some]
      split
      · rename_i frame context dispatch proceeds stage
        cases decodes : task.backend.decode setup.json context frame with
        | error error => rfl
        | ok command =>
            split
            · rename_i j handle event recipient cursor
              by_cases other : j = i
              · simp [other]
              · have encodes : ∃ frames,
                    handle.backend.encode setup.json recipient event = .ok frames :=
                  isolated.encodes before [] s i command dispatch j handle event recipient rfl trace
                    ⟨task, frame, context, proceeds, found, stage, decodes⟩ cursor other
                obtain ⟨frames, encoded⟩ := encodes
                rw [encoded]
                simp [Except.isOk, Except.toBool]
            · simp
      · rfl

end Server

/-! ## A line break -/

namespace Sample

/-- What the client of the run sends. -/
def pilotLogin : String :=
  "\x7b\"v\":1,\"type\":\"login\",\"callsign\":\"BAW34\",\"client_type\":\"pilot\"," ++
  "\"network_id\":\"1000\",\"password\":\"secret\",\"requested_rating\":1," ++
  "\"real_name\":\"Ada\"\x7d"

def brokenText : String :=
  "\x7b\"v\":1,\"type\":\"text\",\"source\":\"BAW34\",\"destination\":\x7b\"kind\":\"all\"\x7d," ++
  "\"message\":\"hello\\nworld\"\x7d"

/-- A library that reads two objects, and prints flat objects. -/
def flatJson : SerdeJson :=
  { compactJson with
    fromSlice := fun frame =>
      if frame = Text.bytes pilotLogin then
        .ok (.login 1 "BAW34" .pilot "1000" "secret" 1 "Ada" none)
      else if frame = Text.bytes brokenText then .ok (.text 1 "BAW34" .all "hello\nworld")
      else .error "expected value at line 1 column 1" }

theorem flatJson_documented : flatJson.Documented where
  toValue_object := compactJson_documented.toValue_object
  toVec_line := compactJson_documented.toVec_line

def mixedSetup : Setup := { setup 8 with json := flatJson }

/-- A client connects to a listener of the JSON dialect. -/
def connectingAster (id : ConnectionId) : List Server.Action :=
  [.accept peer { protocol := .asterV1, maxFrameBytes := 16384 } "", .register id, .handshake id true,
    .install id]

/-- A pilot on an Aster listener sends a text of two lines to everyone; the task is about to encode it
    for the pilot on the classic listener. -/
def lineBreak : List Server.Action :=
  connecting ⟨1⟩ ++ loggingIn ⟨1⟩ "AFR12" ++ sections 5 (.connection ⟨1⟩) ++
    connectingAster ⟨2⟩ ++
    [.frame ⟨2⟩ (Text.bytes pilotLogin), .lock ⟨2⟩,
      .answered ⟨2⟩ (.authenticated "1000" "secret" (.ok identity)), .lock ⟨2⟩, .executed ⟨2⟩] ++
    sections 9 (.connection ⟨2⟩) ++
    [.frame ⟨2⟩ (Text.bytes brokenText), .lock ⟨2⟩, .executed ⟨2⟩] ++ sections 2 (.connection ⟨2⟩)

/-- The run with the section that encodes the text. -/
def lineBroken : List Server.Action := lineBreak ++ [.dispatch (.connection ⟨2⟩)]

end Sample

namespace Server

set_option maxRecDepth 8000 in
private theorem lineBreak_ends :
    ∃ s s', (server Sample.mixedSetup).Trace Sample.lineBreak s ∧
      s.step Sample.mixedSetup (.dispatch (.connection ⟨2⟩)) = some s' ∧
      s.fails Sample.mixedSetup ⟨2⟩ = true ∧ s'.runtime.cancelled = [⟨1⟩] := by
  have checked : ((server Sample.mixedSetup).run {} Sample.lineBreak).any (fun s =>
      s.fails Sample.mixedSetup ⟨2⟩ &&
        (s.step Sample.mixedSetup (.dispatch (.connection ⟨2⟩))).any
          (·.runtime.cancelled = [⟨1⟩])) = true := by decide +kernel
  obtain ⟨s, trace, ends⟩ := (Option.any_eq_true _ _).mp checked
  obtain ⟨fails, cancels⟩ := Bool.and_eq_true_iff.mp ends
  obtain ⟨s', step, cancelled⟩ := (Option.any_eq_true _ _).mp cancels
  exact ⟨s, s', trace, step, fails, of_decide_eq_true cancelled⟩

private theorem lineBreak_not_isolated : ¬ Isolated Sample.mixedSetup Sample.lineBroken := by
  intro isolated
  obtain ⟨s, -, trace, -, fails, -⟩ := lineBreak_ends
  cases fails.symm.trans (isolated.not_fails trace)

private theorem lineBreak_trusted :
    ∀ action ∈ Sample.lineBroken, action.Trusted := by
  have plain : (Answer.authenticated "1000" "secret" (.ok Sample.identity)).Trusted :=
    ⟨⟨by decide, by decide⟩, ⟨by decide, by decide⟩⟩
  refine trusted_of_answers ?_
  have answers : Sample.lineBroken.flatMap Server.Action.answers =
      [.authenticated "1000" "secret" (.ok Sample.identity),
        .authenticated "1000" "secret" (.ok Sample.identity)] := rfl
  rw [answers]
  exact List.forall_mem_cons.mpr ⟨plain, List.forall_mem_singleton.mpr plain⟩

/-- The classic pilot is cancelled for the other pilot's text. -/
theorem bystander_cancelled :
    (∃ s, (server Sample.mixedSetup).Trace Sample.lineBroken s ∧ s.runtime.cancelled = [⟨1⟩]) ∧
      ¬ ∀ (setup : Setup) (actions : List Server.Action), setup.json.Documented →
        (∀ action ∈ actions, action.Trusted) → Isolated setup actions := by
  obtain ⟨s, s', trace, step, -, cancelled⟩ := lineBreak_ends
  refine ⟨⟨s', trace.snoc step, cancelled⟩, fun all => ?_⟩
  exact lineBreak_not_isolated (all _ _ Sample.flatJson_documented lineBreak_trusted)

theorem isolated_iff_lineBreak :
    ¬ (server Sample.mixedSetup).Along (FitsOthers Sample.mixedSetup) {}
      Sample.lineBroken := by
  intro fits
  exact lineBreak_not_isolated
    ((isolated_iff Sample.mixedSetup _ Sample.flatJson_documented lineBreak_trusted).mpr fits)

end Server

end AsterFsd
