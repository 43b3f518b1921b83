import AsterFsd.Core.Registry
import AsterFsd.Server.Steps

/-! # Mailboxes over runs

Every message that the dispatches put into the mailbox of a connection is taken by its writer in the
same order, and written frame by frame. The logs are read off the steps of a run: what the dispatches
offered, what the mailbox accepted, what the writer took and what it wrote.
-/

namespace AsterFsd

/-- An encoded event, or the error its encoding ended in. -/
abbrev Batch := Except ProtocolError (List WireFrame)

namespace Outbound

def batch? : Outbound → Option (List WireFrame)
  | .frames batch => some batch
  | .close => none

/-- The batches among the messages. -/
def batches (messages : List Outbound) : List (List WireFrame) := messages.filterMap batch?

@[simp] theorem batches_nil : batches [] = [] := rfl

@[simp] theorem batches_append (first second : List Outbound) :
    batches (first ++ second) = batches first ++ batches second := List.filterMap_append

@[simp] theorem batches_frames (batch : List WireFrame) : batches [.frames batch] = [batch] := rfl

@[simp] theorem batches_close : batches [.close] = [] := rfl

end Outbound

/-! ## Lanes -/

/-- What a writer has written of the frames it took. -/
def WriterStage.Wrote (taken written : List WireFrame) : WriterStage → Prop
  | .receiving => written = taken
  | .sending frames => written ++ frames = taken
  | .finished => written <+: taken

theorem WriterStage.wrote_ofBatch {frames taken written : List WireFrame} :
    (WriterStage.ofBatch frames).Wrote taken written ↔ written ++ frames = taken := by
  cases frames with
  | nil => simp [WriterStage.ofBatch, WriterStage.Wrote]
  | cons frame frames => rfl

theorem WriterStage.Wrote.isPrefix {stage : WriterStage} {taken written : List WireFrame}
    (wrote : stage.Wrote taken written) : written <+: taken := by
  cases stage with
  | receiving =>
      obtain rfl : written = taken := wrote
      exact List.prefix_rfl
  | sending frames => exact ⟨frames, wrote⟩
  | finished => exact wrote

/-- The mailbox of a connection and its writer. -/
structure Lane where
  mailbox : Option (Channel Outbound)
  writer : Option Writer
  deriving DecidableEq

namespace Lane

/-- The connection has not stored its handle yet. -/
def unopened : Lane := ⟨none, none⟩

/-- The moves of an open lane: the messages posted, the messages taken and the frames written. -/
inductive Step : Lane → Lane → List Outbound → List Outbound → List WireFrame → Prop where
  | idle {lane : Lane} : Step lane lane [] [] []
  | posted {mailbox next : Channel Outbound} {writer : Option Writer} {message : Outbound}
      (accepted : mailbox.trySend message = .ok next) :
      Step ⟨some mailbox, writer⟩ ⟨some next, writer⟩ [message] [] []
  | received {mailbox next : Channel Outbound} {writer : Writer} {batch : List WireFrame}
      (waits : writer.stage = .receiving) (taken : mailbox.recv = some (.frames batch, next)) :
      Step ⟨some mailbox, some writer⟩
        ⟨some next, some { writer with stage := WriterStage.ofBatch batch }⟩ [] [.frames batch] []
  | receivedClose {mailbox next : Channel Outbound} {writer : Writer}
      (waits : writer.stage = .receiving) (taken : mailbox.recv = some (.close, next)) :
      Step ⟨some mailbox, some writer⟩ ⟨some next.close, some { writer with stage := .finished }⟩
        [] [.close] []
  | sent {mailbox : Option (Channel Outbound)} {writer : Writer} {frame : WireFrame}
      {frames : List WireFrame} (sending : writer.stage = .sending (frame :: frames)) :
      Step ⟨mailbox, some writer⟩
        ⟨mailbox, some { writer with stage := WriterStage.ofBatch frames }⟩ [] [] [frame]
  | ended {mailbox : Option (Channel Outbound)} {writer : Writer} :
      Step ⟨mailbox, some writer⟩
        ⟨mailbox.map Channel.close, some { writer with stage := .finished }⟩ [] [] []

/-- What was taken followed by what is queued is what was posted, and what was written followed by what
    the writer still holds is what was taken. -/
def Conveys (posts takes : List Outbound) (writes : List WireFrame) : Lane → Prop
  | ⟨some mailbox, some writer⟩ =>
      mailbox.Carries posts takes ∧ writer.stage.Wrote (Outbound.batches takes).flatten writes
  | ⟨none, none⟩ => posts = [] ∧ takes = [] ∧ writes = []
  | _ => False

variable {lane lane' : Lane} {posts posts' takes takes' : List Outbound}
  {writes writes' : List WireFrame}

theorem Step.conveys (step : Step lane lane' posts' takes' writes')
    (conveys : lane.Conveys posts takes writes) :
    lane'.Conveys (posts ++ posts') (takes ++ takes') (writes ++ writes') := by
  cases step with
  | idle => simpa using conveys
  | @posted mailbox next writer message accepted =>
      cases writer with
      | none => exact conveys.elim
      | some writer =>
          obtain ⟨carries, wrote⟩ := conveys
          refine ⟨?_, by simpa using wrote⟩
          simpa using carries.trySend accepted
  | received waits taken =>
      obtain ⟨carries, wrote⟩ := conveys
      rw [waits] at wrote
      refine ⟨?_, WriterStage.wrote_ofBatch.mpr ?_⟩
      · simpa using carries.recv taken
      · have wrote : writes = _ := wrote
        simp [wrote]
  | receivedClose waits taken =>
      obtain ⟨carries, wrote⟩ := conveys
      refine ⟨?_, ?_⟩
      · simpa using (carries.recv taken).close
      · simpa [WriterStage.Wrote] using wrote.isPrefix
  | @sent mailbox writer frame frames sending =>
      cases mailbox with
      | none => exact conveys.elim
      | some mailbox =>
          obtain ⟨carries, wrote⟩ := conveys
          rw [sending] at wrote
          refine ⟨by simpa using carries, WriterStage.wrote_ofBatch.mpr ?_⟩
          have wrote : writes ++ frame :: frames = _ := wrote
          simpa using wrote
  | @ended mailbox writer =>
      cases mailbox with
      | none => exact conveys.elim
      | some mailbox =>
          obtain ⟨carries, wrote⟩ := conveys
          refine ⟨by simpa using carries.close, ?_⟩
          simpa [WriterStage.Wrote] using wrote.isPrefix

theorem Step.unopened (step : Step lane lane' posts takes writes) (none_ : lane = .unopened) :
    lane' = .unopened ∧ posts = [] ∧ takes = [] ∧ writes = [] := by
  subst none_
  cases step with
  | idle => exact ⟨rfl, rfl, rfl, rfl⟩

/-- A lane keeps the limit of its writer. -/
theorem Step.limit (step : Step lane lane' posts takes writes) {writer' : Writer}
    (found : lane'.writer = some writer') :
    ∃ writer, lane.writer = some writer ∧ writer'.maxFrameBytes = writer.maxFrameBytes := by
  cases step with
  | idle | posted => exact ⟨writer', found, rfl⟩
  | received | receivedClose | sent | ended =>
      obtain rfl := Option.some.inj found
      exact ⟨_, rfl, rfl⟩

theorem Conveys.isPrefix (conveys : lane.Conveys posts takes writes) :
    takes <+: posts ∧ writes <+: (Outbound.batches takes).flatten := by
  obtain ⟨mailbox, writer⟩ := lane
  cases mailbox with
  | none =>
      cases writer with
      | none =>
          obtain ⟨rfl, rfl, rfl⟩ := conveys
          exact ⟨List.prefix_rfl, List.prefix_rfl⟩
      | some writer => exact conveys.elim
  | some mailbox =>
      cases writer with
      | none => exact conveys.elim
      | some writer => exact ⟨conveys.1.isPrefix, conveys.2.isPrefix⟩

end Lane

/-! ## Logs -/

namespace Dispatch

/-- What the next section of a dispatch sends, and to whom. -/
def message? (json : SerdeJson) (dispatch : Dispatch) :
    Option (ConnectionId × Except ProtocolError Outbound) :=
  match dispatch.cursor with
  | .addressed id handle event context =>
      some (id, (encodeCached json handle.backend context event dispatch.encodedByDialect).1.map
        .frames)
  | .closing id _ => some (id, .ok .close)
  | _ => none

/-- The batch that the next section of a dispatch offers, and to whom. -/
def batch? (json : SerdeJson) (dispatch : Dispatch) : Option (ConnectionId × Batch) :=
  match dispatch.cursor with
  | .addressed id handle event context =>
      some (id, (encodeCached json handle.backend context event dispatch.encodedByDialect).1)
  | _ => none

/-- The message that the next section of a dispatch puts into the mailbox of `j`. -/
def posts (json : SerdeJson) (runtime : Runtime) (j : ConnectionId) (dispatch : Dispatch) :
    List Outbound :=
  match dispatch.message? json with
  | some (id, .ok message) => if id = j ∧ runtime.HasRoom j then [message] else []
  | _ => []

/-- The batch that the next section of a dispatch offers to `j`, and whether its mailbox accepts it. -/
def attempts (json : SerdeJson) (runtime : Runtime) (j : ConnectionId) (dispatch : Dispatch) :
    List (Attempt Batch) :=
  match dispatch.batch? json with
  | some (id, batch) =>
      if id = j then [⟨batch, batch.isOk && decide (runtime.HasRoom j)⟩] else []
  | none => []

theorem posts_next {json : SerdeJson} {runtime : Runtime} {j : ConnectionId} {dispatch : Dispatch}
    (between : dispatch.cursor = .next) : dispatch.posts json runtime j = [] := by
  simp [posts, message?, between]

theorem posts_fetched {json : SerdeJson} {runtime : Runtime} {j id : ConnectionId}
    {handle : ConnectionHandle} {event : Event} {dispatch : Dispatch}
    (holds : dispatch.cursor = .fetched id handle event) : dispatch.posts json runtime j = [] := by
  simp [posts, message?, holds]

/-- What a section offers, as the mailbox accepts it, is what it posts, closes aside. -/
theorem taken_attempts (json : SerdeJson) (runtime : Runtime) (j : ConnectionId)
    (dispatch : Dispatch) :
    Attempt.taken (dispatch.attempts json runtime j) =
      (Outbound.batches (dispatch.posts json runtime j)).map .ok := by
  simp only [attempts, posts, batch?, message?]
  cases dispatch.cursor with
  | next => rfl
  | fetched => rfl
  | closing id handle =>
      dsimp only
      split <;> rfl
  | addressed id handle event context =>
      cases encoded : (encodeCached json handle.backend context event
        dispatch.encodedByDialect).1 with
      | error error =>
          simp only [encoded, Except.map, Except.isOk, Except.toBool, Bool.false_and]
          split <;> rfl
      | ok frames =>
          simp only [encoded, Except.map, Except.isOk, Except.toBool, Bool.true_and]
          by_cases here : id = j
          · by_cases room : runtime.HasRoom j
            · simp [here, room, Attempt.taken]
            · simp [here, room, Attempt.taken]
          · simp [here, Attempt.taken]

end Dispatch

namespace Server

variable {setup : Setup} {s s' : Server} {action : Server.Action} {j : ConnectionId}

/-- The dispatch that a task has in progress. -/
def dispatchOf (s : Server) : TaskId → Option Dispatch
  | .maintenance => s.maintenance
  | .connection id => (s.tasks.lookup id).bind (·.dispatch?)

/-- The lane of a connection. -/
def lane (s : Server) (j : ConnectionId) : Lane where
  mailbox := s.runtime.mailboxes.lookup j
  writer := s.writers.lookup j

/-- The batch that the step offers to `j`. -/
def attempts (setup : Setup) (j : ConnectionId) (s : Server) : Server.Action → List (Attempt Batch)
  | .dispatch task => (s.dispatchOf task).elim [] (·.attempts setup.json s.runtime j)
  | _ => []

/-- The message that the step puts into the mailbox of `j`. -/
def posts (setup : Setup) (j : ConnectionId) (s : Server) : Server.Action → List Outbound
  | .dispatch task => (s.dispatchOf task).elim [] (·.posts setup.json s.runtime j)
  | _ => []

/-- The message that the writer of `j` takes in the step. -/
def takes (j : ConnectionId) (s : Server) : Server.Action → List Outbound
  | .receive id =>
      if id = j then ((s.runtime.mailboxes.lookup j).bind Channel.recv).toList.map Prod.fst else []
  | _ => []

/-- The frame that the writer of `j` writes in the step. -/
def writes (j : ConnectionId) (s : Server) : Server.Action → List WireFrame
  | .send id written =>
      match s.writers.lookup id with
      | some { maxFrameBytes, stage := .sending (frame :: _) } =>
          if id = j ∧ written ∧ FsdFrameCodec.encodes maxFrameBytes frame.bytes then [frame] else []
      | _ => []
  | _ => []

theorem taken_attempts (s : Server) (action : Server.Action) :
    Attempt.taken (attempts setup j s action) =
      (Outbound.batches (posts setup j s action)).map .ok := by
  cases action with
  | dispatch task =>
      simp only [attempts, posts]
      cases s.dispatchOf task with
      | none => rfl
      | some dispatch => exact dispatch.taken_attempts setup.json s.runtime j
  | _ => rfl

/-! ## Steps of a lane -/

/-- A message that a mailbox is sent is posted, or the mailbox stays as it is. -/
theorem lane_trySend (runtime : Runtime) (id : ConnectionId) (message : Outbound)
    (writer : Option Writer) :
    Lane.Step ⟨runtime.mailboxes.lookup j, writer⟩
      ⟨(runtime.trySend id message).mailboxes.lookup j, writer⟩
      (if id = j ∧ runtime.HasRoom j then [message] else []) [] [] := by
  by_cases here : id = j
  · subst here
    by_cases room : runtime.HasRoom id
    · rw [if_pos ⟨rfl, room⟩]
      obtain ⟨mailbox, found, free⟩ := room
      obtain ⟨next, accepted⟩ := Channel.trySend_isOk.mpr free
      rw [Runtime.trySend_room found accepted, found]
      simpa using Lane.Step.posted accepted
    · rw [if_neg (fun both => room both.2), Runtime.trySend_full room]
      exact .idle
  · rw [if_neg (fun both => here both.1), Runtime.trySend_mailboxes_ne here]
    exact .idle

theorem lane_dispatched {json : SerdeJson} {serverName : String} {network : NetworkState}
    {runtime runtime' : Runtime} {dispatch : Dispatch} {rest : Option Dispatch}
    (served : Dispatched json serverName network runtime dispatch runtime' rest)
    (writer : Option Writer) :
    Lane.Step ⟨runtime.mailboxes.lookup j, writer⟩ ⟨runtime'.mailboxes.lookup j, writer⟩
      (dispatch.posts json runtime j) [] [] := by
  cases served with
  | offered holds encoded =>
      rename_i id handle event context frames cache
      have sends : dispatch.message? json = some (id, frames.map .frames) := by
        simp [Dispatch.message?, holds, encoded]
      cases frames with
      | error error =>
          have silent : dispatch.posts json runtime j = [] := by
            simp [Dispatch.posts, sends, Except.map]
          rw [silent]
          exact .idle
      | ok frames =>
          have posts : dispatch.posts json runtime j =
              if id = j ∧ runtime.HasRoom j then [.frames frames] else [] := by
            simp [Dispatch.posts, sends, Except.map]
          rw [posts]
          exact lane_trySend ..
  | closed holds =>
      rename_i id handle
      have posts : dispatch.posts json runtime j =
          if id = j ∧ runtime.HasRoom j then [.close] else [] := by
        simp [Dispatch.posts, Dispatch.message?, holds]
      rw [posts]
      exact lane_trySend ..
  | addressed holds =>
      rw [Dispatch.posts_fetched holds]
      exact .idle
  | turned between =>
      rw [Dispatch.posts_next between]
      exact .idle
  | skipped between =>
      rw [Dispatch.posts_next between]
      exact .idle
  | fetched between =>
      rw [Dispatch.posts_next between]
      exact .idle
  | ended between =>
      rw [Dispatch.posts_next between]
      exact .idle
  | closes between =>
      rw [Dispatch.posts_next between]
      exact .idle

theorem lane_advanceWriter (s : Server) (id : ConnectionId) (writer : Writer)
    (stage : WriterStage) :
    (s.advanceWriter id writer stage).lane j =
      if j = id then ⟨s.runtime.mailboxes.lookup j, some { writer with stage }⟩ else s.lane j := by
  split
  · rename_i here
    subst here
    simp [lane, advanceWriter]
  · rename_i other
    simp [lane, advanceWriter, AList.lookup_insert_ne other]

theorem lane_finishWriter (s : Server) (id : ConnectionId) (writer : Writer) :
    (s.finishWriter id writer).lane j =
      if j = id then
        ⟨(s.runtime.mailboxes.lookup j).map Channel.close, some { writer with stage := .finished }⟩
      else s.lane j := by
  split
  · rename_i here
    subst here
    simp [lane, finishWriter, advanceWriter]
  · rename_i other
    simp [lane, finishWriter, advanceWriter, AList.lookup_insert_ne other,
      KeyedMap.lookup_modify, other]

/-- A step opens the lane of a connection, or it is a move of the lane with the step's logs. -/
theorem Stepped.lane (stepped : Stepped setup s action s') :
    (action = .install j ∧ ∃ capacity maxFrameBytes,
      s'.lane j = ⟨some { capacity }, some { maxFrameBytes }⟩) ∨
    Lane.Step (s.lane j) (s'.lane j) (posts setup j s action) (takes j s action)
      (writes j s action) := by
  cases stepped with
  | @installed id task found stage =>
      by_cases here : j = id
      · subst here
        refine .inl ⟨rfl, setup.server.mailboxCapacity, task.listener.maxFrameBytes, ?_⟩
        simp [Server.lane]
      · right
        change Lane.Step _ _ [] [] []
        simpa [Server.lane, AList.lookup_insert_ne here] using Lane.Step.idle
  | @maintained dispatch runtime rest holds served =>
      right
      have logged : posts setup j s (.dispatch .maintenance) =
          dispatch.posts setup.json s.runtime j := by
        simp [posts, dispatchOf, holds]
      rw [logged]
      exact lane_dispatched served _
  | @dispatched id task dispatch runtime rest found holds served =>
      right
      have logged : posts setup j s (.dispatch (.connection id)) =
          dispatch.posts setup.json s.runtime j := by
        simp [posts, dispatchOf, found, holds]
      have reached : (s.afterSection id task runtime rest).lane j =
          ⟨runtime.mailboxes.lookup j, s.writers.lookup j⟩ := by
        simp [Server.lane]
      rw [logged, reached]
      exact lane_dispatched served _
  | @received id writer mailbox mailbox' batch stored found waits taken =>
      right
      rw [lane_advanceWriter]
      by_cases here : j = id
      · subst here
        have before : s.lane j = ⟨some mailbox, some writer⟩ := by
          simp [Server.lane, found, stored]
        have logged : takes j s (.receive j) = [.frames batch] := by
          simp [takes, found, taken]
        rw [if_pos rfl, before, logged]
        change Lane.Step _ _ [] _ []
        simpa using Lane.Step.received waits taken
      · have logged : takes j s (.receive id) = [] := if_neg (Ne.symm here)
        rw [if_neg here, logged]
        change Lane.Step _ _ [] [] []
        simpa [Server.lane, AList.lookup_insert_ne here] using Lane.Step.idle
  | @receivedClose id writer mailbox mailbox' stored found waits taken =>
      right
      rw [lane_finishWriter]
      by_cases here : j = id
      · subst here
        have before : s.lane j = ⟨some mailbox, some writer⟩ := by
          simp [Server.lane, found, stored]
        have logged : takes j s (.receive j) = [.close] := by
          simp [takes, found, taken]
        rw [if_pos rfl, before, logged]
        change Lane.Step _ _ [] _ []
        simpa using Lane.Step.receivedClose waits taken
      · have logged : takes j s (.receive id) = [] := if_neg (Ne.symm here)
        rw [if_neg here, logged]
        change Lane.Step _ _ [] [] []
        simpa [Server.lane, AList.lookup_insert_ne here] using Lane.Step.idle
  | @abandoned id writer mailbox stored found waits empty alone =>
      right
      rw [lane_finishWriter]
      by_cases here : j = id
      · subst here
        have before : s.lane j = ⟨some mailbox, some writer⟩ := by
          simp [Server.lane, found, stored]
        have logged : takes j s (.receive j) = [] := by
          simp [takes, found, empty]
        rw [if_pos rfl, before, logged, found]
        exact .ended
      · have logged : takes j s (.receive id) = [] := if_neg (Ne.symm here)
        rw [if_neg here, logged]
        exact .idle
  | @sent id written writer frame frames stored sending wrote encodes =>
      right
      rw [lane_advanceWriter]
      obtain ⟨maxFrameBytes, stage⟩ := writer
      obtain rfl : stage = .sending (frame :: frames) := sending
      by_cases here : j = id
      · subst here
        have before : s.lane j = ⟨s.runtime.mailboxes.lookup j,
            some ⟨maxFrameBytes, .sending (frame :: frames)⟩⟩ := by
          simp [Server.lane, stored]
        have logged : writes j s (.send j written) = [frame] := by
          simp_all [writes]
        rw [if_pos rfl, before, logged]
        exact .sent rfl
      · have logged : writes j s (.send id written) = [] := by
          simp [writes, stored, Ne.symm here]
        rw [if_neg here, logged]
        exact .idle
  | @failed id written writer frame frames stored sending refused =>
      right
      rw [lane_finishWriter]
      obtain ⟨maxFrameBytes, stage⟩ := writer
      obtain rfl : stage = .sending (frame :: frames) := sending
      have logged : writes j s (.send id written) = [] := by
        simp_all [writes]
      rw [logged]
      by_cases here : j = id
      · subst here
        have before : s.lane j = ⟨s.runtime.mailboxes.lookup j,
            some ⟨maxFrameBytes, .sending (frame :: frames)⟩⟩ := by
          simp [Server.lane, stored]
        rw [if_pos rfl, before]
        exact .ended
      · rw [if_neg here]
        exact .idle
  | _ => exact .inr .idle

/-! ## Opening -/

/-- A connection that has not stored its handle has an unopened lane, and its ID is registered at most
    once. -/
structure Opening (s : Server) (j : ConnectionId) : Prop where
  accepted : ∀ task, s.tasks.lookup j = some task → task.stage = .accepted →
    j ∉ s.world.registered
  handshaking : ∀ task, s.tasks.lookup j = some task →
    task.stage = .handshaking ∨ task.stage = .installing →
    j ∈ s.world.registered ∧ s.lane j = .unopened
  unregistered : j ∉ s.world.registered → s.lane j = .unopened

/-- The stages of a connection whose handle was stored or never will be. -/
def settled : ConnectionStage → Bool
  | .accepted | .handshaking | .installing => false
  | _ => true

theorem Opening.keep (opening : s.Opening j)
    (lane : s.lane j = .unopened → s'.lane j = .unopened)
    (registered : j ∈ s'.world.registered ↔ j ∈ s.world.registered)
    (tasks : ∀ task, s'.tasks.lookup j = some task →
      s.tasks.lookup j = some task ∨ settled task.stage = true) : s'.Opening j where
  accepted task found stage := by
    rw [registered]
    cases tasks task found with
    | inl found => exact opening.accepted task found stage
    | inr late => simp [stage, settled] at late
  handshaking task found stage := by
    rw [registered]
    cases tasks task found with
    | inl found =>
        obtain ⟨known, unopened⟩ := opening.handshaking task found stage
        exact ⟨known, lane unopened⟩
    | inr late =>
        cases stage with
        | inl stage => simp [stage, settled] at late
        | inr stage => simp [stage, settled] at late
  unregistered unknown := lane (opening.unregistered (mt registered.mpr unknown))

/-- A step of another connection. -/
theorem Opening.elsewhere (opening : s.Opening j)
    (lane : s.lane j = .unopened → s'.lane j = .unopened)
    (registered : j ∈ s'.world.registered ↔ j ∈ s.world.registered)
    (tasks : s'.tasks.lookup j = s.tasks.lookup j) : s'.Opening j := by
  refine opening.keep lane registered fun task found => .inl ?_
  rwa [tasks] at found

/-- The stage a dispatch of a connection task leaves it in is late. -/
theorem settled_afterDispatch {id : ConnectionId} {task : ConnectionTask} {dispatch : Dispatch}
    {runtime : Runtime} {rest : Option Dispatch} {stage : ConnectionStage}
    (holds : task.dispatch? = some dispatch)
    (after : (afterDispatch id runtime task.stage rest).2 = some stage) :
    settled stage = true := by
  obtain ⟨listener, peer, challenge, before⟩ := task
  cases before with
  | dispatching frame context dispatch proceeds =>
      cases rest with
      | none =>
          cases after
          cases proceeds <;> rfl
      | some rest =>
          cases after
          rfl
  | leaving dispatch installed =>
      cases rest with
      | none =>
          cases installed with
          | false => cases after
          | true =>
              cases after
              rfl
      | some rest =>
          cases after
          rfl
  | _ => cases holds

theorem afterHandshake_ne_accepted (setup : Setup) (id : ConnectionId) (task : ConnectionTask)
    (written : Bool) : afterHandshake setup id task written ≠ .accepted := by
  unfold afterHandshake
  split
  · simp
  · split <;> simp

theorem Stepped.opening (stepped : Stepped setup s action s') (opening : s.Opening j) :
    s'.Opening j := by
  have lane : action ≠ .install j → s.lane j = .unopened → s'.lane j = .unopened := by
    intro other unopened
    cases stepped.lane (j := j) with
    | inl installs => exact absurd installs.1 other
    | inr move => exact (move.unopened unopened).1
  -- The task of another connection, or the same task at a late stage.
  have advanced : ∀ {s : Server} {id task stage}, settled stage = true →
      ∀ found, (s.advance id task stage).tasks.lookup j = some found →
        s.tasks.lookup j = some found ∨ settled found.stage = true := by
    intro s id task stage late found
    rw [lookup_advance]
    split
    · intro same
      cases same
      exact .inr late
    · exact .inl
  have same : ∀ {moved : AsterFsd.Action} {world : World},
      s.world.step setup.core moved = some world → moved.registers = [] →
        (j ∈ world.registered ↔ j ∈ s.world.registered) := by
    intro moved world step registers
    rw [World.step_registered_eq step, registers, List.nil_append]
  cases stepped with
  | @accepted peer listener challenge fresh unregistered =>
      by_cases here : j = ⟨s.nextConnectionId⟩
      · subst here
        constructor
        · intro task found stage
          exact unregistered
        · intro task found stage
          simp only [AList.lookup_insert, Option.some.injEq] at found
          subst found
          simp at stage
        · exact fun _ => opening.unregistered unregistered
      · exact opening.elsewhere (lane (by simp)) .rfl (AList.lookup_insert_ne here)
  | @registered id task world found stage moved =>
      by_cases here : j = id
      · subst here
        have known : j ∈ world.registered := by
          rw [World.step_registered_eq moved]
          exact List.mem_cons_self
        have unopened := opening.unregistered (opening.accepted task found stage)
        constructor
        · intro task' found' stage'
          rw [lookup_advance, if_pos rfl] at found'
          cases found'
          cases stage'
        · exact fun _ _ _ => ⟨known, unopened⟩
        · exact fun _ => unopened
      · refine opening.elsewhere (lane (by simp)) ?_ ((lookup_advance ..).trans (if_neg here))
        rw [advance_world, World.step_registered_eq moved]
        simp [AsterFsd.Action.registers, here]
  | @refused id task world error found stage moved =>
      by_cases here : j = id
      · subst here
        have unopened := opening.unregistered (opening.accepted task found stage)
        constructor
        · intro task' found' stage'
          rw [lookup_advance, if_pos rfl] at found'
          cases found'
          cases stage'
        · intro task' found' stage'
          rw [lookup_advance, if_pos rfl] at found'
          cases found'
          obtain stage' | stage' := stage' <;> cases stage'
        · exact fun _ => unopened
      · refine opening.elsewhere (lane (by simp)) ?_ ((lookup_advance ..).trans (if_neg here))
        rw [advance_world, World.step_registered_eq moved]
        simp [AsterFsd.Action.registers, here]
  | @handshake id written task found stage =>
      by_cases here : j = id
      · subst here
        have opened := opening.handshaking task found (.inl stage)
        constructor
        · intro task' found' stage'
          rw [lookup_advance, if_pos rfl] at found'
          cases found'
          exact (afterHandshake_ne_accepted _ _ _ _ stage').elim
        · exact fun _ _ _ => opened
        · exact fun unknown => absurd opened.1 unknown
      · exact opening.elsewhere (lane (by simp)) .rfl ((lookup_advance ..).trans (if_neg here))
  | @installed id task found stage =>
      by_cases here : j = id
      · subst here
        have opened := opening.handshaking task found (.inr stage)
        constructor
        · intro task' found' stage'
          rw [lookup_advance, if_pos rfl] at found'
          cases found'
          cases stage'
        · intro task' found' stage'
          rw [lookup_advance, if_pos rfl] at found'
          cases found'
          cases stage' with
          | inl stage' => cases stage'
          | inr stage' => cases stage'
        · exact fun unknown => absurd opened.1 unknown
      · refine opening.keep (lane ?_) .rfl (advanced rfl)
        intro same
        cases same
        exact here rfl
  | decoded _ _ _ moved => exact opening.keep (lane (by simp)) (same moved rfl) (advanced rfl)
  | undecoded => exact opening.keep (lane (by simp)) .rfl (advanced rfl)
  | locked _ _ moved => exact opening.keep (lane (by simp)) (same moved rfl) fun _ => .inl
  | answered _ _ moved => exact opening.keep (lane (by simp)) (same moved rfl) fun _ => .inl
  | executed _ _ _ moved => exact opening.keep (lane (by simp)) (same moved rfl) (advanced rfl)
  | left => exact opening.keep (lane (by simp)) .rfl (advanced rfl)
  | removed => exact opening.keep (lane (by simp)) .rfl (advanced rfl)
  | disconnected _ _ moved => exact opening.keep (lane (by simp)) (same moved rfl) (advanced rfl)
  | joined | turnedAway =>
      refine opening.keep (lane (by simp)) .rfl ?_
      intro task' found'
      rw [lookup_finish] at found'
      split at found'
      · cases found'
      · exact .inl found'
  | broadcast _ moved => exact opening.keep (lane (by simp)) (same moved rfl) fun _ => .inl
  | @dispatched id task dispatch runtime rest found holds served =>
      refine opening.keep (lane (by simp)) (by rw [afterSection_world]) ?_
      intro task' found'
      rw [lookup_afterSection] at found'
      split at found'
      · obtain ⟨stage, after, rfl⟩ := Option.map_eq_some_iff.mp found'
        exact .inr (settled_afterDispatch holds after)
      · exact .inl found'
  | _ => exact opening.keep (lane (by simp)) .rfl fun _ => .inl

theorem reachable_opening (reach : (server setup).Reachable s) : s.Opening j := by
  refine reach.invariant (fun s => s.Opening j) ?_ ?_
  · exact
      { accepted := fun _ found => nomatch found
        handshaking := fun _ found => nomatch found
        unregistered := fun _ => rfl }
  · exact fun s action s' opening step => (step_stepped step).opening opening

/-! ## Runs -/

section Runs

variable (setup) (j)

/-- What the dispatches offered to `j` in a run. -/
def offered (actions : List Server.Action) : List (Attempt Batch) :=
  (server setup).history (attempts setup j) (server setup).init actions

/-- What they put into its mailbox. -/
def posted (actions : List Server.Action) : List Outbound :=
  (server setup).history (posts setup j) (server setup).init actions

/-- What its writer took. -/
def taken (actions : List Server.Action) : List Outbound :=
  (server setup).history (takes j) (server setup).init actions

/-- The frames its writer wrote. -/
def written (actions : List Server.Action) : List WireFrame :=
  (server setup).history (writes j) (server setup).init actions

end Runs

variable {actions : List Server.Action}

theorem taken_history (s : Server) (actions : List Server.Action) :
    Attempt.taken ((server setup).history (attempts setup j) s actions) =
      (Outbound.batches ((server setup).history (posts setup j) s actions)).map .ok := by
  induction actions generalizing s with
  | nil => rfl
  | cons action actions ih =>
      simp only [Machine.history, Attempt.taken_append, taken_attempts, Outbound.batches_append,
        List.map_append]
      cases (server setup).step s action with
      | none => rfl
      | some next => rw [ih next]

/-- The lane of a connection conveys what the dispatches put into its mailbox, in order. -/
theorem trace_conveys (trace : (server setup).Trace actions s) :
    (s.lane j).Conveys (posted setup j actions) (taken setup j actions)
      (written setup j actions) := by
  refine trace.invariant (fun actions s => (s.lane j).Conveys (posted setup j actions)
    (taken setup j actions) (written setup j actions)) ⟨rfl, rfl, rfl⟩ ?_
  intro actions s action s' before conveys step
  simp only [posted, taken, written] at conveys ⊢
  rw [before.history_snoc, before.history_snoc, before.history_snoc]
  have stepped := step_stepped step
  cases stepped.lane (j := j) with
  | inr move => exact move.conveys conveys
  | inl installs =>
      -- The handle is stored once, so the logs are empty when the lane opens.
      obtain ⟨rfl, capacity, maxFrameBytes, opened⟩ := installs
      cases stepped with
      | installed found stage =>
          have unopened :=
            ((reachable_opening before.reachable).handshaking _ found (.inr stage)).2
          rw [unopened] at conveys
          obtain ⟨noPosts, noTakes, noWrites⟩ := conveys
          rw [opened, noPosts, noTakes, noWrites]
          exact ⟨rfl, rfl⟩

end Server

/-! ## A small server -/

namespace Sample

/-- A library that reads no frame and prints every event alike. -/
def json : SerdeJson where
  fromSlice _ := .error "unread"
  toValue _ := .ok (.object [])
  toVec _ := .ok (Text.bytes "{}")

def setup (mailboxCapacity : Nat) : Setup where
  core := config
  server := { serverName := "AsterFSD", serverVersion := "0.2.0", mailboxCapacity }
  json := json

/-- A client connects to a classic listener. -/
def connecting (id : ConnectionId) : List Server.Action :=
  [.accept peer { protocol := .classic, maxFrameBytes := 511 } "", .register id, .handshake id true,
    .install id]

/-- A task performs this many sections of its dispatch. -/
def sections (count : Nat) (task : TaskId) : List Server.Action := List.replicate count (.dispatch task)

/-- The pilot logs in, and the server welcomes them. -/
def loggingIn (id : ConnectionId) (callsign : String) : List Server.Action :=
  [.frame id (Text.bytes ("#AP" ++ callsign ++ ":SERVER:1000:secret:1:9:1:Ada")), .lock id,
    .answered id (.authenticated "1000" "secret" (.ok identity)), .lock id, .executed id]

/-- The writer takes a batch and writes its only frame. -/
def writing (id : ConnectionId) : List Server.Action := [.receive id, .send id true]

/-- A check that a session is active under a callsign. -/
def named (callsign : Callsign) (session : Session) : Bool :=
  session.phase = .active && session.presence.any (·.callsign = callsign)

theorem activeAs_of_named {state : NetworkState} {i : ConnectionId} {callsign : Callsign}
    (checked : (state.sessions.lookup i).any (named callsign) = true) :
    ∃ session presence, state.ActiveAs i session presence ∧ presence.callsign = callsign := by
  obtain ⟨session, found, checked⟩ := (Option.any_eq_true _ _).mp checked
  obtain ⟨active, held⟩ := Bool.and_eq_true_iff.mp checked
  obtain ⟨presence, present, same⟩ := (Option.any_eq_true _ _).mp held
  exact ⟨session, presence, ⟨found, of_decide_eq_true active, present⟩, of_decide_eq_true same⟩

end Sample

end AsterFsd
