import AsterFsd.Core.World
import AsterFsd.Server.Dispatch

/-! # Connection tasks

The server runs one task and one writer for each accepted connection, and a maintenance task. A
connection task registers, performs the handshake, stores its handle, and then processes one frame at a
time until it leaves: a frame is decoded, executed in the core and its effects are dispatched before the
next frame is read. The tasks interleave at every wait. What the network, the clock and the randomness
of the runtime decide is in the actions.
-/

namespace AsterFsd

/-- Transport-level configuration shared by all listeners. -/
structure ServerConfig where
  serverName : String
  serverVersion : String
  mailboxCapacity : Nat
  deriving DecidableEq

/-- Configuration of one protocol listener. -/
structure ListenerConfig where
  protocol : ProtocolDialect
  maxFrameBytes : Nat
  deriving DecidableEq

/-- What a server is built with. -/
structure Setup where
  core : CoreConfig
  server : ServerConfig
  json : SerdeJson

/-- What a connection task is doing. A client that is not registered is told why before the task is done.
    While the task processes a frame it keeps the frame and the context it was decoded in. -/
inductive ConnectionStage where
  | accepted
  | refusing (frames : List WireFrame)
  | handshaking
  | installing
  | reading
  | executing (frame : List UInt8) (context : DecodeContext) (call : CallId)
  | dispatching (frame : List UInt8) (context : DecodeContext) (dispatch : Dispatch)
      (proceeds : Bool)
  | removing
  | disconnecting (reason : String) (installed : Bool)
  | leaving (dispatch : Dispatch) (installed : Bool)
  | joining

structure ConnectionTask where
  listener : ListenerConfig
  peer : SocketAddr
  challenge : String
  stage : ConnectionStage

/-- The backend its listener selects. -/
def ConnectionTask.backend (task : ConnectionTask) : ProtocolBackend :=
  BackendRegistry.get task.listener.protocol

/-- The dispatch a task has in progress. -/
def ConnectionTask.dispatch? (task : ConnectionTask) : Option Dispatch :=
  match task.stage with
  | .dispatching _ _ dispatch _ => some dispatch
  | .leaving dispatch _ => some dispatch
  | _ => none

/-- What a writer is doing: waiting for a message, writing the frames left of a batch, or done. -/
inductive WriterStage where
  | receiving
  | sending (frames : List WireFrame)
  | finished
  deriving DecidableEq

/-- The frames of a batch still to write. -/
def WriterStage.ofBatch : List WireFrame → WriterStage
  | [] => .receiving
  | frames => .sending frames

/-- A writer and the frame limit of its socket. -/
structure Writer where
  maxFrameBytes : Nat
  stage : WriterStage := .receiving
  deriving DecidableEq

inductive TaskId where
  | connection (id : ConnectionId)
  | maintenance
  deriving DecidableEq, Repr

structure Server where
  world : World := {}
  runtime : Runtime := {}
  tasks : KeyedMap ConnectionId ConnectionTask := ∅
  writers : KeyedMap ConnectionId Writer := ∅
  maintenance : Option Dispatch := none
  nextConnectionId : UInt64 := 1

namespace Server

inductive Action where
  | accept (peer : SocketAddr) (listener : ListenerConfig) (challenge : String)
  | register (id : ConnectionId)
  | refuse (id : ConnectionId)
  | handshake (id : ConnectionId) (written : Bool)
  | install (id : ConnectionId)
  | frame (id : ConnectionId) (bytes : List UInt8)
  | lock (id : ConnectionId)
  | answered (id : ConnectionId) (answer : Answer)
  | executed (id : ConnectionId)
  | leave (id : ConnectionId)
  | remove (id : ConnectionId)
  | disconnect (id : ConnectionId)
  | join (id : ConnectionId)
  | windDelta (speed direction : Int32)
  | dispatch (task : TaskId)
  | receive (id : ConnectionId)
  | send (id : ConnectionId) (written : Bool)

/-! ## Processing a frame -/

/-- The context in which the next frame of a connection is decoded. -/
def decodeContext (s : Server) (id : ConnectionId) (challenge : String) : DecodeContext :=
  let snapshot := Network.snapshot s.world.state id
  { connectionId := id
    phase := snapshot.elim .closed (·.phase)
    callsign := snapshot.bind (·.callsign)
    challenge }

/-- The error a client is sent for a frame that does not decode. -/
def decodeErrorEffects (context : DecodeContext) (error : ProtocolError) : Effects :=
  let code := error.errorCode.getD .syntaxError
  { deliveries := [{
      recipients := [context.connectionId]
      event := .error context.callsign code "" code.description }] }

/-- Whether the decode error ends the connection. -/
def closesConnection (context : DecodeContext) (error : ProtocolError) : Bool :=
  let code := error.errorCode.getD .syntaxError
  (error.kind = .framing ∨ error.kind = .version) ||
    (context.phase ≠ .active && (code = .invalidCallsign ∨ code = .invalidProtocolRevision))

/-! ## Steps -/

/-- The task reaches another stage. -/
def advance (s : Server) (id : ConnectionId) (task : ConnectionTask) (stage : ConnectionStage) :
    Server :=
  { s with tasks := s.tasks.insert id { task with stage } }

/-- The task is done. -/
def finish (s : Server) (id : ConnectionId) : Server := { s with tasks := s.tasks.erase id }

/-- The writer reaches another stage; a writer that is done drops its receiver and cancels the
    connection. -/
def advanceWriter (s : Server) (id : ConnectionId) (writer : Writer) (stage : WriterStage) : Server :=
  { s with writers := s.writers.insert id { writer with stage } }

def finishWriter (s : Server) (id : ConnectionId) (writer : Writer) : Server :=
  { s.advanceWriter id writer .finished with
    runtime :=
      { s.runtime with mailboxes := s.runtime.mailboxes.modify id Channel.close }.cancel id }

/-- The dispatch holds a clone of the sender of the connection. -/
def holdsSender (id : ConnectionId) (dispatch : Dispatch) : Bool :=
  match dispatch.cursor with
  | .next => false
  | .fetched held _ _ => held = id
  | .addressed held _ _ _ => held = id
  | .closing held _ => held = id

/-- Some sender of the mailbox is left. -/
def hasSender (s : Server) (id : ConnectionId) : Bool :=
  (s.runtime.connections.lookup id).isSome ||
    s.maintenance.any (holdsSender id) ||
    s.tasks.values.any fun task => task.dispatch?.any (holdsSender id)

/-- The stage after a dispatch of a connection task, with the runtime it leaves. -/
def afterDispatch (id : ConnectionId) (runtime : Runtime) : ConnectionStage → Option Dispatch →
    Runtime × Option ConnectionStage
  | .dispatching frame context _ proceeds, some dispatch =>
      (runtime, some (.dispatching frame context dispatch proceeds))
  | .dispatching _ _ _ proceeds, none =>
      (runtime, some (if proceeds then .reading else .removing))
  | .leaving _ installed, some dispatch => (runtime, some (.leaving dispatch installed))
  | .leaving _ installed, none =>
      if installed then (runtime.cancel id, some .joining) else (runtime, none)
  | stage, _ => (runtime, some stage)

/-- The server after a section of the dispatch of a connection task. -/
def afterSection (s : Server) (id : ConnectionId) (task : ConnectionTask) (runtime : Runtime)
    (rest : Option Dispatch) : Server :=
  match afterDispatch id runtime task.stage rest with
  | (runtime, some stage) => { s with runtime }.advance id task stage
  | (runtime, none) => { s with runtime }.finish id

/-- One section of the dispatch of a task. -/
def dispatchStep (setup : Setup) (s : Server) : TaskId → Option Server
  | .maintenance => do
      let dispatch ← s.maintenance
      let (runtime, rest) :=
        dispatch.step setup.json setup.server.serverName s.world.state s.runtime
      return { s with runtime, maintenance := rest }
  | .connection id => do
      let task ← s.tasks.lookup id
      let dispatch ← task.dispatch?
      let (runtime, rest) :=
        dispatch.step setup.json setup.server.serverName s.world.state s.runtime
      return s.afterSection id task runtime rest

/-- The writer takes a message, or ends because no sender is left. -/
def receiveStep (s : Server) (id : ConnectionId) : Option Server := do
  let writer ← s.writers.lookup id
  let mailbox ← s.runtime.mailboxes.lookup id
  if writer.stage ≠ .receiving then none
  else
    match mailbox.recv with
    | some (message, mailbox) =>
        let s := { s with
          runtime := { s.runtime with mailboxes := s.runtime.mailboxes.insert id mailbox } }
        match message with
        | .frames batch => return s.advanceWriter id writer (WriterStage.ofBatch batch)
        | .close => return s.finishWriter id writer
    | none => if s.hasSender id then none else return s.finishWriter id writer

/-- The writer writes a frame, or ends because the codec or the socket refuses it. -/
def sendStep (s : Server) (id : ConnectionId) (written : Bool) : Option Server := do
  let writer ← s.writers.lookup id
  match writer.stage with
  | .sending (frame :: frames) =>
      if written && FsdFrameCodec.encodes writer.maxFrameBytes frame.bytes then
        return s.advanceWriter id writer (WriterStage.ofBatch frames)
      else return s.finishWriter id writer
  | _ => none

def handshakeContext (setup : Setup) (id : ConnectionId) (task : ConnectionTask) :
    HandshakeContext where
  connectionId := id
  serverName := setup.server.serverName
  serverVersion := setup.server.serverVersion
  challenge := task.challenge

/-- The stage a handshake leads to. It fails when the frames do not encode, when the codec refuses one of
    them, or when the socket does. -/
def afterHandshake (setup : Setup) (id : ConnectionId) (task : ConnectionTask) (written : Bool) :
    ConnectionStage :=
  match task.backend.initialFrames setup.json (handshakeContext setup id task) with
  | .error _ => .disconnecting "handshake encoding failed" false
  | .ok frames =>
      if written && frames.all fun frame =>
          FsdFrameCodec.encodes task.listener.maxFrameBytes frame.bytes then .installing
      else .disconnecting "handshake write failed" false

/-- The frames for a client that finds the server full; what does not encode is not sent. -/
def refusal (setup : Setup) (id : ConnectionId) (task : ConnectionTask) :
    RegisterError → List WireFrame
  | .serverFull =>
      let code := ErrorCode.serverFull
      let context : EncodeContext :=
        { connectionId := id, recipient := none, serverName := setup.server.serverName }
      match task.backend.encode setup.json context (.error none code "" code.description) with
      | .ok frames => frames
      | .error _ => []
  | .duplicateConnection => []

def step (setup : Setup) (s : Server) : Action → Option Server
  | .accept peer listener challenge =>
      let id : ConnectionId := ⟨s.nextConnectionId⟩
      -- The counter is 64 bits wide; a run that exhausts it is outside the model.
      if id ∈ s.tasks ∨ id ∈ s.world.registered then none
      else
        some { s with
          tasks := s.tasks.insert id { listener, peer, challenge, stage := .accepted }
          nextConnectionId := s.nextConnectionId + 1 }
  | .register id => do
      let task ← s.tasks.lookup id
      match task.stage with
      | .accepted => do
          let world ← s.world.step setup.core (.register id task.peer task.listener.protocol)
          match (Network.register setup.core s.world.state id task.peer task.listener.protocol).2 with
          | .ok () => return { s with world }.advance id task .handshaking
          | .error error =>
              return { s with world }.advance id task (.refusing (refusal setup id task error))
      | _ => none
  | .refuse id => do
      let task ← s.tasks.lookup id
      match task.stage with
      -- Whether the frames could be written makes no difference.
      | .refusing _ => return s.finish id
      | _ => none
  | .handshake id written => do
      let task ← s.tasks.lookup id
      match task.stage with
      | .handshaking => return s.advance id task (afterHandshake setup id task written)
      | _ => none
  | .install id => do
      let task ← s.tasks.lookup id
      match task.stage with
      | .installing =>
          let runtime := { s.runtime with
            connections := s.runtime.connections.insert id ⟨task.backend⟩
            mailboxes := s.runtime.mailboxes.insert id { capacity := setup.server.mailboxCapacity } }
          let writers := s.writers.insert id { maxFrameBytes := task.listener.maxFrameBytes }
          return { s with runtime, writers }.advance id task .reading
      | _ => none
  | .frame id bytes => do
      let task ← s.tasks.lookup id
      match task.stage with
      | .reading =>
          if ¬ FsdFrameCodec.Frame task.listener.maxFrameBytes bytes then none
          else
            let context := s.decodeContext id task.challenge
            match task.backend.decode setup.json context bytes with
            | .ok command => do
                let call := s.world.nextCall
                let world ← s.world.step setup.core (.call call id command)
                return { s with world }.advance id task (.executing bytes context call)
            | .error error =>
                return s.advance id task
                  (.dispatching bytes context (Dispatch.start (decodeErrorEffects context error))
                    (!closesConnection context error))
      | _ => none
  | .lock id => do
      let task ← s.tasks.lookup id
      match task.stage with
      | .executing _ _ call => do
          let world ← s.world.step setup.core (.lock call)
          return { s with world }
      | _ => none
  | .answered id answer => do
      let task ← s.tasks.lookup id
      match task.stage with
      | .executing _ _ call => do
          let world ← s.world.step setup.core (.answered call answer)
          return { s with world }
      | _ => none
  | .executed id => do
      let task ← s.tasks.lookup id
      match task.stage with
      | .executing frame context call => do
          let effects := (s.world.calls.lookup call).elim {} (·.stage.effects)
          let world ← s.world.step setup.core (.ret call)
          return { s with world }.advance id task
            (.dispatching frame context (Dispatch.start effects) true)
      | _ => none
  | .leave id => do
      let task ← s.tasks.lookup id
      match task.stage with
      | .reading => return s.advance id task .removing
      | _ => none
  | .remove id => do
      let task ← s.tasks.lookup id
      match task.stage with
      | .removing =>
          let runtime := { s.runtime with connections := s.runtime.connections.erase id }
          return { s with runtime }.advance id task (.disconnecting "connection closed" true)
      | _ => none
  | .disconnect id => do
      let task ← s.tasks.lookup id
      match task.stage with
      | .disconnecting reason installed => do
          let action : AsterFsd.Action := .disconnect id reason
          let world ← s.world.step setup.core action
          return { s with world }.advance id task
            (.leaving (Dispatch.start (s.world.committed setup.core action)) installed)
      | _ => none
  | .join id => do
      let task ← s.tasks.lookup id
      let writer ← s.writers.lookup id
      match task.stage, writer.stage with
      | .joining, .finished => return s.finish id
      | _, _ => none
  | .windDelta speed direction =>
      match s.maintenance with
      | some _ => none
      | none => do
          let action : AsterFsd.Action := .windDelta speed direction
          let world ← s.world.step setup.core action
          return { s with
            world
            maintenance := some (Dispatch.start (s.world.committed setup.core action)) }
  | .dispatch task => s.dispatchStep setup task
  | .receive id => s.receiveStep id
  | .send id written => s.sendStep id written

end Server

/-- The server with its clients. -/
def server (setup : Setup) : Machine Server Server.Action where
  init := {}
  step := Server.step setup

end AsterFsd
