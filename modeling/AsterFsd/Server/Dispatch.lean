import AsterFsd.Core.State
import AsterFsd.Lib.Channel
import AsterFsd.Protocol.Backend

/-! # Dispatching effects

A dispatch serves the recipients of each delivery in turn. It takes a clone of the recipient's handle,
then a snapshot of its session, then encodes the event and offers the frames to the mailbox; other
tasks run in between. A recipient whose mailbox refuses the frames, or for whom the event does not
encode, is cancelled.
-/

namespace AsterFsd

/-- What a writer takes from its mailbox. -/
inductive Outbound where
  | frames (batch : List WireFrame)
  | close
  deriving DecidableEq

/-- The handle of a connected client. Its sender and its cancellation token are shared objects, which
    the runtime keeps under the connection ID. -/
structure ConnectionHandle where
  backend : ProtocolBackend
  deriving DecidableEq

/-- The handles of the connected clients, their mailboxes, and the tokens that have been cancelled. A
    mailbox outlives its handle, because a dispatch may hold a clone of the sender. -/
structure Runtime where
  connections : KeyedMap ConnectionId ConnectionHandle := ∅
  mailboxes : KeyedMap ConnectionId (Channel Outbound) := ∅
  cancelled : List ConnectionId := []

namespace Runtime

/-- Trigger the token of a connection. -/
def cancel (runtime : Runtime) (id : ConnectionId) : Runtime :=
  { runtime with cancelled := id :: runtime.cancelled }

/-- Put a message into the mailbox, or cancel the connection when it is full or closed. -/
def trySend (runtime : Runtime) (id : ConnectionId) (message : Outbound) : Runtime :=
  match runtime.mailboxes.lookup id with
  | none => runtime.cancel id
  | some mailbox =>
      match mailbox.trySend message with
      | .ok mailbox => { runtime with mailboxes := runtime.mailboxes.insert id mailbox }
      | .error _ => runtime.cancel id

/-- The mailbox of the connection has a receiver and a free slot. -/
def HasRoom (runtime : Runtime) (id : ConnectionId) : Prop :=
  ∃ mailbox, runtime.mailboxes.lookup id = some mailbox ∧ mailbox.HasRoom

instance decidableHasRoom (runtime : Runtime) (id : ConnectionId) :
    Decidable (runtime.HasRoom id) :=
  match found : runtime.mailboxes.lookup id with
  | none => .isFalse (by simp [HasRoom, found])
  | some mailbox =>
      decidable_of_iff mailbox.HasRoom (by simp [HasRoom, found])

@[simp] theorem cancel_connections (runtime : Runtime) (id : ConnectionId) :
    (runtime.cancel id).connections = runtime.connections := rfl

@[simp] theorem cancel_mailboxes (runtime : Runtime) (id : ConnectionId) :
    (runtime.cancel id).mailboxes = runtime.mailboxes := rfl

theorem trySend_room {runtime : Runtime} {id : ConnectionId} {mailbox next : Channel Outbound}
    {message : Outbound} (found : runtime.mailboxes.lookup id = some mailbox)
    (accepted : mailbox.trySend message = .ok next) :
    runtime.trySend id message =
      { runtime with mailboxes := runtime.mailboxes.insert id next } := by
  simp [trySend, found, accepted]

theorem trySend_full {runtime : Runtime} {id : ConnectionId} (full : ¬ runtime.HasRoom id)
    (message : Outbound) : runtime.trySend id message = runtime.cancel id := by
  unfold trySend
  cases found : runtime.mailboxes.lookup id with
  | none => rfl
  | some mailbox =>
      have refused : ¬ mailbox.HasRoom := fun room => full ⟨mailbox, found, room⟩
      have failed : ∃ error, mailbox.trySend message = .error error :=
        Channel.trySend_error.mpr refused
      obtain ⟨error, failed⟩ := failed
      simp [failed]

theorem trySend_connections (runtime : Runtime) (id : ConnectionId) (message : Outbound) :
    (runtime.trySend id message).connections = runtime.connections := by
  unfold trySend
  split
  · rfl
  · split <;> rfl

theorem trySend_mailboxes_ne {runtime : Runtime} {id j : ConnectionId} (other : id ≠ j)
    (message : Outbound) :
    (runtime.trySend id message).mailboxes.lookup j = runtime.mailboxes.lookup j := by
  unfold trySend
  split
  · rfl
  · split
    · exact AList.lookup_insert_ne other.symm
    · rfl

/-- Deliver an encoded batch, or cancel the connection when the encoding failed. -/
def offer (runtime : Runtime) (id : ConnectionId)
    (frames : Except ProtocolError (List WireFrame)) : Runtime :=
  match frames with
  | .ok frames => runtime.trySend id (.frames frames)
  | .error _ => runtime.cancel id

theorem offer_connections (runtime : Runtime) (id : ConnectionId)
    (frames : Except ProtocolError (List WireFrame)) :
    (runtime.offer id frames).connections = runtime.connections := by
  cases frames with
  | ok frames => exact trySend_connections ..
  | error error => rfl

end Runtime

/-! ## The frame cache -/

/-- Frames of the current event by dialect. -/
abbrev FrameCache := KeyedMap ProtocolDialect (List WireFrame)

/-- Encode the event once for each dialect, unless the backend asks to encode it for each recipient. -/
def encodeCached (json : SerdeJson) (backend : ProtocolBackend) (context : EncodeContext)
    (event : Event) (encodedByDialect : FrameCache) :
    Except ProtocolError (List WireFrame) × FrameCache :=
  if backend.encodingIsRecipientSpecific event then
    (backend.encode json context event, encodedByDialect)
  else
    match encodedByDialect.lookup backend.dialect with
    | some frames => (.ok frames, encodedByDialect)
    | none =>
        match backend.encode json context event with
        | .ok frames => (.ok frames, encodedByDialect.insert backend.dialect frames)
        | .error error => (.error error, encodedByDialect)

/-! ## The loop -/

/-- Where a dispatch stands: between recipients, or with the clone of a handle it has taken. -/
inductive Cursor where
  | next
  | fetched (id : ConnectionId) (handle : ConnectionHandle) (event : Event)
  | addressed (id : ConnectionId) (handle : ConnectionHandle) (event : Event)
      (context : EncodeContext)
  | closing (id : ConnectionId) (handle : ConnectionHandle)
  deriving DecidableEq

/-- A dispatch in progress: the deliveries left, the current one first with the recipients it still has
    to serve, and the frames already encoded for the current event. -/
structure Dispatch where
  deliveries : List Delivery
  encodedByDialect : FrameCache := ∅
  close : Option CloseConnection
  cursor : Cursor := .next

namespace Dispatch

def start (effects : Effects) : Dispatch where
  deliveries := effects.deliveries
  close := effects.close

/-- The next section of a dispatch; without a rest it is finished. -/
def step (json : SerdeJson) (serverName : String) (network : NetworkState) (runtime : Runtime)
    (dispatch : Dispatch) : Runtime × Option Dispatch :=
  match dispatch.cursor with
  | .next =>
      match dispatch.deliveries with
      | ⟨[], _⟩ :: rest =>
          (runtime, some { dispatch with deliveries := rest, encodedByDialect := ∅ })
      | ⟨id :: recipients, event⟩ :: rest =>
          let dispatch := { dispatch with deliveries := ⟨recipients, event⟩ :: rest }
          match runtime.connections.lookup id with
          | none => (runtime, some dispatch)
          | some handle => (runtime, some { dispatch with cursor := .fetched id handle event })
      | [] =>
          match dispatch.close with
          | none => (runtime, none)
          | some close =>
              match runtime.connections.lookup close.connectionId with
              | none => (runtime, none)
              | some handle =>
                  (runtime, some { dispatch with cursor := .closing close.connectionId handle })
  | .fetched id handle event =>
      let recipient := (Network.snapshot network id).bind (·.presence)
      let context := { connectionId := id, recipient, serverName }
      (runtime, some { dispatch with cursor := .addressed id handle event context })
  | .addressed id handle event context =>
      let (frames, encodedByDialect) :=
        encodeCached json handle.backend context event dispatch.encodedByDialect
      (runtime.offer id frames, some { dispatch with encodedByDialect, cursor := .next })
  | .closing id _ => (runtime.trySend id .close, none)

end Dispatch

end AsterFsd
