import AsterFsd.Lib.Memo
import AsterFsd.Server.Steps

/-! # A dispatch without the frame cache

A dispatch that runs by itself, compared with the loop that encodes every event afresh for every
recipient. No backend looks at its context, so that the frames cached for a dialect are the frames of
every recipient of that dialect, and what happens to one mailbox does not depend on the others.
-/

namespace AsterFsd

/-! ## A whole dispatch -/

namespace Dispatch

/-- A bound on the sections that serve the deliveries. -/
def deliveriesWork : List Delivery → Nat
  | [] => 0
  | delivery :: rest => 1 + 3 * delivery.recipients.length + deliveriesWork rest

/-- A bound on the sections left. -/
def work (dispatch : Dispatch) : Nat :=
  deliveriesWork dispatch.deliveries +
    match dispatch.cursor with
    | .fetched .. => 4
    | .addressed .. => 3
    | .next => 2
    | .closing .. => 1

theorem step_work {json : SerdeJson} {serverName : String} {network : NetworkState}
    {runtime runtime' : Runtime} {dispatch next : Dispatch}
    (stepped : dispatch.step json serverName network runtime = (runtime', some next)) :
    next.work < dispatch.work := by
  obtain ⟨deliveries, cache, close, cursor⟩ := dispatch
  cases cursor with
  | next =>
      cases deliveries with
      | nil =>
          simp only [step] at stepped
          split at stepped
          · cases stepped
          · split at stepped
            · cases stepped
            · obtain ⟨-, rfl⟩ := stepped
              simp [work]
      | cons delivery rest =>
          obtain ⟨recipients, event⟩ := delivery
          cases recipients with
          | nil =>
              obtain ⟨-, rfl⟩ := stepped
              simp [work, deliveriesWork]
          | cons id recipients =>
              simp only [step] at stepped
              split at stepped
              · obtain ⟨-, rfl⟩ := stepped
                simp [work, deliveriesWork]
              · obtain ⟨-, rfl⟩ := stepped
                simp [work, deliveriesWork]
                omega
  | fetched id handle event =>
      obtain ⟨-, rfl⟩ := stepped
      simp [work]
  | addressed id handle event context =>
      obtain ⟨-, rfl⟩ := stepped
      simp [work]
  | closing => cases stepped

/-- The sections of a dispatch, one after the other, while nothing else runs. -/
def run (json : SerdeJson) (serverName : String) (network : NetworkState) (runtime : Runtime)
    (dispatch : Dispatch) : Runtime :=
  match _ : dispatch.step json serverName network runtime with
  | (runtime, none) => runtime
  | (runtime, some next) => run json serverName network runtime next
termination_by dispatch.work
decreasing_by exact step_work ‹_›

end Dispatch

namespace Runtime

variable (json : SerdeJson) (serverName : String) (network : NetworkState)

def dispatch (runtime : Runtime) (effects : Effects) : Runtime :=
  Dispatch.run json serverName network runtime (.start effects)

/-! ## The plain loop -/

/-- The frames of the event for one recipient, by its own backend and in its own context. -/
def encodeFor (id : ConnectionId) (handle : ConnectionHandle) (event : Event) :
    Except ProtocolError (List WireFrame) :=
  handle.backend.encode json
    { connectionId := id, recipient := (Network.snapshot network id).bind (·.presence), serverName }
    event

/-- Serve one recipient; one that is not connected is skipped. -/
def serve (event : Event) (runtime : Runtime) (id : ConnectionId) : Runtime :=
  match runtime.connections.lookup id with
  | none => runtime
  | some handle => runtime.offer id (encodeFor json serverName network id handle event)

/-- Tell the target of the close, if it is connected. -/
def closeTarget (runtime : Runtime) : Option CloseConnection → Runtime
  | none => runtime
  | some close =>
      match runtime.connections.lookup close.connectionId with
      | none => runtime
      | some _ => runtime.trySend close.connectionId .close

/-- Serve the recipients of the deliveries in order. -/
def serveAll (runtime : Runtime) (deliveries : List Delivery) : Runtime :=
  deliveries.foldl (fun runtime delivery =>
    delivery.recipients.foldl (serve json serverName network delivery.event) runtime) runtime

/-- Encode each event afresh for each recipient, then close. -/
def plainDispatch (runtime : Runtime) (effects : Effects) : Runtime :=
  (runtime.serveAll json serverName network effects.deliveries).closeTarget effects.close

end Runtime

/-! ## The cache -/

/-- The frames kept for each dialect are those of the event. -/
def FrameCache.Holds (json : SerdeJson) (event : Event) (cache : FrameCache) : Prop :=
  Memo.Coherent (fun target : ProtocolBackend × EncodeContext => target.1.dialect)
    (fun target => target.1.encode json target.2 event) cache

section Cache

variable {json : SerdeJson} {event : Event} {cache : FrameCache} (backend : ProtocolBackend)
  (context : EncodeContext)

theorem encodeCached_fetch :
    encodeCached json backend context event cache =
      Memo.fetch (fun target : ProtocolBackend × EncodeContext => target.1.dialect)
        (fun target => target.1.encode json target.2 event) cache (backend, context) := by
  unfold encodeCached Memo.fetch
  rw [if_neg (by simp [ProtocolBackend.encodingIsRecipientSpecific])]
  cases cache.lookup backend.dialect with
  | some frames => rfl
  | none =>
      dsimp only
      cases backend.encode json context event <;> rfl

theorem FrameCache.Holds.encodeCached_fst (holds : cache.Holds json event) :
    (encodeCached json backend context event cache).1 = backend.encode json context event := by
  rw [encodeCached_fetch]
  exact Memo.Coherent.fetch_eq holds (backend, context)

theorem FrameCache.Holds.encodeCached_snd (holds : cache.Holds json event) :
    (encodeCached json backend context event cache).2.Holds json event := by
  rw [encodeCached_fetch]
  refine Memo.Coherent.fetch ?_ holds (backend, context)
  intro ⟨first, own⟩ ⟨second, other⟩ same
  obtain rfl : first = second := ProtocolBackend.dialect_injective same
  exact first.encode_context json event own other

end Cache

namespace Dispatch

/-- The cache holds the frames of the event that is being dispatched. -/
def Coherent (json : SerdeJson) (dispatch : Dispatch) : Prop :=
  match dispatch.cursor with
  | .next => ∀ delivery ∈ dispatch.deliveries.head?,
      dispatch.encodedByDialect.Holds json delivery.event
  | .fetched _ _ event | .addressed _ _ event _ =>
      dispatch.encodedByDialect.Holds json event ∧
        dispatch.deliveries.head?.map (·.event) = some event
  | .closing .. => True

theorem Coherent.start (json : SerdeJson) (effects : Effects) : (start effects).Coherent json :=
  fun _ _ => Memo.Coherent.empty

variable {json : SerdeJson} {serverName : String} {network : NetworkState}
  {runtime runtime' : Runtime} {dispatch next : Dispatch}

/-- Every section keeps the cache coherent. -/
theorem Coherent.dispatched {rest : Option Dispatch} (coherent : dispatch.Coherent json)
    (served : Dispatched json serverName network runtime dispatch runtime' rest)
    (more : rest = some next) : next.Coherent json := by
  obtain ⟨deliveries, cache, close, cursor⟩ := dispatch
  cases served with
  | turned =>
      cases more
      subst_vars
      exact fun _ _ => Memo.Coherent.empty
  | skipped between left absent =>
      cases more
      subst between left
      have holds := coherent _ (Option.mem_some_self _)
      intro delivery first
      obtain rfl := Option.some.inj first
      exact holds
  | fetched between left found =>
      cases more
      subst between left
      have holds := coherent _ (Option.mem_some_self _)
      exact ⟨holds, rfl⟩
  | addressed holds =>
      cases more
      subst holds
      exact coherent
  | @offered id handle event context frames encodedByDialect holds encoded =>
      cases more
      subst holds
      intro delivery first
      have same := coherent.2
      rw [first] at same
      obtain rfl := Option.some.inj same
      have kept := coherent.1.encodeCached_snd handle.backend context
      rw [encoded] at kept
      exact kept
  | closes between left asked found =>
      cases more
      trivial
  | ended => cases more
  | closed => cases more

theorem Coherent.step (coherent : dispatch.Coherent json)
    (stepped : dispatch.step json serverName network runtime = (runtime', some next)) :
    next.Coherent json := coherent.dispatched (step_dispatched stepped) rfl

/-- What the plain loop makes of the rest of a dispatch. -/
def plainly (json : SerdeJson) (serverName : String) (network : NetworkState) (runtime : Runtime)
    (dispatch : Dispatch) : Runtime :=
  let rest (runtime : Runtime) : Runtime :=
    (runtime.serveAll json serverName network dispatch.deliveries).closeTarget dispatch.close
  match dispatch.cursor with
  | .next => rest runtime
  | .fetched id handle event =>
      rest (runtime.offer id (Runtime.encodeFor json serverName network id handle event))
  | .addressed id handle event context =>
      rest (runtime.offer id (handle.backend.encode json context event))
  | .closing id _ => runtime.trySend id .close

theorem Coherent.plainly (coherent : dispatch.Coherent json) :
    (∀ runtime' next, dispatch.step json serverName network runtime = (runtime', some next) →
      dispatch.plainly json serverName network runtime =
        next.plainly json serverName network runtime') ∧
    ∀ runtime', dispatch.step json serverName network runtime = (runtime', none) →
      dispatch.plainly json serverName network runtime = runtime' := by
  obtain ⟨deliveries, cache, close, cursor⟩ := dispatch
  cases cursor with
  | next =>
      cases deliveries with
      | nil =>
          cases close with
          | none =>
              refine ⟨fun _ _ stepped => ?_, fun _ stepped => ?_⟩
              · exact absurd (Prod.mk.inj stepped).2.symm (Option.some_ne_none _)
              · exact (Prod.mk.inj stepped).1
          | some close =>
              simp only [Dispatch.step, Dispatch.plainly, Runtime.serveAll, List.foldl_nil,
                Runtime.closeTarget]
              cases runtime.connections.lookup close.connectionId with
              | none => simp
              | some handle =>
                  refine ⟨?_, fun _ stepped => absurd (Prod.mk.inj stepped).2 (Option.some_ne_none _)⟩
                  intro _ _ stepped
                  obtain ⟨rfl, rfl⟩ := stepped
                  rfl
      | cons delivery rest =>
          obtain ⟨recipients, event⟩ := delivery
          cases recipients with
          | nil =>
              refine ⟨?_, fun _ stepped => absurd (Prod.mk.inj stepped).2 (Option.some_ne_none _)⟩
              intro _ _ stepped
              obtain ⟨rfl, rfl⟩ := stepped
              rfl
          | cons id recipients =>
              simp only [Dispatch.step, Dispatch.plainly, Runtime.serveAll, List.foldl_cons,
                Runtime.serve]
              cases runtime.connections.lookup id with
              | none =>
                  refine ⟨?_, fun _ stepped => absurd (Prod.mk.inj stepped).2 (Option.some_ne_none _)⟩
                  intro _ _ stepped
                  obtain ⟨rfl, rfl⟩ := stepped
                  rfl
              | some handle =>
                  refine ⟨?_, fun _ stepped => absurd (Prod.mk.inj stepped).2 (Option.some_ne_none _)⟩
                  intro _ _ stepped
                  obtain ⟨rfl, rfl⟩ := stepped
                  rfl
  | fetched id handle event =>
      refine ⟨?_, fun _ stepped => absurd (Prod.mk.inj stepped).2 (Option.some_ne_none _)⟩
      intro _ _ stepped
      obtain ⟨rfl, rfl⟩ := stepped
      rfl
  | addressed id handle event context =>
      refine ⟨?_, fun _ stepped => absurd (Prod.mk.inj stepped).2 (Option.some_ne_none _)⟩
      intro _ _ stepped
      simp only [Dispatch.step, Prod.mk.injEq, Option.some.injEq] at stepped
      obtain ⟨rfl, rfl⟩ := stepped
      simp only [Dispatch.plainly, coherent.1.encodeCached_fst]
  | closing id handle =>
      refine ⟨fun _ _ stepped => ?_, fun _ stepped => ?_⟩
      · exact absurd (Prod.mk.inj stepped).2.symm (Option.some_ne_none _)
      · exact (Prod.mk.inj stepped).1

theorem run_plainly (runtime : Runtime) (dispatch : Dispatch) (coherent : dispatch.Coherent json) :
    dispatch.run json serverName network runtime =
      dispatch.plainly json serverName network runtime := by
  rw [run]
  split
  · rename_i runtime' stepped
    exact (coherent.plainly.2 runtime' stepped).symm
  · rename_i runtime' next stepped
    have shorter := step_work stepped
    rw [coherent.plainly.1 runtime' next stepped]
    exact run_plainly runtime' next (coherent.step stepped)
termination_by dispatch.work

end Dispatch

/-! ## One recipient -/

/-- What a dispatch can change for one connection: its mailbox, and whether its token is cancelled. -/
structure Inbox where
  mailbox : Option (Channel Outbound)
  cancelled : Bool

namespace Inbox

/-- A message comes in, or an event that did not encode. -/
def receive (inbox : Inbox) (message : Except ProtocolError Outbound) : Inbox :=
  match message, inbox.mailbox with
  | .ok message, some mailbox =>
      match mailbox.trySend message with
      | .ok mailbox => { inbox with mailbox := some mailbox }
      | .error _ => { inbox with cancelled := true }
  | _, _ => { inbox with cancelled := true }

def receiveAll (inbox : Inbox) (messages : List (Except ProtocolError Outbound)) : Inbox :=
  messages.foldl receive inbox

theorem receiveAll_append (inbox : Inbox) (first second : List (Except ProtocolError Outbound)) :
    inbox.receiveAll (first ++ second) = (inbox.receiveAll first).receiveAll second :=
  List.foldl_append

variable {inbox : Inbox} {mailbox : Channel Outbound}

/-- With slots for all of them, the messages are queued in order. -/
theorem receiveAll_room (messages : List Outbound) (found : inbox.mailbox = some mailbox)
    (open_ : mailbox.closed = false)
    (room : mailbox.queue.length + messages.length ≤ mailbox.capacity) :
    inbox.receiveAll (messages.map .ok) =
      { inbox with mailbox := some { mailbox with queue := mailbox.queue ++ messages } } := by
  induction messages generalizing inbox mailbox with
  | nil =>
      rw [List.append_nil, ← found]
      rfl
  | cons message messages ih =>
      rw [List.length_cons] at room
      have accepted := Channel.trySend_ok.mpr
        ⟨⟨open_, by omega⟩, (rfl : { mailbox with queue := mailbox.queue ++ [message] } = _)⟩
      have received : inbox.receive (.ok message) =
          { inbox with mailbox := some { mailbox with queue := mailbox.queue ++ [message] } } := by
        simp only [receive, found, accepted]
      rw [List.map_cons, receiveAll, List.foldl_cons, received]
      have slots : (mailbox.queue ++ [message]).length + messages.length ≤ mailbox.capacity := by
        rw [List.length_append, List.length_singleton]
        omega
      have rest := @ih { inbox with mailbox := some { mailbox with queue := mailbox.queue ++ [message] } }
        { mailbox with queue := mailbox.queue ++ [message] } rfl open_ slots
      rw [List.append_assoc, List.singleton_append] at rest
      exact rest

/-- Without a free slot nothing is queued, and the first message cancels. -/
theorem receiveAll_full {messages : List (Except ProtocolError Outbound)} (some_ : messages ≠ [])
    (full : ∀ mailbox, inbox.mailbox = some mailbox → ¬ mailbox.HasRoom) :
    inbox.receiveAll messages = { inbox with cancelled := true } := by
  have one : ∀ inbox : Inbox, (∀ mailbox, inbox.mailbox = some mailbox → ¬ mailbox.HasRoom) →
      ∀ message, inbox.receive message = { inbox with cancelled := true } := by
    intro inbox full message
    cases message with
    | error => rfl
    | ok message =>
        cases found : inbox.mailbox with
        | none => simp only [receive, found]
        | some mailbox =>
            have fails : ∃ error, mailbox.trySend message = .error error :=
              Channel.trySend_error.mpr (full mailbox found)
            obtain ⟨error, refused⟩ := fails
            simp only [receive, found, refused]
  have rest : ∀ messages, { inbox with cancelled := true }.receiveAll messages =
      { inbox with cancelled := true } := by
    intro messages
    induction messages with
    | nil => rfl
    | cons message messages ih =>
        rw [receiveAll, List.foldl_cons, one { inbox with cancelled := true } full]
        exact ih
  cases messages with
  | nil => exact absurd rfl some_
  | cons message messages =>
      rw [receiveAll, List.foldl_cons, one inbox full]
      exact rest messages

end Inbox

namespace Runtime

/-- What the connection has in its mailbox, and whether it is cancelled. -/
def inbox (runtime : Runtime) (id : ConnectionId) : Inbox where
  mailbox := runtime.mailboxes.lookup id
  cancelled := decide (id ∈ runtime.cancelled)

variable {json : SerdeJson} {serverName : String} {network : NetworkState} {runtime : Runtime}
  {id j : ConnectionId}

theorem inbox_cancel : (runtime.cancel id).inbox id = { runtime.inbox id with cancelled := true } := by
  simp [inbox, cancel]

theorem inbox_cancel_ne (other : j ≠ id) : (runtime.cancel id).inbox j = runtime.inbox j := by
  simp [inbox, cancel, other]

theorem inbox_trySend (message : Outbound) :
    (runtime.trySend id message).inbox id = (runtime.inbox id).receive (.ok message) := by
  unfold trySend
  cases found : runtime.mailboxes.lookup id with
  | none => simp [Inbox.receive, inbox, cancel, found]
  | some mailbox =>
      cases sent : mailbox.trySend message with
      | ok next => simp [Inbox.receive, inbox, found, sent]
      | error error => simp [Inbox.receive, inbox, cancel, found, sent]

theorem inbox_trySend_ne (other : j ≠ id) (message : Outbound) :
    (runtime.trySend id message).inbox j = runtime.inbox j := by
  unfold trySend
  cases found : runtime.mailboxes.lookup id with
  | none => exact inbox_cancel_ne other
  | some mailbox =>
      cases sent : mailbox.trySend message with
      | ok next => simp [inbox, sent, AList.lookup_insert_ne other]
      | error error => simpa [sent] using inbox_cancel_ne other

theorem inbox_offer (frames : Except ProtocolError (List WireFrame)) :
    (runtime.offer id frames).inbox id = (runtime.inbox id).receive (frames.map .frames) := by
  cases frames with
  | ok frames => exact inbox_trySend _
  | error error => exact inbox_cancel

theorem inbox_offer_ne (other : j ≠ id) (frames : Except ProtocolError (List WireFrame)) :
    (runtime.offer id frames).inbox j = runtime.inbox j := by
  cases frames with
  | ok frames => exact inbox_trySend_ne other _
  | error error => exact inbox_cancel_ne other

theorem serve_connections (event : Event) :
    (runtime.serve json serverName network event id).connections = runtime.connections := by
  unfold serve
  split
  · rfl
  · exact offer_connections ..

/-- What one recipient gets of an event, once for each time it is named. -/
theorem inbox_recipients {handle : ConnectionHandle} (event : Event)
    (connected : runtime.connections.lookup j = some handle) (recipients : List ConnectionId) :
    (recipients.foldl (serve json serverName network event) runtime).inbox j =
        (runtime.inbox j).receiveAll ((recipients.filter (· = j)).map fun _ =>
          (encodeFor json serverName network j handle event).map .frames) ∧
      (recipients.foldl (serve json serverName network event) runtime).connections =
        runtime.connections := by
  induction recipients generalizing runtime with
  | nil => exact ⟨rfl, rfl⟩
  | cons id recipients ih =>
      have kept := @serve_connections json serverName network runtime id event
      rw [List.foldl_cons]
      obtain ⟨received, connections⟩ := ih (by rw [kept]; exact connected)
      refine ⟨received.trans ?_, connections.trans kept⟩
      by_cases here : id = j
      · subst here
        have served : runtime.serve json serverName network event id =
            runtime.offer id (encodeFor json serverName network id handle event) := by
          simp only [serve, connected]
        rw [served, inbox_offer, List.filter_cons_of_pos (by simp)]
        rfl
      · have elsewhere : (runtime.serve json serverName network event id).inbox j =
            runtime.inbox j := by
          unfold serve
          split
          · rfl
          · exact inbox_offer_ne (Ne.symm here) _
        rw [elsewhere, List.filter_cons_of_neg (by simpa using here)]

theorem serveAll_connections (deliveries : List Delivery) :
    (runtime.serveAll json serverName network deliveries).connections = runtime.connections := by
  induction deliveries generalizing runtime with
  | nil => rfl
  | cons delivery deliveries ih =>
      have kept : ∀ (recipients : List ConnectionId) (runtime : Runtime),
          (recipients.foldl (serve json serverName network delivery.event) runtime).connections =
            runtime.connections := by
        intro recipients
        induction recipients with
        | nil => exact fun _ => rfl
        | cons id recipients ih => exact fun _ => (ih _).trans (serve_connections _)
      exact ih.trans (kept delivery.recipients runtime)

end Runtime

/-- The messages a dispatch has for a connection, an event that does not encode in its place. -/
def Effects.addressedTo (json : SerdeJson) (serverName : String) (network : NetworkState)
    (id : ConnectionId) (handle : ConnectionHandle) (effects : Effects) :
    List (Except ProtocolError Outbound) :=
  (effects.deliveries.flatMap fun delivery =>
    (delivery.recipients.filter (· = id)).map fun _ =>
      (Runtime.encodeFor json serverName network id handle delivery.event).map .frames) ++
  (effects.close.toList.filter (·.connectionId = id)).map fun _ => .ok .close

namespace Runtime

variable {json : SerdeJson} {serverName : String} {network : NetworkState} {runtime : Runtime}
  {j : ConnectionId}

theorem inbox_serveAll {handle : ConnectionHandle}
    (connected : runtime.connections.lookup j = some handle) (deliveries : List Delivery) :
    (runtime.serveAll json serverName network deliveries).inbox j =
      (runtime.inbox j).receiveAll (deliveries.flatMap fun delivery =>
        (delivery.recipients.filter (· = j)).map fun _ =>
          (encodeFor json serverName network j handle delivery.event).map .frames) := by
  induction deliveries generalizing runtime with
  | nil => rfl
  | cons delivery deliveries ih =>
      have ⟨received, kept⟩ :=
        @inbox_recipients json serverName network runtime j handle delivery.event connected
          delivery.recipients
      rw [List.flatMap_cons, Inbox.receiveAll_append, ← received]
      exact ih (by rw [kept]; exact connected)

/-- A connection without a handle is skipped by every dispatch. -/
theorem inbox_serveAll_none (absent : runtime.connections.lookup j = none)
    (deliveries : List Delivery) :
    (runtime.serveAll json serverName network deliveries).inbox j = runtime.inbox j := by
  induction deliveries generalizing runtime with
  | nil => rfl
  | cons delivery deliveries ih =>
      have skipped : ∀ (recipients : List ConnectionId) (runtime : Runtime),
          runtime.connections.lookup j = none →
          (recipients.foldl (serve json serverName network delivery.event) runtime).inbox j =
              runtime.inbox j ∧
            (recipients.foldl (serve json serverName network delivery.event)
              runtime).connections.lookup j = none := by
        intro recipients
        induction recipients with
        | nil => exact fun _ absent => ⟨rfl, absent⟩
        | cons id recipients ih =>
            intro runtime absent
            have kept := @serve_connections json serverName network runtime id delivery.event
            obtain ⟨same, still⟩ := ih _ (by rw [kept]; exact absent)
            refine ⟨same.trans ?_, still⟩
            unfold serve
            split
            · rfl
            · rename_i handle found
              have other : j ≠ id := by
                intro here
                rw [here, found] at absent
                cases absent
              exact inbox_offer_ne other _
      obtain ⟨same, still⟩ := skipped delivery.recipients runtime absent
      exact (ih still).trans same

theorem inbox_closeTarget {handle : ConnectionHandle}
    (connected : runtime.connections.lookup j = some handle) (close : Option CloseConnection) :
    (runtime.closeTarget close).inbox j = (runtime.inbox j).receiveAll
      ((close.toList.filter (·.connectionId = j)).map fun _ => .ok .close) := by
  cases close with
  | none => rfl
  | some close =>
      by_cases here : close.connectionId = j
      · subst here
        simp only [closeTarget, connected, Option.toList_some]
        rw [List.filter_cons_of_pos (by simp), inbox_trySend]
        rfl
      · rw [Option.toList_some, List.filter_cons_of_neg (by simpa using here)]
        simp only [closeTarget]
        cases runtime.connections.lookup close.connectionId with
        | none => rfl
        | some _ => exact inbox_trySend_ne (Ne.symm here) .close

theorem inbox_closeTarget_none (absent : runtime.connections.lookup j = none)
    (close : Option CloseConnection) :
    (runtime.closeTarget close).inbox j = runtime.inbox j := by
  cases close with
  | none => rfl
  | some close =>
      simp only [closeTarget]
      cases found : runtime.connections.lookup close.connectionId with
      | none => rfl
      | some _ =>
          have other : j ≠ close.connectionId := by
            intro here
            rw [here, found] at absent
            cases absent
          exact inbox_trySend_ne other .close

/-- The plain loop acts on each mailbox separately. -/
theorem inbox_plainDispatch {handle : ConnectionHandle}
    (connected : runtime.connections.lookup j = some handle) (effects : Effects) :
    (runtime.plainDispatch json serverName network effects).inbox j =
      (runtime.inbox j).receiveAll (effects.addressedTo json serverName network j handle) := by
  unfold plainDispatch Effects.addressedTo
  rw [Inbox.receiveAll_append, ← inbox_serveAll connected]
  exact inbox_closeTarget (by rw [serveAll_connections]; exact connected) effects.close

theorem inbox_plainDispatch_none (absent : runtime.connections.lookup j = none)
    (effects : Effects) :
    (runtime.plainDispatch json serverName network effects).inbox j = runtime.inbox j := by
  unfold plainDispatch
  rw [inbox_closeTarget_none (by rw [serveAll_connections]; exact absent)]
  exact inbox_serveAll_none absent effects.deliveries

/-- The frame cache does not show: a dispatch leaves what the plain loop leaves. A connected client
    receives what is addressed to it, in order; with slots for all of it and every event encoded, it is
    queued as it is, and without a free slot nothing is queued and the connection is cancelled. -/
theorem dispatch_plain (json : SerdeJson) (serverName : String) (network : NetworkState)
    (runtime : Runtime) (effects : Effects) :
    runtime.dispatch json serverName network effects =
        runtime.plainDispatch json serverName network effects ∧
      (∀ j, runtime.connections.lookup j = none →
        (runtime.dispatch json serverName network effects).inbox j = runtime.inbox j) ∧
      ∀ j handle, runtime.connections.lookup j = some handle →
        (runtime.dispatch json serverName network effects).inbox j =
            (runtime.inbox j).receiveAll (effects.addressedTo json serverName network j handle) ∧
        (∀ mailbox messages, runtime.mailboxes.lookup j = some mailbox →
          effects.addressedTo json serverName network j handle = messages.map .ok →
          mailbox.closed = false → mailbox.queue.length + messages.length ≤ mailbox.capacity →
          (runtime.dispatch json serverName network effects).inbox j =
            { runtime.inbox j with
              mailbox := some { mailbox with queue := mailbox.queue ++ messages } }) ∧
        (¬ runtime.HasRoom j → effects.addressedTo json serverName network j handle ≠ [] →
          (runtime.dispatch json serverName network effects).inbox j =
            { runtime.inbox j with cancelled := true }) := by
  have plain : runtime.dispatch json serverName network effects =
      runtime.plainDispatch json serverName network effects :=
    Dispatch.run_plainly runtime (.start effects) (Dispatch.Coherent.start json effects)
  rw [plain]
  refine ⟨rfl, fun j absent => inbox_plainDispatch_none absent effects, ?_⟩
  intro j handle connected
  have received := @inbox_plainDispatch json serverName network runtime j handle connected effects
  refine ⟨received, ?_, ?_⟩
  · intro mailbox messages found encoded open_ room
    rw [received, encoded]
    exact Inbox.receiveAll_room messages found open_ room
  · intro full addressed
    rw [received]
    exact Inbox.receiveAll_full addressed fun mailbox found room => full ⟨mailbox, found, room⟩

end Runtime

end AsterFsd
