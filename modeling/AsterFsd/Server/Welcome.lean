import AsterFsd.Protocol.Codec
import AsterFsd.Protocol.Compact
import AsterFsd.Server.Config
import AsterFsd.Server.Isolation
import AsterFsd.Server.Lodging

/-! # Welcoming clients

What the network tells a client that logs in is dispatched by the task of the client and written by its
writer. Whether one of the two cancels the client instead depends on the lines that its listener carries
and on the room in its mailbox.
-/

namespace AsterFsd

/-! ## What a listener carries -/

namespace ClassicProtocol

/-- A frame of a two-letter command is within the limits exactly when its tokens are. -/
theorem commandFrame_fits {kind : RawPacketKind} {command source destination : String}
    {fields : List String} (family : kind = .request ∨ kind = .client) (straight : command ≠ "DI")
    (letters : command.utf8ByteSize = 2) (plain : Text.Unbroken command) (limit : Nat) :
    (∃ frames, (commandFrame kind command source destination fields).map ([·]) = .ok frames ∧
      ∀ frame ∈ frames, FsdFrameCodec.Fits limit frame.bytes) ↔
      Carries (min CLASSIC_MAX_FRAME_BYTES limit) (source :: destination :: fields) := by
  let packet : RawPacket := ⟨kind, command, source, destination, fields⟩
  have length : packet.output.length = command.utf8ByteSize +
      RawPacket.lineSize (source :: destination :: fields) :=
    RawPacket.length_output family straight
  rw [letters] at length
  constructor
  · rintro ⟨frames, framed, fits⟩
    cases encoded : commandFrame kind command source destination fields with
    | error error => rw [encoded] at framed; cases framed
    | ok out =>
        obtain ⟨-, unbroken⟩ := (commandFrame_isOk family straight letters plain).mp ⟨out, encoded⟩
        obtain ⟨short, -, bytes⟩ := frame_ok.mp encoded
        rw [encoded] at framed
        cases framed
        have within := (fits out (List.mem_singleton_self _)).1
        rw [bytes] at within
        exact ⟨length ▸ le_min short within, unbroken⟩
  · intro carries
    obtain ⟨short, within⟩ := le_min_iff.mp carries.fits
    obtain ⟨out, encoded⟩ :=
      (commandFrame_isOk family straight letters plain).mpr ⟨short, carries.unbroken⟩
    obtain ⟨-, clean, bytes⟩ := frame_ok.mp encoded
    refine ⟨[out], by rw [encoded]; rfl, List.forall_mem_singleton.mpr ⟨?_, out.undelimited⟩⟩
    rw [bytes, length]
    exact within

end ClassicProtocol

namespace ListenerConfig

/-- The event is encoded in the dialect of the listener, within its frame limit. -/
def Carries (listener : ListenerConfig) (json : SerdeJson) (event : Event) : Prop :=
  ∀ context, ∃ frames, (BackendRegistry.get listener.protocol).encode json context event = .ok frames ∧
    ∀ frame ∈ frames, FsdFrameCodec.Fits listener.maxFrameBytes frame.bytes

/-- The tokens are those of a line that a listener of lines carries. -/
def CarriesLine (listener : ListenerConfig) (tokens : List String) : Prop :=
  ClassicProtocol.Carries (min CLASSIC_MAX_FRAME_BYTES listener.maxFrameBytes) tokens

instance (listener : ListenerConfig) (tokens : List String) : Decidable (listener.CarriesLine tokens) :=
  inferInstanceAs (Decidable (ClassicProtocol.Carries _ tokens))

/-- The line with which a client of the listener is welcomed is one line within the limits. -/
def Welcomes (listener : ListenerConfig) (callsign : Callsign) (message : String) : Prop :=
  match listener.protocol with
  | .classic | .vatsim => listener.CarriesLine ["server", toString callsign, message]
  | .asterV1 => AsterProtocolV1.welcomeSize callsign message ≤ listener.maxFrameBytes

instance (listener : ListenerConfig) (callsign : Callsign) (message : String) :
    Decidable (listener.Welcomes callsign message) :=
  match listener with
  | ⟨.classic, limit⟩ =>
      inferInstanceAs (Decidable (CarriesLine ⟨.classic, limit⟩ ["server", toString callsign, message]))
  | ⟨.vatsim, limit⟩ =>
      inferInstanceAs (Decidable (CarriesLine ⟨.vatsim, limit⟩ ["server", toString callsign, message]))
  | ⟨.asterV1, limit⟩ =>
      inferInstanceAs (Decidable (AsterProtocolV1.welcomeSize callsign message ≤ limit))

/-- The lines of the login profile of a VATSIM client. -/
def profileLines (peer : SocketAddr) (presence : ClientPresence) : List (List String) :=
  let callsign := toString presence.callsign
  [["SERVER", callsign, "CAPS"]] ++
    (if presence.clientType = .atc then
      [["SERVER", callsign, "ATC", "N", callsign],
        ["SERVER", callsign, "CAPS", "ATCINFO=1", "SECPOS=1"]]
    else []) ++
    [["SERVER", callsign, "IP", peer.ip.toString]] ++
    (if presence.clientType = .pilot ∨ presence.clientType = .observer then
      [["server", callsign, "008", callsign, ErrorCode.noFlightPlan.description]]
    else [])

/-- The listener carries what the network tells a client that logs in. -/
structure Greets (listener : ListenerConfig) (core : CoreConfig) (peer : SocketAddr)
    (presence : ClientPresence) : Prop where
  messages : ∀ message ∈ core.productMessage :: core.motd, listener.Welcomes presence.callsign message
  profile : listener.protocol = .vatsim →
    ∀ tokens ∈ profileLines peer presence, listener.CarriesLine tokens

variable {listener : ListenerConfig} {json : SerdeJson}

/-- An event that is told in one line. -/
theorem carries_line {event : Event} {source destination : String} {fields : List String}
    (kind : RawPacketKind) (command : String) (family : kind = .request ∨ kind = .client)
    (straight : command ≠ "DI") (letters : command.utf8ByteSize = 2) (plain : Text.Unbroken command)
    (told : ∀ context, (BackendRegistry.get listener.protocol).encode json context event =
      (ClassicProtocol.commandFrame kind command source destination fields).map ([·])) :
    listener.Carries json event ↔ listener.CarriesLine (source :: destination :: fields) := by
  unfold Carries
  simp only [told]
  rw [ClassicProtocol.commandFrame_fits family straight letters plain]
  exact ⟨fun carries => carries ⟨⟨0⟩, none, ""⟩, fun carries _ => carries⟩

theorem carries_welcome (documented : json.Documented) (compact : json.Compact) (callsign : Callsign)
    (message : String) :
    listener.Carries json (.welcome callsign message) ↔ listener.Welcomes callsign message := by
  unfold Welcomes
  cases protocol : listener.protocol with
  | classic | vatsim =>
      have told : ∀ context, (BackendRegistry.get listener.protocol).encode json context
          (.welcome callsign message) = (ClassicProtocol.commandFrame .client "TM" "server"
            (toString callsign) [message]).map ([·]) := fun _ => by rw [protocol]; rfl
      exact carries_line .client "TM" (.inr rfl) (by decide) (by decide) (by decide) told
  | asterV1 =>
      unfold Carries
      rw [protocol]
      constructor
      · intro carries
        obtain ⟨frames, told, fits⟩ := carries ⟨⟨0⟩, none, ""⟩
        obtain ⟨frame, encoded, size⟩ :=
          AsterProtocolV1.encode_welcome documented compact ⟨⟨0⟩, none, ""⟩ callsign message
        obtain rfl : [frame] = frames := Except.ok.inj (encoded.symm.trans told)
        rw [← size]
        exact (fits frame (List.mem_singleton_self _)).1
      · intro short context
        obtain ⟨frame, encoded, size⟩ :=
          AsterProtocolV1.encode_welcome documented compact context callsign message
        refine ⟨[frame], encoded, List.forall_mem_singleton.mpr ⟨?_, frame.undelimited⟩⟩
        rw [size]
        exact short

/-- The events of the login profile are told in its lines. -/
theorem carries_profile (json : SerdeJson) (lines : listener.protocol = .vatsim) (id : ConnectionId)
    (peer : SocketAddr) (presence : ClientPresence) :
    (∀ delivery ∈ Network.vatsimLoginProfile id peer presence, listener.Carries json delivery.event) ↔
      ∀ tokens ∈ profileLines peer presence, listener.CarriesLine tokens := by
  have told : ∀ event context, (BackendRegistry.get listener.protocol).encode json context event =
      VatsimProtocol.encode context event := fun _ _ => by rw [lines]; rfl
  have query : ∀ destination kind arguments,
      listener.Carries json (.query "SERVER" destination kind arguments) ↔
        listener.CarriesLine ("SERVER" :: ClassicProtocol.destinationText destination ::
          ClassicProtocol.queryKindText kind :: arguments) := fun _ _ _ =>
    carries_line .request "CQ" (.inl rfl) (by decide) (by decide) (by decide) (told _)
  have response : ∀ destination kind arguments,
      listener.Carries json (.response "SERVER" destination kind arguments) ↔
        listener.CarriesLine ("SERVER" :: ClassicProtocol.destinationText destination ::
          ClassicProtocol.queryKindText kind :: arguments) := fun _ _ _ =>
    carries_line .request "CR" (.inl rfl) (by decide) (by decide) (by decide) (told _)
  have error : ∀ callsign : Callsign, ∀ environment description,
      listener.Carries json (.error (some callsign) .noFlightPlan environment description) ↔
        listener.CarriesLine ["server", toString callsign, "008", environment, description] :=
    fun _ _ _ => carries_line .request "ER" (.inl rfl) (by decide) (by decide) (by decide) (told _)
  cases kind : presence.clientType <;>
    simp [Network.vatsimLoginProfile, profileLines, kind, query, response, error,
      ClassicProtocol.destinationText, ClassicProtocol.queryKindText]

end ListenerConfig

/-! ## What a login tells its client -/

/-- The effects tell `r` the event. -/
def Effects.Tells (effects : Effects) (r : ConnectionId) (event : Event) : Prop :=
  ∃ delivery ∈ effects.deliveries, r ∈ delivery.recipients ∧ delivery.event = event

section Login

open Network

variable {config : CoreConfig} {state : NetworkState} {c : ConnectionId} {session : Session}
  {presence : ClientPresence}

theorem vatsimLoginProfile_recipients {peer : SocketAddr} {delivery : Delivery}
    (member : delivery ∈ vatsimLoginProfile c peer presence) : delivery.recipients = [c] := by
  unfold vatsimLoginProfile at member
  split at member <;> split at member <;> simp at member <;> grind

/-- What a login delivers: the news to the others, the messages of the day and, to a VATSIM client, its
    profile. -/
theorem loginEffects_deliveries (found : state.sessions.lookup c = some session) :
    (loginEffects config state c presence).deliveries =
      (if (activeIds state (some c)).isEmpty then []
        else [⟨activeIds state (some c), .clientAdded presence⟩]) ++
      (config.productMessage :: config.motd).map (fun line =>
        (⟨[c], .welcome presence.callsign line⟩ : Delivery)) ++
      if session.dialect = .vatsim then vatsimLoginProfile c session.peer presence else [] := by
  unfold loginEffects
  by_cases vatsim : session.dialect = .vatsim
  · simp only [found, Option.filter_some, vatsim, decide_true, if_true]
    rfl
  · simp only [found, Option.filter_some, vatsim, decide_false, Bool.false_eq_true, if_false,
      List.append_nil]

/-- A client that logs in is told the messages of the day and, a VATSIM client, its profile. -/
theorem tells_loginEffects (found : state.sessions.lookup c = some session) {event : Event} :
    (loginEffects config state c presence).Tells c event ↔
      (∃ message ∈ config.productMessage :: config.motd, .welcome presence.callsign message = event) ∨
        session.dialect = .vatsim ∧
          ∃ delivery ∈ vatsimLoginProfile c session.peer presence, delivery.event = event := by
  unfold Effects.Tells
  rw [loginEffects_deliveries found]
  constructor
  · rintro ⟨delivery, member, named, rfl⟩
    rw [List.mem_append, List.mem_append] at member
    obtain (member | member) | member := member
    · -- the others are told of the client, not the client
      split at member
      · cases member
      · obtain rfl := List.mem_singleton.mp member
        have others : c ∉ activeIds state (some c) := by simp [activeIds]
        exact absurd named others
    · obtain ⟨line, listed, rfl⟩ := List.mem_map.mp member
      exact .inl ⟨line, listed, rfl⟩
    · split at member
      · rename_i vatsim
        exact .inr ⟨vatsim, delivery, member, rfl⟩
      · cases member
  · rintro (⟨message, listed, rfl⟩ | ⟨vatsim, delivery, member, rfl⟩)
    · refine ⟨⟨[c], .welcome presence.callsign message⟩, ?_, List.mem_singleton_self _, rfl⟩
      exact List.mem_append_left _ (List.mem_append_right _ (List.mem_map.mpr ⟨message, listed, rfl⟩))
    · refine ⟨delivery, List.mem_append_right _ (by rwa [if_pos vatsim]), ?_, rfl⟩
      rw [vatsimLoginProfile_recipients member]
      exact List.mem_singleton_self _

/-- What a listener has to carry for a login over it. -/
theorem ListenerConfig.carries_login {listener : ListenerConfig} {json : SerdeJson}
    (documented : json.Documented) (compact : json.Compact)
    (found : state.sessions.lookup c = some session) (dialect : session.dialect = listener.protocol) :
    (∀ event, (loginEffects config state c presence).Tells c event → listener.Carries json event) ↔
      listener.Greets config session.peer presence := by
  constructor
  · intro carries
    constructor
    · intro message listed
      exact (carries_welcome documented compact _ message).mp
        (carries _ ((tells_loginEffects found).mpr (.inl ⟨message, listed, rfl⟩)))
    · intro vatsim
      refine (carries_profile json vatsim c session.peer presence).mp fun delivery member => ?_
      exact carries _
        ((tells_loginEffects found).mpr (.inr ⟨dialect.trans vatsim, delivery, member, rfl⟩))
  · intro greets event told
    obtain ⟨message, listed, rfl⟩ | ⟨vatsim, delivery, member, rfl⟩ := (tells_loginEffects found).mp told
    · exact (carries_welcome documented compact _ message).mpr (greets.messages message listed)
    · have vatsim := dialect.symm.trans vatsim
      exact (carries_profile json vatsim c session.peer presence).mpr (greets.profile vatsim) delivery
        member

/-- The lock of a call under which a connection becomes active leaves the call with the effects of a
    login. -/
theorem World.step_activates {w w' : World} {id : CallId} (step : w.step config (.lock id) = some w')
    (inactive : ∀ session presence, ¬ w.state.ActiveAs c session presence)
    (active : w'.state.ActiveAs c session presence) {record : Call}
    (found : w'.calls.lookup id = some record) :
    record.stage = .returning (loginEffects config w'.state c presence) := by
  obtain ⟨change, made, causes⟩ := World.step_makes step
  obtain ⟨stored, phase, present⟩ := active
  have applied := stored
  rw [made.apply_eq] at applied
  -- Only an activation makes a connection active.
  obtain rfl : change = .activate c presence := by
    obtain ⟨before, kept, rfl | ⟨own, rfl⟩⟩ | ⟨-, peer, dialect, rfl⟩ := Change.lookup_apply applied
    · exact absurd ⟨kept, phase, present⟩ (inactive _ _)
    · cases change with
      | activate c' presence' =>
          obtain rfl := Option.some.inj own
          obtain rfl := Option.some.inj present
          rfl
      | identify => cases phase
      | keep | connect | move | file | remove => exact absurd ⟨kept, phase, present⟩ (inactive _ _)
    · cases phase
  obtain ⟨id', call, command, authenticated, generation, -, same, asked, rfl, stage, rfl, -⟩ := causes
  obtain rfl := Action.lock.inj same
  obtain ⟨call', state', stage', asked', performed, rfl⟩ := World.step_lock.mp step
  obtain rfl := Option.some.inj (asked.symm.trans asked')
  obtain rfl := Option.some.inj ((AList.lookup_insert _).symm.trans found)
  obtain ⟨caller, request, callStage⟩ := call
  obtain rfl : callStage = .activating command authenticated generation := stage
  cases lockSection_sectioned performed with
  | refused => exact absurd ⟨stored, phase, present⟩ (inactive _ _)
  | activated => rfl

end Login

/-! ## The reply to a login -/

/-- The dispatch closes nobody. -/
def Dispatch.Keeps (dispatch : Dispatch) : Prop :=
  dispatch.close = none ∧ ∀ id handle, dispatch.cursor ≠ .closing id handle

theorem Dispatch.Keeps.dispatched {json : SerdeJson} {serverName : String} {network : NetworkState}
    {runtime runtime' : Runtime} {dispatch next : Dispatch} (keeps : dispatch.Keeps)
    (served : Dispatched json serverName network runtime dispatch runtime' (some next)) : next.Keeps := by
  obtain ⟨none_, open_⟩ := keeps
  cases served with
  | turned | skipped => exact ⟨none_, open_⟩
  | fetched | addressed | offered => exact ⟨none_, fun _ _ closing => by cases closing⟩
  | closes _ _ asked => cases none_.symm.trans asked

/-- A batch that is offered cancels the connection unless it encodes and finds room. -/
theorem Runtime.offer_cancelled {runtime : Runtime} {id : ConnectionId}
    {batch : Except ProtocolError (List WireFrame)} :
    (runtime.offer id batch).cancelled = id :: runtime.cancelled ↔
      ¬ ((∃ frames, batch = .ok frames) ∧ runtime.HasRoom id) := by
  cases batch with
  | error error => simp [offer, cancel]
  | ok frames =>
      have encodes : ∃ frames', (.ok frames : Except ProtocolError _) = .ok frames' := ⟨frames, rfl⟩
      rw [and_iff_right encodes]
      by_cases room : runtime.HasRoom id
      · obtain ⟨mailbox, found, free⟩ := room
        obtain ⟨next, accepted⟩ := Channel.trySend_isOk.mpr free
        rw [offer, trySend_room found accepted]
        exact iff_of_false (fun same => List.cons_ne_self _ _ same.symm)
          (not_not_intro ⟨mailbox, found, free⟩)
      · rw [offer, trySend_full room]
        exact iff_of_true rfl room

theorem Runtime.offer_cancelled_ne {runtime : Runtime} {id j : ConnectionId} (other : id ≠ j)
    (batch : Except ProtocolError (List WireFrame)) :
    (runtime.offer id batch).cancelled ≠ j :: runtime.cancelled := by
  by_cases taken : (∃ frames, batch = .ok frames) ∧ runtime.HasRoom id
  · obtain ⟨⟨frames, rfl⟩, mailbox, found, free⟩ := taken
    obtain ⟨next, accepted⟩ := Channel.trySend_isOk.mpr free
    rw [offer, trySend_room found accepted]
    exact fun same => List.cons_ne_self _ _ same.symm
  · rw [offer_cancelled.mpr taken]
    exact fun same => other (List.cons.inj same).1

namespace Server

variable {setup : Setup} {s s' t t' : Server} {action : Server.Action} {actions : List Server.Action}
  {j : ConnectionId} {task : ConnectionTask} {session : Session} {presence : ClientPresence}
  {effects : Effects}

/-- Under the lock that the task of `j` takes, its client becomes active. -/
structure LogsIn (setup : Setup) (s : Server) (j : ConnectionId) (session : Session)
    (presence : ClientPresence) (s' : Server) : Prop where
  step : s.step setup (.lock j) = some s'
  before : ∀ session presence, ¬ s.world.state.ActiveAs j session presence
  after : s'.world.state.ActiveAs j session presence

/-- What the client of `j` sends next. -/
def Action.sentBy (j : ConnectionId) : Server.Action → Bool
  | .frame id _ => id = j
  | _ => false

/-- The actions until the task of `j` reads another frame. -/
def untilFrame (j : ConnectionId) (actions : List Server.Action) : List Server.Action :=
  actions.takeWhile (!·.sentBy j)

/-- The dispatch that the task of `j` has in progress for a frame. -/
def replying (s : Server) (j : ConnectionId) : Option Dispatch :=
  (s.tasks.lookup j).bind fun task =>
    match task.stage with
    | .dispatching _ _ dispatch _ => some dispatch
    | _ => none

/-- In the step, the reply to the last frame of `j` has an event for `j` itself. -/
def repliesTo (j : ConnectionId) (s : Server) : Server.Action → Bool
  | .dispatch (.connection id) =>
      id = j && (s.replying j).any fun dispatch =>
        match dispatch.cursor with
        | .addressed recipient _ _ _ => recipient = j
        | _ => false
  | _ => false

/-- The step does not trigger the token of `j` by a section of the reply to the last frame of `j`. -/
def SparesInReply (setup : Setup) (j : ConnectionId) (s : Server) (action : Server.Action) : Prop :=
  action = .dispatch (.connection j) → (s.replying j).isSome = true →
    ∀ s', s.step setup action = some s' → s'.runtime.cancelled ≠ j :: s.runtime.cancelled

/-- The step does not trigger the token of `j` by writing a frame of an event that the effects tell `j`,
    when the socket takes the frame. -/
def SparesInWrite (setup : Setup) (listener : ListenerConfig) (effects : Effects) (j : ConnectionId)
    (s : Server) (action : Server.Action) : Prop :=
  action = .send j true → ∀ writer frame frames event, s.writers.lookup j = some writer →
    writer.stage = .sending (frame :: frames) → effects.Tells j event →
      (∃ context batch, (BackendRegistry.get listener.protocol).encode setup.json context event =
        .ok batch ∧ frame ∈ batch) →
        ∀ s', s.step setup action = some s' → s'.runtime.cancelled ≠ j :: s.runtime.cancelled

/-- The client of `j` is told what the network tells it of its login: every event is encoded in the
    dialect of the listener within its frame limit, and in the rest of the run neither the dispatch of
    the login nor the writer cancels the connection over it. -/
structure Greeted (setup : Setup) (listener : ListenerConfig) (effects : Effects) (j : ConnectionId)
    (s : Server) (rest : List Server.Action) : Prop where
  carried : ∀ event, effects.Tells j event → listener.Carries setup.json event
  dispatched : (server setup).Along (SparesInReply setup j) s (untilFrame j rest)
  written : (server setup).Along (SparesInWrite setup listener effects j) s rest

/-- When the reply to the last frame of `j` has an event for `j` itself, its mailbox has a free slot and a
    receiver. -/
def RoomForReply (j : ConnectionId) (s : Server) (action : Server.Action) : Prop :=
  s.repliesTo j action = true → s.runtime.HasRoom j

instance (j : ConnectionId) (s : Server) (action : Server.Action) : Decidable (RoomForReply j s action) :=
  inferInstanceAs (Decidable (_ → _))

/-! ## What the task dispatches -/

/-- What the task executes returns the effects, and what it dispatches for a frame tells no more. -/
def RepliesWith (effects : Effects) (world : World) (task : ConnectionTask) : Prop :=
  match task.stage with
  | .executing _ _ call => call < world.nextCall ∧
      ∀ record, world.calls.lookup call = some record → record.stage = .returning effects
  | .dispatching _ _ dispatch _ => dispatch.Within effects.Tells ∧ dispatch.Keeps
  | _ => True

/-- A call that is about to return the effects goes on to do so. -/
theorem RepliesWith.moved {world world' : World} {moved : AsterFsd.Action}
    (replies : RepliesWith effects world task) (step : world.step setup.core moved = some world') :
    RepliesWith effects world' task := by
  obtain ⟨listener, peer, challenge, stage⟩ := task
  cases stage with
  | executing frame context call =>
      obtain ⟨drawn, returns⟩ := replies
      refine ⟨Nat.lt_of_lt_of_le drawn (World.step_nextCall_le step), fun record found => ?_⟩
      obtain old | ⟨_, _, -, fresh, -⟩ | ⟨before, stage, -, stored, -, performed⟩ |
        ⟨before, answer, stage, -, stored, -, received⟩ := World.step_calls step found
      · exact returns record old
      · exact absurd fresh (Nat.ne_of_lt drawn)
      · rw [returns before stored] at performed
        cases performed
      · rw [returns before stored] at received
        cases received
  | dispatching => exact replies
  | _ => trivial

private theorem RepliesWith.section {serverName : String} {network : NetworkState}
    {runtime runtime' : Runtime} {world : World} {task' : ConnectionTask} {dispatch : Dispatch}
    {rest : Option Dispatch} (replies : RepliesWith effects world task)
    (holds : task.dispatch? = some dispatch)
    (served : Dispatched setup.json serverName network runtime dispatch runtime' rest)
    (kept : ((afterDispatch j runtime' task.stage rest).2.map fun stage => { task with stage }) =
      some task') : RepliesWith effects world task' := by
  obtain ⟨listener, peer, challenge, stage⟩ := task
  cases stage with
  | dispatching frame context started proceeds =>
      obtain rfl := Option.some.inj holds
      cases rest with
      | none =>
          cases proceeds with
          | true => cases kept; trivial
          | false => cases kept; trivial
      | some next =>
          cases kept
          exact ⟨replies.1.dispatched served rfl, replies.2.dispatched served⟩
  | leaving started installed =>
      cases rest with
      | none =>
          cases installed with
          | true => cases kept; trivial
          | false => cases kept
      | some next => cases kept; trivial
  | _ => cases holds

/-- Until the client sends another frame, its task replies with the same effects. -/
theorem Stepped.repliesWith (stepped : Stepped setup s action s') (silent : action.sentBy j = false)
    (closes : effects.close = none)
    (replies : ∀ task, s.tasks.lookup j = some task → RepliesWith effects s.world task) :
    ∀ task, s'.tasks.lookup j = some task → RepliesWith effects s'.world task := by
  have others : ∀ i task, s.tasks.lookup i = some task → i = j → RepliesWith effects s'.world task := by
    rintro i task found rfl
    obtain same | ⟨moved, step⟩ := stepped.world
    · exact same ▸ replies task found
    · exact (replies task found).moved step
  have own : ∀ i task, s'.tasks.lookup i = some task → i = j → RepliesWith effects s'.world task := by
    cases stepped with
    | @accepted peer listener challenge fresh unregistered =>
        intro i task found here
        by_cases new : i = ⟨s.nextConnectionId⟩
        · subst new
          obtain rfl := Option.some.inj ((AList.lookup_insert _).symm.trans found)
          trivial
        · exact others i task ((AList.lookup_insert_ne new).symm.trans found) here
    | decoded found | undecoded found =>
        refine advance_tasks others fun here => ?_
        subst here
        simp [Action.sentBy] at silent
    | @executed id task frame context call world caller command returned found stage returns moved =>
        refine advance_tasks others fun here => ?_
        subst here
        have replied := replies task found
        simp only [RepliesWith, stage] at replied
        obtain rfl := Stage.returning.inj (replied.2 _ returns)
        exact ⟨.start fun delivery member r named => ⟨delivery, member, named, rfl⟩,
          closes, fun _ _ closing => by cases closing⟩
    | handshake =>
        refine advance_tasks others fun _ => ?_
        unfold afterHandshake
        split
        · trivial
        · split <;> trivial
    | registered | refused | installed | left | removed | disconnected =>
        exact advance_tasks others fun _ => trivial
    | turnedAway | joined => exact finish_tasks others
    | @dispatched id task dispatch runtime rest found holds served =>
        intro i task' kept here
        rw [lookup_afterSection] at kept
        split at kept
        · rename_i same
          subst same
          exact (others i task found here).section holds served kept
        · exact others i task' kept here
    | _ => exact others
  exact fun task found => own j task found rfl

theorem run_repliesWith (closes : effects.close = none) (ran : (server setup).run s actions = some s')
    (silent : ∀ action ∈ actions, action.sentBy j = false)
    (replies : ∀ task, s.tasks.lookup j = some task → RepliesWith effects s.world task) :
    ∀ task, s'.tasks.lookup j = some task → RepliesWith effects s'.world task := by
  induction actions generalizing s with
  | nil =>
      obtain rfl : s = s' := Option.some.inj ran
      exact replies
  | cons action actions ih =>
      obtain ⟨mid, step, rest⟩ := Machine.run_cons.mp ran
      obtain ⟨first, later⟩ := List.forall_mem_cons.mp silent
      exact ih rest later ((step_stepped step).repliesWith first closes replies)

theorem LogsIn.repliesWith (reach : (server setup).Reachable s)
    (logs : LogsIn setup s j session presence s') :
    ∀ task, s'.tasks.lookup j = some task →
      RepliesWith (Network.loginEffects setup.core s'.world.state j presence) s'.world task := by
  have step : (server setup).step s (.lock j) = some s' := logs.step
  have owned := reachable_owned (reach.step step)
  have after := logs.after
  cases step_stepped logs.step with
  | @locked _ executing frame context call world found stage moved =>
      intro task same
      obtain rfl := Option.some.inj (same.symm.trans found)
      obtain ⟨drawn, -⟩ := owned j _ same frame context call stage
      simp only [RepliesWith, stage]
      exact ⟨drawn, fun record kept => World.step_activates moved logs.before after kept⟩

theorem replying_eq_some {dispatch : Dispatch} : s.replying j = some dispatch ↔
    ∃ task frame context proceeds, s.tasks.lookup j = some task ∧
      task.stage = .dispatching frame context dispatch proceeds := by
  unfold replying
  rw [Option.bind_eq_some_iff]
  constructor
  · rintro ⟨⟨listener, peer, challenge, stage⟩, found, replies⟩
    cases stage with
    | dispatching frame context started proceeds =>
        obtain rfl := Option.some.inj replies
        exact ⟨_, frame, context, proceeds, found, rfl⟩
    | _ => cases replies
  · rintro ⟨task, frame, context, proceeds, found, stage⟩
    exact ⟨task, found, by rw [stage]⟩

theorem dispatchOf_replying {dispatch : Dispatch} (replies : s.replying j = some dispatch) :
    s.dispatchOf (.connection j) = some dispatch := by
  obtain ⟨task, frame, context, proceeds, found, stage⟩ := replying_eq_some.mp replies
  simp [dispatchOf, found, ConnectionTask.dispatch?, stage]

/-- A section of a reply that closes nobody cancels the connection of the client exactly when it has an
    event for the client that does not encode or finds no room. -/
theorem reply_cancels {dispatch : Dispatch} (replies : s.replying j = some dispatch)
    (coherent : dispatch.Coherent setup.json) (keeps : dispatch.Keeps)
    (step : s.step setup (.dispatch (.connection j)) = some s') :
    s'.runtime.cancelled = j :: s.runtime.cancelled ↔
      ∃ handle event context, dispatch.cursor = .addressed j handle event context ∧
        ¬ ((∃ frames, handle.backend.encode setup.json context event = .ok frames) ∧
          s.runtime.HasRoom j) := by
  obtain ⟨task, frame, context, proceeds, found, stage⟩ := replying_eq_some.mp replies
  cases step_stepped step with
  | @dispatched _ other started runtime rest found' holds served =>
      obtain rfl := Option.some.inj (found.symm.trans found')
      have same : dispatch = started := by
        simpa only [ConnectionTask.dispatch?, stage, Option.some.injEq] using holds
      subst same
      have runtimes : (s.afterSection j task runtime rest).runtime = runtime := by
        simp only [afterSection, stage]
        cases rest <;> rfl
      rw [runtimes]
      -- Only a section that offers a batch can trigger a token, and it triggers that of the recipient.
      have idle : (∀ handle event context, dispatch.cursor ≠ .addressed j handle event context) →
          (s.runtime.cancelled = j :: s.runtime.cancelled ↔
            ∃ handle event context, dispatch.cursor = .addressed j handle event context ∧
              ¬ ((∃ frames, handle.backend.encode setup.json context event = .ok frames) ∧
                s.runtime.HasRoom j)) := by
        intro none_
        refine iff_of_false (fun cancelled => List.cons_ne_self _ _ cancelled.symm) ?_
        rintro ⟨handle, event, context, cursor, -⟩
        exact none_ handle event context cursor
      cases served with
      | @offered id handle event encodeContext frames cache cursor encoded =>
          simp only [Dispatch.Coherent, cursor] at coherent
          have plain := coherent.1.encodeCached_fst handle.backend encodeContext
          rw [encoded] at plain
          obtain rfl : frames = _ := plain
          by_cases here : id = j
          · subst here
            rw [Runtime.offer_cancelled]
            constructor
            · exact fun fails => ⟨handle, event, encodeContext, cursor, fails⟩
            · rintro ⟨handle', event', context', cursor', fails⟩
              obtain ⟨-, rfl, rfl, rfl⟩ := Cursor.addressed.inj (cursor.symm.trans cursor')
              exact fails
          · refine iff_of_false (Runtime.offer_cancelled_ne here _) ?_
            rintro ⟨handle', event', context', cursor', -⟩
            exact here (Cursor.addressed.inj (cursor.symm.trans cursor')).1
      | closed cursor => exact absurd cursor (keeps.2 _ _)
      | turned between | skipped between | fetched between | ended between | closes between =>
          exact idle fun _ _ _ cursor => by cases between.symm.trans cursor
      | addressed holds' =>
          exact idle fun _ _ _ cursor => by cases holds'.symm.trans cursor

/-! ## The reply to a login, over runs -/

section Replying

variable {rest : List Server.Action}

/-- A reply to the login, at any point of the rest of the run. -/
structure RepliesToLogin (setup : Setup) (listener : ListenerConfig) (effects : Effects)
    (j : ConnectionId) (dispatch : Dispatch) : Prop where
  coherent : dispatch.Coherent setup.json
  keeps : dispatch.Keeps
  tells : ∀ handle event context, dispatch.cursor = .addressed j handle event context →
    effects.Tells j event ∧ ∃ context', handle.backend.encode setup.json context event =
      (BackendRegistry.get listener.protocol).encode setup.json context' event

/-- Until the client sends another frame, its task dispatches what the network does about the login. -/
theorem LogsIn.replying (trace : (server setup).Trace actions s)
    (found : s.tasks.lookup j = some task) (logs : LogsIn setup s j session presence s')
    {before after : List Server.Action} {mid : Server}
    (split : untilFrame j rest = before ++ action :: after) (ran : (server setup).run s' before = some mid)
    {dispatch : Dispatch} (replies : mid.replying j = some dispatch) :
    RepliesToLogin setup task.listener (Network.loginEffects setup.core s'.world.state j presence) j
      dispatch := by
  have step : (server setup).step s (.lock j) = some s' := logs.step
  have later : (server setup).Trace (actions ++ .lock j :: before) mid :=
    trace.append (Machine.run_cons.mpr ⟨s', step, ran⟩)
  have silent : ∀ action ∈ before, action.sentBy j = false := by
    intro action member
    have kept : action ∈ untilFrame j rest := split ▸ List.mem_append_left _ member
    simpa using List.mem_takeWhile_imp kept
  obtain ⟨coherent, cursor⟩ := ((trace_suits (j := j) later).of (dispatchOf_replying replies))
  obtain ⟨task', frame, context, proceeds, found', stage⟩ := replying_eq_some.mp replies
  have replied := run_repliesWith (Network.loginEffects_close ..) ran silent
    (logs.repliesWith trace.reachable) task' found'
  simp only [RepliesWith, stage] at replied
  obtain ⟨within, keeps⟩ := replied
  refine ⟨coherent, keeps, fun handle event context addressed => ⟨?_, ?_⟩⟩
  · have told := within.cursor
    simpa only [addressed] using told
  · simp only [addressed] at cursor
    obtain ⟨listener, listed, recipient, encodes⟩ := cursor trivial
    obtain rfl := admissions_task trace found later listed
    exact ⟨_, encodes.symm⟩

theorem repliesTo_dispatch {action : Server.Action} (replies : s.repliesTo j action = true) :
    action = .dispatch (.connection j) ∧ ∃ dispatch handle event context,
      s.replying j = some dispatch ∧ dispatch.cursor = .addressed j handle event context := by
  cases action with
  | dispatch task =>
      cases task with
      | maintenance => cases replies
      | connection id =>
          simp only [repliesTo, Bool.and_eq_true, decide_eq_true_eq, Option.any_eq_true] at replies
          obtain ⟨rfl, dispatch, replying, cursor⟩ := replies
          cases addressed : dispatch.cursor with
          | addressed recipient handle event context =>
              simp only [addressed, decide_eq_true_eq] at cursor
              subst cursor
              exact ⟨rfl, dispatch, handle, event, context, replying, addressed⟩
          | next | fetched | closing => simp [addressed] at cursor
  | _ => cases replies

/-- Where the reply does not cancel its client, its mailbox has room whenever the reply turns to it. -/
theorem LogsIn.room (trace : (server setup).Trace actions s) (found : s.tasks.lookup j = some task)
    (logs : LogsIn setup s j session presence s')
    (spared : (server setup).Along (SparesInReply setup j) s' (untilFrame j rest)) :
    (server setup).Along (RoomForReply j) s' (untilFrame j rest) := by
  refine Machine.along_iff.mpr fun before action after mid split ran replies => ?_
  obtain ⟨rfl, dispatch, handle, event, context, replying, addressed⟩ := repliesTo_dispatch replies
  have reply := logs.replying trace found split ran replying
  obtain ⟨next, moved⟩ : ∃ next, mid.step setup (.dispatch (.connection j)) = some next := by
    obtain ⟨task', frame, context, proceeds, found', stage⟩ := replying_eq_some.mp replying
    simp [Server.step, dispatchStep, found', ConnectionTask.dispatch?, stage]
  by_contra full
  refine Machine.along_iff.mp spared before _ after mid split ran rfl
    (by rw [replying]; rfl) next moved ((reply_cancels replying reply.coherent reply.keeps moved).mpr ?_)
  exact ⟨handle, event, context, addressed, fun taken => full taken.2⟩

/-- A reply that the listener carries does not cancel its client while there is room for it. -/
theorem LogsIn.spared (trace : (server setup).Trace actions s) (found : s.tasks.lookup j = some task)
    (logs : LogsIn setup s j session presence s')
    (carried : ∀ event, (Network.loginEffects setup.core s'.world.state j presence).Tells j event →
      task.listener.Carries setup.json event)
    (room : (server setup).Along (RoomForReply j) s' (untilFrame j rest)) :
    (server setup).Along (SparesInReply setup j) s' (untilFrame j rest) := by
  refine Machine.along_iff.mpr ?_
  rintro before action after mid split ran rfl some_ next moved cancelled
  obtain ⟨dispatch, replying⟩ := Option.isSome_iff_exists.mp some_
  have reply := logs.replying trace found split ran replying
  obtain ⟨handle, event, context, addressed, fails⟩ :=
    (reply_cancels replying reply.coherent reply.keeps moved).mp cancelled
  obtain ⟨told, context', encodes⟩ := reply.tells handle event context addressed
  obtain ⟨frames, encoded, -⟩ := carried event told context'
  refine fails ⟨⟨frames, encodes.trans encoded⟩, Machine.along_iff.mp room before _ after mid split ran ?_⟩
  simp [repliesTo, replying, addressed]

/-- The writer of a client sends what its listener carries. -/
theorem carried_written (trace : (server setup).Trace actions s) (found : s.tasks.lookup j = some task)
    (step : (server setup).step s action = some s')
    (carried : ∀ event, effects.Tells j event → task.listener.Carries setup.json event) :
    (server setup).Along (SparesInWrite setup task.listener effects j) s' rest := by
  refine Machine.along_iff.mpr ?_
  rintro before _ after mid rfl ran rfl writer frame frames event stored sending told
    ⟨context, batch, encoded, member⟩ next moved cancelled
  have later : (server setup).Trace (actions ++ action :: before) mid :=
    trace.append (Machine.run_cons.mpr ⟨s', step, ran⟩)
  obtain ⟨listener, listed, limit⟩ := trace_limit later stored
  obtain rfl := admissions_task trace found later listed
  obtain ⟨batch', encoded', fits⟩ := carried event told context
  obtain rfl := Except.ok.inj (encoded.symm.trans encoded')
  obtain ⟨short, -⟩ := fits frame member
  cases step_stepped moved with
  | sent => exact List.cons_ne_self _ _ cancelled.symm
  | failed stored' sending' refused =>
      obtain rfl := Option.some.inj (stored.symm.trans stored')
      obtain ⟨rfl, rfl⟩ := List.cons.inj (WriterStage.sending.inj (sending.symm.trans sending'))
      simp [FsdFrameCodec.encodes, limit, short, frame.undelimited] at refused

/-- A login is answered without cancelling its client exactly when the listener carries the answer and the
    mailbox has room whenever the answer turns to the client. -/
theorem greeted_iff (documented : setup.json.Documented) (compact : setup.json.Compact)
    (trace : (server setup).Trace actions s) (found : s.tasks.lookup j = some task)
    (logs : LogsIn setup s j session presence s') (rest : List Server.Action) :
    Greeted setup task.listener (Network.loginEffects setup.core s'.world.state j presence) j s' rest ↔
      task.listener.Greets setup.core session.peer presence ∧
        (server setup).Along (RoomForReply j) s' (untilFrame j rest) := by
  have step : (server setup).step s (.lock j) = some s' := logs.step
  have dialect : session.dialect = task.listener.protocol := by
    have next : (server setup).Trace (actions ++ [.lock j]) s' :=
      trace.append (Machine.run_cons.mpr ⟨s', step, rfl⟩)
    obtain ⟨listener, listed, same⟩ := trace_dialect next logs.after.1
    rw [same, admissions_task trace found next listed]
  rw [← ListenerConfig.carries_login documented compact logs.after.1 dialect]
  constructor
  · exact fun greeted => ⟨greeted.carried, logs.room trace found greeted.dispatched⟩
  · exact fun ⟨carried, room⟩ =>
      ⟨carried, logs.spared trace found carried room, carried_written trace found step carried⟩

end Replying

end Server

namespace Service

/-- A validated configuration builds a server and a codec for each of its listeners. In every run of the
    server, a client that logs in over a listener is greeted exactly when the listener carries what the
    network tells the client, and its mailbox has room for it. -/
theorem validated_welcomes_iff (json : SerdeJson) (documented : json.Documented)
    (compact : json.Compact) (config : Config) (valid : config.validate = .ok ()) :
    ∃ unbound, UnboundServer.new config.runtimeServerConfig config.runtimeCoreConfig = .ok unbound ∧
      ∀ listener ∈ unbound.config.listeners,
        FsdFrameCodec.new listener.maxFrameBytes = .ok listener.maxFrameBytes ∧
        ∀ (actions rest : List Server.Action) (s s' : Server) (j : ConnectionId) (task : ConnectionTask)
          (session : Session) (presence : ClientPresence),
          (server (unbound.setup json)).Trace actions s → s.tasks.lookup j = some task →
          task.listener = listener.listener →
          Server.LogsIn (unbound.setup json) s j session presence s' →
            (Server.Greeted (unbound.setup json) listener.listener
              (Network.loginEffects config.runtimeCoreConfig s'.world.state j presence) j s' rest ↔
              listener.listener.Greets config.runtimeCoreConfig session.peer presence ∧
                (server (unbound.setup json)).Along (Server.RoomForReply j) s'
                  (Server.untilFrame j rest)) := by
  have checked := Config.validate_ok valid
  refine ⟨_, Config.new_runtime checked, fun listener member => ⟨?_, ?_⟩⟩
  · obtain ⟨source, found, rfl⟩ := List.mem_map.mp member
    exact if_neg (checked.limits source found).1
  · intro actions rest s s' j task session presence trace found same logs
    rw [← same]
    exact Server.greeted_iff documented compact trace found logs rest

end Service

/-! ## A pilot logs in -/

namespace Sample

/-- A server with these lines of the day. -/
def greetingSetup (motd : List String) : Setup := (greetingServer motd).setup compactJson

/-- A pilot is about to be logged in. -/
def arriving : List Server.Action := connecting ⟨1⟩ ++ (loggingIn ⟨1⟩ "AFR12").take 3

/-- The task of the pilot dispatches the answer, and the writer writes two frames. -/
def greets : List Server.Action :=
  .executed ⟨1⟩ :: sections 9 (.connection ⟨1⟩) ++ writing ⟨1⟩ ++ writing ⟨1⟩

/-- The next lock logs the pilot in over the classic listener, and the condition holds of the rest. -/
def arrives (setup : Setup) (room : Bool) (s : Server) : Bool :=
  (s.tasks.lookup ⟨1⟩).any (fun task => decide (task.listener = classicListener.listener)) &&
    !s.world.state.isActive ⟨1⟩ &&
    (s.step setup (.lock ⟨1⟩)).any fun s' =>
      (s'.world.state.sessions.lookup ⟨1⟩).any (named callsign) &&
        (!room || decide ((AsterFsd.server setup).Along (Server.RoomForReply ⟨1⟩) s'
          (Server.untilFrame ⟨1⟩ greets)))

theorem logsIn_of_arrives {setup : Setup} {room : Bool}
    (checked : ((AsterFsd.server setup).run {} arriving).any (arrives setup room) = true) :
    ∃ s s' task session presence, (AsterFsd.server setup).Trace arriving s ∧
      s.tasks.lookup ⟨1⟩ = some task ∧ task.listener = classicListener.listener ∧
      Server.LogsIn setup s ⟨1⟩ session presence s' ∧ presence.callsign = callsign ∧
      (room = true → (AsterFsd.server setup).Along (Server.RoomForReply ⟨1⟩) s'
        (Server.untilFrame ⟨1⟩ greets)) := by
  obtain ⟨s, trace, checked⟩ := (Option.any_eq_true _ _).mp checked
  simp only [arrives, Bool.and_eq_true, Bool.not_eq_true'] at checked
  obtain ⟨⟨same, inactive⟩, locked⟩ := checked
  obtain ⟨task, found, same⟩ := (Option.any_eq_true _ _).mp same
  obtain ⟨s', step, locked⟩ := (Option.any_eq_true _ _).mp locked
  obtain ⟨active, along⟩ := Bool.and_eq_true_iff.mp locked
  obtain ⟨session, presence, active, named⟩ := activeAs_of_named active
  refine ⟨s, s', task, session, presence, trace, found, of_decide_eq_true same,
    ⟨step, fun session presence before => ?_, active⟩, named, fun roomy => ?_⟩
  · simp [before.isActive] at inactive
  · simpa [roomy] using along

set_option maxRecDepth 8000 in
private theorem arrives_welcome :
    ((AsterFsd.server (greetingSetup ["Welcome aboard."])).run {} arriving).any
    (arrives (greetingSetup ["Welcome aboard."]) true) = true := by
  decide +kernel

set_option maxRecDepth 8000 in
private theorem arrives_broken :
    ((AsterFsd.server (greetingSetup ["Fly safe.\nHave fun!"])).run {} arriving).any
    (arrives (greetingSetup ["Fly safe.\nHave fun!"]) false) = true := by
  decide +kernel

end Sample

namespace Service

/-- With a line of the day the pilot is welcomed twice. -/
theorem validated_welcomes_iff_pilot :
    ∃ s s' session presence, Server.LogsIn (Sample.greetingSetup ["Welcome aboard."]) s ⟨1⟩ session presence
        s' ∧ presence.callsign = Sample.callsign ∧
      Server.Greeted (Sample.greetingSetup ["Welcome aboard."]) Sample.classicListener.listener
        (Network.loginEffects (Sample.greeting ["Welcome aboard."]).runtimeCoreConfig s'.world.state ⟨1⟩
          presence) ⟨1⟩ s' Sample.greets := by
  obtain ⟨unbound, built, listeners⟩ :=
    validated_welcomes_iff Sample.compactJson Sample.compactJson_documented Sample.compactJson_compact
      (Sample.greeting ["Welcome aboard."]) (Sample.greeting_valid _)
  obtain rfl : unbound = Sample.greetingServer ["Welcome aboard."] := (Except.ok.inj built).symm
  obtain ⟨-, welcomes⟩ := listeners Sample.classicListener (List.mem_singleton_self _)
  obtain ⟨s, s', task, session, presence, trace, found, same, logs, named, room⟩ :=
    Sample.logsIn_of_arrives Sample.arrives_welcome
  have messages : ∀ message ∈ (Sample.greeting ["Welcome aboard."]).runtimeCoreConfig.productMessage ::
      (Sample.greeting ["Welcome aboard."]).runtimeCoreConfig.motd,
      Sample.classicListener.listener.Welcomes Sample.callsign message := by decide
  refine ⟨s, s', session, presence, logs, named, ?_⟩
  refine (welcomes _ _ _ _ _ _ _ _ trace found same logs).mpr ⟨⟨?_, ?_⟩, room rfl⟩
  · rw [named]
    exact messages
  · intro vatsim
    cases vatsim

set_option maxRecDepth 8000 in
/-- With a line break in a line of the day, the answer to a login cancels the client. -/
theorem brokenMotd_unwelcomed :
    ((server (Sample.greetingSetup ["Fly safe.\nHave fun!"])).run {}
      (Sample.arriving ++ .lock ⟨1⟩ :: Sample.greets.take 9)).map (·.runtime.cancelled) = some [⟨1⟩] ∧
    ¬ ∀ (json : SerdeJson) (config : Config), json.Documented → json.Compact →
      config.validate = .ok () →
      ∃ unbound, UnboundServer.new config.runtimeServerConfig config.runtimeCoreConfig = .ok unbound ∧
        ∀ listener ∈ unbound.config.listeners,
          (∃ codec, FsdFrameCodec.new listener.maxFrameBytes = .ok codec) ∧
          ∀ (actions : List Server.Action) (s s' : Server) (j : ConnectionId)
            (task : ConnectionTask) (session : Session) (presence : ClientPresence),
            (server (unbound.setup json)).Trace actions s → s.tasks.lookup j = some task →
            task.listener = listener.listener →
            Server.LogsIn (unbound.setup json) s j session presence s' →
              ∀ callsign message,
                (Network.loginEffects config.runtimeCoreConfig s'.world.state j presence).Tells j
                  (.welcome callsign message) →
                listener.listener.Carries json (.welcome callsign message) := by
  refine ⟨by decide +kernel, fun all => ?_⟩
  obtain ⟨unbound, built, listeners⟩ := all Sample.compactJson (Sample.greeting ["Fly safe.\nHave fun!"])
    Sample.compactJson_documented Sample.compactJson_compact (Sample.greeting_valid _)
  obtain rfl : unbound = Sample.greetingServer ["Fly safe.\nHave fun!"] := (Except.ok.inj built).symm
  obtain ⟨-, welcomes⟩ := listeners Sample.classicListener (List.mem_singleton_self _)
  obtain ⟨s, s', task, session, presence, trace, found, same, logs, named, -⟩ :=
    Sample.logsIn_of_arrives Sample.arrives_broken
  have carried := welcomes Sample.arriving s s' ⟨1⟩ task session presence trace found same logs
    presence.callsign "Fly safe.\nHave fun!" ((tells_loginEffects logs.after.1).mpr (.inl ⟨_,
      List.mem_cons_of_mem _ (List.mem_singleton_self _), rfl⟩))
  have welcomed := (ListenerConfig.carries_welcome Sample.compactJson_documented
    Sample.compactJson_compact _ _).mp carried
  rw [named] at welcomed
  exact absurd welcomed (by decide)

end Service

end AsterFsd
