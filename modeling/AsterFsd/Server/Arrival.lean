import AsterFsd.Core.Listeners
import AsterFsd.Protocol.Relay
import AsterFsd.Server.Accounting

/-! # From frame to frame

A frame that one client sends and that is meant for another is a frame that the other is sent. What a task
executes is what its frame decodes to, the core delivers it to those who hear the command, what is
delivered is owed and then enqueued, and at rest what was enqueued is written.
-/

namespace AsterFsd

/-! ## Commands that are read -/

theorem RawPacket.Reads.relays {packet : RawPacket} {command : Command} (reads : packet.Reads command) :
    ∃ event, command.Relays event := by
  cases reads with
  | flightPlan => exact ⟨_, .flightPlan⟩
  | query => exact ⟨_, .query⟩
  | ping => exact ⟨_, .ping⟩
  | text | response | pong | handoff | clientData => exact ⟨_, .routed rfl⟩

/-- A command of a relayed family leaves the network as it is. -/
theorem RawPacket.Reads.unchanged {packet : RawPacket} {command : Command} (reads : packet.Reads command)
    (canonical : ClassicProtocol.relayFamily packet.command = some packet.kind) (state : NetworkState)
    (c : ConnectionId) : (Network.executeActive state c command).1 = state := by
  have outcome := Network.executeActive_executed state c command
  generalize Network.executeActive state c command = result at outcome
  cases outcome with
  | kept => rfl
  | filed =>
      cases reads with
      | flightPlan word => simp [word, ClassicProtocol.relayFamily] at canonical
  | moved | left | killed => cases reads

namespace Server

variable {setup : Setup} {s s' : Server} {action : Server.Action} {actions : List Server.Action}
  {i r : ConnectionId}

/-! ## What a task executes -/

/-- A task starts to execute a call when a frame comes in, and otherwise executed it before. -/
theorem Stepped.executing (stepped : Stepped setup s action s') {task : ConnectionTask}
    (found : s'.tasks.lookup i = some task) {frame : List UInt8} {context : DecodeContext} {call : CallId}
    (stage : task.stage = .executing frame context call) :
    s.tasks.lookup i = some task ∨ ∃ command,
      task.backend.decode setup.json context frame = .ok command ∧
        s.world.step setup.core (.call call i command) = some s'.world := by
  have advanced : ∀ {t : Server} {id : ConnectionId} {before : ConnectionTask} {after : ConnectionStage},
      t.tasks = s.tasks → (∀ frame context call, after ≠ .executing frame context call) →
        (t.advance id before after).tasks.lookup i = some task → s.tasks.lookup i = some task := by
    intro t id before after same none_ found
    rw [lookup_advance] at found
    split at found
    · obtain rfl := Option.some.inj found
      exact absurd stage (none_ _ _ _)
    · exact same ▸ found
  have finished : ∀ {t : Server} {id : ConnectionId}, t.tasks = s.tasks →
      (t.finish id).tasks.lookup i = some task → s.tasks.lookup i = some task := by
    intro t id same found
    rw [lookup_finish] at found
    split at found
    · cases found
    · exact same ▸ found
  cases stepped with
  | accepted =>
      by_cases here : i = ⟨s.nextConnectionId⟩
      · subst here
        obtain rfl := Option.some.inj ((AList.lookup_insert _).symm.trans found)
        cases stage
      · exact .inl ((AList.lookup_insert_ne here).symm.trans found)
  | @decoded id bytes task' command world known reading decodes moved =>
      rw [lookup_advance] at found
      split at found
      · rename_i here
        obtain rfl := Option.some.inj found
        cases stage
        exact .inr ⟨command, decodes, here ▸ moved⟩
      · exact .inl found
  | handshake =>
      refine .inl (advanced rfl (fun frame context call same => ?_) found)
      unfold afterHandshake at same
      split at same
      · cases same
      · split at same <;> cases same
  | registered | refused | installed | undecoded | executed | left | removed | disconnected =>
      exact .inl (advanced rfl (fun _ _ _ same => by cases same) found)
  | turnedAway | joined => exact .inl (finished rfl found)
  | dispatched _ holds =>
      rw [lookup_afterSection] at found
      split at found
      · obtain ⟨after, left, rfl⟩ := Option.map_eq_some_iff.mp found
        obtain rfl : after = .executing frame context call := stage
        exact absurd left (afterDispatch_ne_executing holds)
      · exact .inl found
  | _ => exact .inl found

/-- The call that a task executes is for the command that its frame decodes to. -/
def Asked (setup : Setup) (s : Server) : Prop :=
  ∀ i task, s.tasks.lookup i = some task → ∀ frame context call,
    task.stage = .executing frame context call → ∃ command,
      task.backend.decode setup.json context frame = .ok command ∧
        ∀ record, s.world.calls.lookup call = some record → record.command = command

theorem Stepped.asked (stepped : Stepped setup s action s') (owned : s.CallsOwned)
    (asked : s.Asked setup) : s'.Asked setup := by
  intro i task found frame context call stage
  obtain before | ⟨command, decodes, moved⟩ := stepped.executing found stage
  · obtain ⟨command, decodes, own⟩ := asked i task before frame context call stage
    obtain ⟨drawn, -⟩ := owned i task before frame context call stage
    refine ⟨command, decodes, fun record stored => ?_⟩
    obtain same | ⟨moved, step⟩ := stepped.world
    · exact own record (same ▸ stored)
    · obtain old | ⟨_, _, -, fresh, -⟩ | ⟨earlier, _, -, known, rfl, -⟩ |
        ⟨earlier, _, _, -, known, rfl, -⟩ := World.step_calls step stored
      · exact own record old
      · exact absurd fresh (Nat.ne_of_lt drawn)
      · exact own earlier known
      · exact own earlier known
  · refine ⟨command, decodes, fun record stored => ?_⟩
    obtain ⟨rfl, after⟩ := World.step_call.mp moved
    rw [after] at stored
    obtain rfl := Option.some.inj ((AList.lookup_insert _).symm.trans stored)
    rfl

theorem reachable_asked (reach : (server setup).Reachable s) : s.Asked setup := by
  obtain ⟨actions, trace⟩ := reach
  refine trace.invariant (fun _ s => s.Asked setup) (fun _ _ found => nomatch found) ?_
  intro actions s action s' trace asked step
  exact (step_stepped step).asked (reachable_owned trace.reachable) asked

/-! ## What is delivered is written -/

/-- An event that was brought about for a connection, none of which was dropped, is written in the dialect
    of the connection when the server is at rest and the writer goes on. -/
theorem written_of_produced (trace : (server setup).Trace actions s) {task : TaskId} {event : Event}
    (made : event ∈ produced setup r actions task)
    (kept : ∀ entry ∈ handled setup r actions, entry.accepted = true) (rest : s.AtRest)
    {writer : Writer} (stored : s.writers.lookup r = some writer) (goes : writer.stage ≠ .finished) :
    ∃ batch, Encodes setup r (admissions setup r actions) event (.ok batch) ∧
      batch <:+: written setup r actions := by
  have served := trace_served trace r task
  rw [rest.owes, List.append_nil] at served
  rw [served] at made
  obtain ⟨⟨producer, value⟩, member, rfl⟩ := List.mem_map.mp made
  obtain ⟨entry, logged, same⟩ := List.mem_map.mp (List.mem_filter.mp member).1
  have taken : (producer, value) ∈ Attempt.taken (handled setup r actions) :=
    List.mem_map.mpr ⟨entry, List.mem_filter.mpr ⟨logged, kept entry logged⟩, same⟩
  have encoded := trace_encoded trace r
  obtain ⟨n, within, named⟩ := List.getElem_of_mem taken
  have posted : n < (Outbound.batches (posted setup r actions)).length := encoded.length_eq ▸ within
  have encodes := encoded.get within posted
  rw [List.get_eq_getElem, List.get_eq_getElem, named] at encodes
  refine ⟨_, encodes, ?_⟩
  obtain ended | ⟨waits, mailbox, found, empty⟩ := rest.writers r writer stored
  · exact absurd ended goes
  · have conveyed := trace_conveyed trace found stored goes
    simp only [waits, WriterStage.holds, empty, Outbound.batches_nil, List.flatten_nil,
      List.append_nil] at conveyed
    rw [conveyed]
    exact List.infix_of_mem_flatten (List.getElem_mem posted)

/-- What the core delivers under the lock of a task is brought about for its recipients. -/
theorem produced_of_locked {before after : List Server.Action} {mid : Server} {task : ConnectionTask}
    {frame : List UInt8} {context : DecodeContext} {call : CallId} {delivery : Delivery}
    (reached : (server setup).Trace before mid) (found : mid.tasks.lookup i = some task)
    (stage : task.stage = .executing frame context call)
    (sent : delivery ∈ (mid.world.committed setup.core (.lock call)).deliveries)
    (named : r ∈ delivery.recipients) :
    delivery.event ∈ produced setup r (before ++ .lock i :: after) (.connection i) := by
  have produces : mid.produces setup (.lock i) =
      some (.connection i, mid.world.committed setup.core (.lock call)) := by
    simp [Server.produces, found, stage]
  unfold produced
  rw [Machine.history_append reached]
  refine List.mem_append_right _ (List.mem_append_left _ ?_)
  simp only [produces, if_pos]
  refine List.mem_flatMap.mpr ⟨delivery, sent, List.mem_map.mpr ⟨r, ?_, rfl⟩⟩
  exact List.mem_filter.mpr ⟨named, decide_eq_true rfl⟩

/-! ## Frames -/

/-- A frame of a relayed family decodes alike in the dialects of classic frames. -/
theorem decode_classic {json : SerdeJson} {context : DecodeContext} {protocol : ProtocolDialect}
    {bytes : List UInt8} {packet : RawPacket} (classic : protocol ≠ .asterV1)
    (parsed : RawPacket.parse bytes = .ok packet)
    (canonical : ClassicProtocol.relayFamily packet.command = some packet.kind) :
    (BackendRegistry.get protocol).decode json context bytes = ClassicProtocol.decode bytes := by
  cases protocol with
  | classic => rfl
  | vatsim =>
      have other : packet.command ≠ "ID" := by
        intro same
        rw [same] at canonical
        exact absurd canonical (by simp [ClassicProtocol.relayFamily])
      simp only [BackendRegistry.get, ProtocolBackend.decode, VatsimProtocol.decode, parsed]
      rw [if_pos other]
  | asterV1 => exact absurd rfl classic

/-- What others are told of a command is encoded alike in the dialects of classic frames. -/
theorem encode_classic {json : SerdeJson} {context : EncodeContext} {protocol : ProtocolDialect}
    {command : Command} {event : Event} (classic : protocol ≠ .asterV1) (relays : command.Relays event) :
    (BackendRegistry.get protocol).encode json context event = ClassicProtocol.encode context event := by
  cases protocol with
  | classic => rfl
  | vatsim =>
      cases relays with
      | routed routes => cases command <;> cases routes <;> rfl
      | _ => rfl
  | asterV1 => exact absurd rfl classic

/-- The lock of a task that executes the command of its frame locks the call of that command. -/
theorem Stepped.lockOf {task : ConnectionTask} {bytes : List UInt8} {context : DecodeContext}
    {call : CallId} {command : Command} (reach : (server setup).Reachable s)
    (stepped : Stepped setup s (.lock i) s') (found : s.tasks.lookup i = some task)
    (stage : task.stage = .executing bytes context call)
    (decodes : task.backend.decode setup.json context bytes = .ok command) :
    s.world.step setup.core (.lock call) = some s'.world ∧
      s.world.operation (.lock call) = some (i, some command) := by
  obtain ⟨asked, decoded, own⟩ := reachable_asked reach i task found bytes context call stage
  obtain ⟨-, owner⟩ := reachable_owned reach i task found bytes context call stage
  obtain rfl : command = asked := Except.ok.inj (decodes.symm.trans decoded)
  cases stepped with
  | locked found' stage' moved =>
      obtain rfl := Option.some.inj (found.symm.trans found')
      rw [stage] at stage'
      cases stage'
      obtain ⟨record, _, _, flying, -, -⟩ := World.step_lock.mp moved
      refine ⟨moved, ?_⟩
      simp only [World.operation, flying, Option.map_some]
      rw [own record flying, owner record flying]

/-- A frame of an active client behind a classic listener, of a command that the core passes on, is written
    to every classic client that the command is meant for as it came, respelled, once the server is at rest,
    unless the writer of that client has ended or something was dropped for it. -/
theorem frames_arrive (setup : Setup) (before after : List Server.Action) (mid s : Server)
    (i r : ConnectionId) (task : ConnectionTask) (bytes : List UInt8) (context : DecodeContext)
    (call : CallId) (packet : RawPacket) (command : Command) (session : Session)
    (presence : ClientPresence) (writer : Writer) (reached : (server setup).Trace before mid)
    (trace : (server setup).Trace (before ++ .lock i :: after) s)
    (found : mid.tasks.lookup i = some task) (stage : task.stage = .executing bytes context call)
    (issues : task.listener.protocol ≠ .asterV1) (parsed : RawPacket.parse bytes = .ok packet)
    (canonical : ClassicProtocol.relayFamily packet.command = some packet.kind)
    (payload : packet.command = "PI" ∨ packet.command = "PO" → packet.fields ≠ [])
    (decoded : ClassicProtocol.decode bytes = .ok command)
    (issuer : mid.world.state.ActiveAs i session presence)
    (own : command.source = some presence.callsign) (hears : mid.world.state.Hears i command r)
    (reads : ∀ listener ∈ admissions setup r (before ++ .lock i :: after),
      listener.protocol ≠ .asterV1)
    (kept : ∀ entry ∈ handled setup r (before ++ .lock i :: after), entry.accepted = true)
    (rest : s.AtRest) (stored : s.writers.lookup r = some writer) (goes : writer.stage ≠ .finished) :
    bytes = packet.output ∧
      ∃ frame ∈ written setup r (before ++ .lock i :: after), frame.bytes = packet.respelled.output := by
  have family := (relayFamily_worded canonical).notPosition
  have read : packet.Reads command := by
    simp only [ClassicProtocol.decode, parsed] at decoded
    exact ClassicProtocol.decodePacket_reads decoded (.inr ⟨family, by simp [canonical]⟩)
  obtain ⟨told, packed⟩ := read.packet
  obtain ⟨event, relays⟩ := read.relays
  -- The core tells `r`, which hears the command.
  obtain ⟨mid', ran, rest'⟩ := Machine.run_append.mp trace
  obtain rfl : mid = mid' := Option.some.inj (reached.symm.trans ran)
  obtain ⟨next, step, -⟩ := Machine.run_cons.mp rest'
  have step : mid.step setup (.lock i) = some next := step
  have reach := reached.reachable
  obtain ⟨moved, operation⟩ := (step_stepped step).lockOf reach found stage
    ((decode_classic issues parsed canonical).trans decoded)
  have executed := World.step_executes (reachable_world reach) operation relays moved
  have fits : ∀ position, command = .position position →
      presence.clientType = Network.expectedType position := by
    rintro position rfl
    cases packed
  have audience := executeActive_audience (reachable_consistent (reachable_world reach)) issuer
    ⟨own, relays, fits⟩
  rw [read.unchanged canonical, executed] at audience
  obtain ⟨delivery, sent, rfl, named⟩ := Effects.mem_hearers.mp ((audience.2 r).mpr hears)
  -- What is owed to `r` is written, in the packet of the command.
  have made : delivery.event ∈ produced setup r (before ++ .lock i :: after) (.connection i) :=
    produced_of_locked reached found stage sent named
  obtain ⟨batch, ⟨listener, listed, recipient, encoded⟩, wrote⟩ :=
    written_of_produced trace made kept rest stored goes
  have output := read.respelled packed canonical payload
  rw [encode_classic (reads listener listed) relays, ClassicProtocol.encode_packet relays packed]
    at encoded
  cases framed : ClassicProtocol.frame told with
  | error error => simp [framed, Except.map] at encoded
  | ok out =>
      obtain rfl : [out] = batch := by simpa [framed, Except.map] using encoded
      have whole : bytes = packet.output :=
        (RawPacket.parse_ok.mp parsed).2.resolve_right fun compact => family.1 compact.1
      refine ⟨whole, out, wrote.subset (List.mem_singleton_self _), ?_⟩
      rw [← output, (ClassicProtocol.frame_ok.mp framed).2.2]

/-! ## A text -/

/-- The frame that a task processes in the core, and its call. -/
def executing? : ConnectionStage → Option (List UInt8 × CallId)
  | .executing frame _ call => some (frame, call)
  | _ => none

theorem executing?_eq_some {stage : ConnectionStage} {frame : List UInt8} {call : CallId}
    (executes : executing? stage = some (frame, call)) :
    ∃ context, stage = .executing frame context call := by
  cases stage with
  | executing frame' context call' =>
      cases executes
      exact ⟨context, rfl⟩
  | _ => cases executes

/-- A check that a server is at rest. -/
def restful (s : Server) : Bool :=
  s.tasks.values.all (fun task => match task.stage with
    | .reading => true
    | _ => false) &&
  s.maintenance.isNone && s.world.calls.keys.isEmpty &&
  s.writers.keys.all fun id => (s.writers.lookup id).all fun writer =>
    writer.stage = .finished || writer.stage = .receiving &&
      (s.runtime.mailboxes.lookup id).any (·.queue.isEmpty)

theorem atRest_of_restful (checked : s.restful = true) : s.AtRest := by
  simp only [restful, Bool.and_eq_true, List.all_eq_true] at checked
  obtain ⟨⟨⟨tasks, maintenance⟩, calls⟩, writers⟩ := checked
  refine ⟨fun id task found => ?_, Option.isNone_iff_eq_none.mp maintenance, fun call => ?_,
    fun id writer stored => ?_⟩
  · have reading := tasks task (KeyedMap.mem_values_iff.mpr ⟨id, found⟩)
    split at reading
    · assumption
    · cases reading
  · refine AList.lookup_eq_none.mpr fun known => ?_
    have listed : call ∈ s.world.calls.keys := AList.mem_keys.mp known
    rw [List.isEmpty_iff.mp calls] at listed
    cases listed
  · have checked := writers id (AList.mem_keys.mp (KeyedMap.mem_of_lookup stored))
    rw [stored, Option.all_some, Bool.or_eq_true] at checked
    obtain ended | waits := checked
    · exact .inl (of_decide_eq_true ended)
    · rw [Bool.and_eq_true] at waits
      obtain ⟨mailbox, found, empty⟩ := (Option.any_eq_true _ _).mp waits.2
      exact .inr ⟨of_decide_eq_true waits.1, mailbox, found, List.isEmpty_iff.mp empty⟩

end Server

namespace Sample

/-- Two pilots have been told of each other, and the first sends everyone a text. -/
def hailing : List Server.Action :=
  companions ++ writing ⟨1⟩ ++ writing ⟨1⟩ ++ writing ⟨2⟩ ++
    [.frame ⟨1⟩ (Text.bytes "#TMafr12:*:hello:: world")]

/-- What the server does about it, from the lock of the core on. -/
def hailed : List Server.Action :=
  .executed ⟨1⟩ :: sections 5 (.connection ⟨1⟩) ++ writing ⟨2⟩

set_option maxRecDepth 8000 in
private theorem hailing_starts : ((AsterFsd.server (setup 8)).run {} hailing).any (fun mid =>
    (mid.tasks.lookup ⟨1⟩).any fun task => decide (task.listener.protocol ≠ .asterV1) &&
      (Server.executing? task.stage).any fun executes =>
        decide (executes.1 = Text.bytes "#TMafr12:*:hello:: world") &&
          (mid.world.state.sessions.lookup ⟨1⟩).any (named callsign) &&
            (mid.world.state.sessions.lookup ⟨2⟩).any (named otherCallsign)) = true := by
  decide +kernel

set_option maxRecDepth 8000 in
private theorem hailed_ends :
    ((AsterFsd.server (setup 8)).run {} (hailing ++ .lock ⟨1⟩ :: hailed)).any (fun s =>
    s.restful && decide ((s.writers.lookup ⟨2⟩).map (·.stage) = some .receiving)) = true := by
  decide +kernel

set_option maxRecDepth 8000 in
private theorem hailed_kept :
    (Server.handled (setup 8) ⟨2⟩ (hailing ++ .lock ⟨1⟩ :: hailed)).all (·.accepted) = true := by
  decide +kernel

set_option maxRecDepth 8000 in
private theorem hailed_admitted :
    (Server.admissions (setup 8) ⟨2⟩ (hailing ++ .lock ⟨1⟩ :: hailed)).all
      (fun listener => decide (listener.protocol ≠ .asterV1)) = true := by
  decide +kernel

end Sample

namespace Server

/-- The second pilot reads the text. -/
theorem frames_arrive_text : ∃ s,
    (server (Sample.setup 8)).Trace (Sample.hailing ++ .lock ⟨1⟩ :: Sample.hailed) s ∧
      Text.bytes "#TMafr12:*:hello:: world" =
        RawPacket.output ⟨.client, "TM", "afr12", "*", ["hello", "", " world"]⟩ ∧
      ∃ frame ∈ written (Sample.setup 8) ⟨2⟩ (Sample.hailing ++ .lock ⟨1⟩ :: Sample.hailed),
        frame.bytes = Text.bytes "#TMAFR12:*:hello:: world" := by
  obtain ⟨s, trace, checked⟩ := (Option.any_eq_true _ _).mp Sample.hailed_ends
  obtain ⟨rest, receives⟩ := Bool.and_eq_true_iff.mp checked
  obtain ⟨writer, stored, stage⟩ := Option.map_eq_some_iff.mp (of_decide_eq_true receives)
  obtain ⟨mid, reached, checked⟩ := (Option.any_eq_true _ _).mp Sample.hailing_starts
  obtain ⟨task, found, checked⟩ := (Option.any_eq_true _ _).mp checked
  obtain ⟨issues, checked⟩ := Bool.and_eq_true_iff.mp checked
  obtain ⟨⟨bytes, call⟩, executes, checked⟩ := (Option.any_eq_true _ _).mp checked
  obtain ⟨checked, second⟩ := Bool.and_eq_true_iff.mp checked
  obtain ⟨same, first⟩ := Bool.and_eq_true_iff.mp checked
  obtain rfl := of_decide_eq_true same
  obtain ⟨context, executing⟩ := executing?_eq_some executes
  obtain ⟨session, presence, issuer, own⟩ := Sample.activeAs_of_named first
  obtain ⟨session', presence', hearer, -⟩ := Sample.activeAs_of_named second
  obtain ⟨whole, frame, wrote, spelled⟩ := frames_arrive (Sample.setup 8) Sample.hailing Sample.hailed mid
    s ⟨1⟩ ⟨2⟩ task _ context call ⟨.client, "TM", "afr12", "*", ["hello", "", " world"]⟩
    (.text Sample.callsign .all "hello:: world") session presence writer reached trace found executing
    (of_decide_eq_true issues) (by decide) (by decide) (by decide) (by decide) issuer
    (congrArg some own.symm) ⟨by decide, session', presence', hearer, trivial⟩
    (fun listener listed => of_decide_eq_true (List.all_eq_true.mp Sample.hailed_admitted listener listed))
    (List.all_eq_true.mp Sample.hailed_kept) (atRest_of_restful rest) stored (by rw [stage]; decide)
  exact ⟨s, trace, whole, frame, wrote, spelled.trans (by decide)⟩

end Server

end AsterFsd
