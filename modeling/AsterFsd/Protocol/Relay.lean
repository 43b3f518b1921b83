import AsterFsd.Core.Reach
import AsterFsd.Protocol.Reads

/-! # What a classic client hears of a command

A command that others are told becomes one classic frame. A classic frame that is relayed comes out as
it went in, but for the spelling of its addresses. A command from elsewhere may hold what no classic
frame can say.
-/

namespace AsterFsd

open ClassicProtocol

/-! ## The frame -/

namespace ClassicProtocol

/-- What others are told of a command is encoded as its packet. -/
theorem encode_packet {command : Command} {event : Event} {packet : RawPacket}
    (relays : command.Relays event) (told : command.packet = some packet) (context : EncodeContext) :
    ClassicProtocol.encode context event = (frame packet).map ([·]) := by
  cases relays with
  | routed routes =>
      cases command with
      | text | response | pong | handoff | clientData =>
          cases routes
          cases told
          rfl
      | _ => cases routes
  | query | ping | flightPlan =>
      cases told
      rfl
  | position => cases told

end ClassicProtocol

/-- What the packets that others are told have in common: their prefix and their word. -/
structure RawPacket.Worded (kind : RawPacketKind) (command : String) : Prop where
  family : kind = .request ∨ kind = .client
  length : command.toList.length = 2
  straight : command ≠ "DI"
  colonless : ':' ∉ command.toList
  ascii : isAscii command = true

theorem relayFamily_worded {kind : RawPacketKind} {command : String}
    (family : relayFamily command = some kind) : RawPacket.Worded kind command := by
  unfold relayFamily at family
  split at family
  · rename_i word
    cases family
    simp only [List.mem_cons, List.not_mem_nil, or_false] at word
    rcases word with rfl | rfl | rfl <;>
      exact ⟨by decide, by decide, by decide, by decide, by decide⟩
  split at family
  · rename_i word
    cases family
    simp only [List.mem_cons, List.not_mem_nil, or_false] at word
    rcases word with rfl | rfl | rfl | rfl | rfl | rfl | rfl | rfl <;>
      exact ⟨by decide, by decide, by decide, by decide, by decide⟩
  · cases family

theorem RawPacket.Worded.notPosition {packet : RawPacket}
    (worded : RawPacket.Worded packet.kind packet.command) :
    packet.kind ≠ .pilotPosition ∧ packet.kind ≠ .atcPosition := by
  cases worded.family with
  | inl kind | inr kind => rw [kind]; decide

theorem Command.packet_worded {command : Command} {packet : RawPacket}
    (told : command.packet = some packet) : RawPacket.Worded packet.kind packet.command := by
  cases command with
  | handoff source target kind fields => cases told; cases kind <;> exact relayFamily_worded rfl
  | clientData source target kind fields => cases told; cases kind <;> exact relayFamily_worded rfl
  | text | query | response | ping | pong => cases told; exact relayFamily_worded rfl
  | flightPlan =>
      cases told
      exact (⟨.inl rfl, by decide, by decide, by decide, by decide⟩ : RawPacket.Worded .request "FP")
  | _ => cases told

/-- What others are sent by a command that they are told is that command. -/
theorem Sends.relays {state state' : NetworkState} {c r : ConnectionId} {command : Command}
    {delivery : Delivery} (sends : Sends state state' c (some command) delivery)
    (shared : ¬ command.Unshared) (named : r ∈ delivery.recipients) (other : r ≠ c) :
    command.Relays delivery.event := by
  cases sends with
  | answer => exact absurd (List.mem_singleton.mp named) other
  | relayed executes issuer own relays =>
      obtain rfl := Option.some.inj executes
      exact relays
  | joined executes =>
      obtain rfl := Option.some.inj executes
      exact absurd ⟨rfl, by simp⟩ shared
  | departed removes =>
      cases removes with
      | left => exact absurd ⟨rfl, by simp⟩ shared
      | killed accepted =>
          obtain ⟨_, _, _, -, -, rfl, -⟩ := accepted
          exact absurd ⟨rfl, by simp⟩ shared
  | noticed executes =>
      obtain rfl := Option.some.inj executes
      exact absurd ⟨rfl, by simp⟩ shared

theorem Command.Relays.of_position {position : Position} {event : Event}
    (relays : (Command.position position).Relays event) : event = .position position := by
  cases relays with
  | routed routes => cases routes
  | position => rfl

/-! ## Fields that were joined -/

theorem toList_joined (first : String) (rest : List String) :
    (":".intercalate (first :: rest)).toList = first.toList ++ Text.joinList ':' rest := by
  induction rest generalizing first with
  | nil => simp [Text.joinList]
  | cons second rest ih =>
      rw [String.intercalate_cons_cons, String.toList_append, String.toList_append, ih]
      simp [Text.joinList]

/-- A packet may carry its fields as one text. -/
theorem RawPacket.output_joined {packet : RawPacket} (payload : packet.fields ≠ [])
    (family : packet.kind = .request ∨ packet.kind = .client) :
    RawPacket.output { packet with fields := [joined packet] } = packet.output := by
  have joining : Text.joinList ':' [joined packet] = Text.joinList ':' packet.fields := by
    cases fields : packet.fields with
    | nil => exact absurd fields payload
    | cons first rest =>
        simp only [joined, fields, Text.joinList, List.flatMap_cons, List.flatMap_nil,
          List.append_nil, List.cons_append]
        rw [toList_joined, Text.joinList]
  rw [RawPacket.output_text, RawPacket.output_text]
  obtain kind | kind := family <;>
    simp only [RawPacket.text, kind, RawPacket.firstIdentifier, RawPacket.secondIdentifier, joining]

/-! ## Relaying a classic frame -/

/-- The words for queries, in capitals. -/
def queryWords : List String := ["RN", "FP", "CAPS", "ATIS", "INF", "ACC"]

/-- The spelling of the kind of a query after it was read: a word that is known is uppercased. -/
def queryKindSpelling (value : String) : String :=
  if toAsciiUppercase value ∈ queryWords then toAsciiUppercase value else value

theorem queryKindText_queryKind (value : String) :
    queryKindText (queryKind value) = queryKindSpelling value := by
  unfold queryKind queryKindSpelling queryWords
  dsimp only
  generalize toAsciiUppercase value = upper
  repeat' split
  all_goals simp_all [queryKindText]

/-- The packet as it is relayed: the source, the destination unless it is a range, and the kind of a
    query if it is known, are in capitals. -/
def RawPacket.respelled (packet : RawPacket) : RawPacket :=
  { packet with
    source := toAsciiUppercase packet.source
    destination := destinationSpelling packet.destination
    fields :=
      match packet.fields with
      | [] => []
      | kind :: arguments =>
          if packet.command = "CQ" ∨ packet.command = "CR" then queryKindSpelling kind :: arguments
          else kind :: arguments }

theorem lineSize_respelled {packet : RawPacket} :
    RawPacket.lineSize packet.respelled.fields = RawPacket.lineSize packet.fields := by
  have kindSize : ∀ value, (queryKindSpelling value).utf8ByteSize = value.utf8ByteSize := by
    intro value
    unfold queryKindSpelling
    split
    · exact toAsciiUppercase_size value
    · rfl
  unfold RawPacket.respelled
  cases packet.fields with
  | nil => rfl
  | cons kind arguments =>
      dsimp only
      split
      · rw [RawPacket.lineSize_cons, kindSize, RawPacket.lineSize_cons]
      · rfl

theorem unbroken_respelled {packet : RawPacket} :
    (∀ field ∈ packet.respelled.fields, Text.Unbroken field) ↔
      ∀ field ∈ packet.fields, Text.Unbroken field := by
  have kindLine : ∀ value, Text.Unbroken (queryKindSpelling value) ↔ Text.Unbroken value := by
    intro value
    unfold queryKindSpelling
    split
    · exact unbroken_toAsciiUppercase
    · rfl
  unfold RawPacket.respelled
  cases packet.fields with
  | nil => rfl
  | cons kind arguments =>
      dsimp only
      split
      · rw [List.forall_mem_cons, kindLine, List.forall_mem_cons]
      · rfl

theorem destinationSpelling_size (value : String) :
    (destinationSpelling value).utf8ByteSize = value.utf8ByteSize := by
  unfold destinationSpelling
  split
  · rfl
  · exact toAsciiUppercase_size value

theorem unbroken_destinationSpelling {value : String} :
    Text.Unbroken (destinationSpelling value) ↔ Text.Unbroken value := by
  unfold destinationSpelling
  split
  · rfl
  · exact unbroken_toAsciiUppercase

/-- Respelling a packet keeps its frame within the limit and on one line. -/
theorem RawPacket.respelled_frame {packet : RawPacket}
    (worded : RawPacket.Worded packet.kind packet.command) :
    packet.respelled.output.length = packet.output.length ∧
      (packet.respelled.output.any Text.isDelimiter = false ↔
        packet.output.any Text.isDelimiter = false) := by
  have lengths := RawPacket.length_output worded.family worded.straight
  have lines := RawPacket.any_output worded.family worded.straight
  have lengths' := @RawPacket.length_output packet.respelled worded.family worded.straight
  have lines' := @RawPacket.any_output packet.respelled worded.family worded.straight
  simp only [RawPacket.lineSize_cons, List.forall_mem_cons] at lengths lines lengths' lines'
  rw [lengths, lines, lengths', lines', lineSize_respelled, unbroken_respelled]
  constructor
  · rw [show packet.respelled.source = toAsciiUppercase packet.source from rfl,
      show packet.respelled.destination = destinationSpelling packet.destination from rfl,
      toAsciiUppercase_size, destinationSpelling_size]
    rfl
  · rw [show packet.respelled.source = toAsciiUppercase packet.source from rfl,
      show packet.respelled.destination = destinationSpelling packet.destination from rfl,
      unbroken_toAsciiUppercase, unbroken_destinationSpelling]
    rfl

theorem RawPacket.Reads.packet {packet : RawPacket} {command : Command} (reads : packet.Reads command) :
    ∃ told, command.packet = some told := by
  cases reads <;> exact ⟨_, rfl⟩

/-- A packet that was read as a command is told to others as it was, respelled. -/
theorem RawPacket.Reads.respelled {packet told : RawPacket} {command : Command}
    (reads : packet.Reads command) (named : command.packet = some told)
    (canonical : relayFamily packet.command = some packet.kind)
    (payload : packet.command = "PI" ∨ packet.command = "PO" → packet.fields ≠ []) :
    told.output = packet.respelled.output := by
  have family := (relayFamily_worded canonical).family
  have spoken : ∀ {source : Callsign}, Callsign.parse packet.source = .ok source →
      toString source = toAsciiUppercase packet.source := fun speaker => (Callsign.parse_ok.mp speaker).2
  have addressed : ∀ {destination : Destination}, Destination.parse packet.destination = .ok destination →
      destinationText destination = destinationSpelling packet.destination :=
    fun address => (parse_cases address).2
  -- Fields that are not a query's stay as they are.
  have kept : ¬ (packet.command = "CQ" ∨ packet.command = "CR") →
      packet.respelled.fields = packet.fields := by
    intro plain
    unfold RawPacket.respelled
    cases packet.fields with
    | nil => rfl
    | cons kind arguments => exact if_neg plain
  have single : ∀ {source : Callsign} {destination : Destination},
      Callsign.parse packet.source = .ok source →
      Destination.parse packet.destination = .ok destination → packet.fields ≠ [] →
      ¬ (packet.command = "CQ" ∨ packet.command = "CR") →
      RawPacket.output ⟨packet.kind, packet.command, toString source, destinationText destination,
        [joined packet]⟩ = packet.respelled.output := by
    intro source destination speaker address some_ plain
    have fields := kept plain
    have whole := @RawPacket.output_joined packet.respelled (by rw [fields]; exact some_) family
    rw [spoken speaker, addressed address, ← whole, joined, joined, fields]
    rfl
  have several : ∀ {source target : Callsign}, Callsign.parse packet.source = .ok source →
      Destination.parse packet.destination = .ok (.direct target) →
      ¬ (packet.command = "CQ" ∨ packet.command = "CR") →
      RawPacket.output ⟨packet.kind, packet.command, toString source, toString target,
        packet.fields⟩ = packet.respelled.output := by
    intro source target speaker address plain
    have named : toString target = destinationSpelling packet.destination := addressed address
    rw [spoken speaker, named, ← kept plain]
    rfl
  have query : ∀ {source : Callsign} {destination : Destination} {kind : String}
      {arguments : List String}, Callsign.parse packet.source = .ok source →
      Destination.parse packet.destination = .ok destination → packet.fields = kind :: arguments →
      packet.command = "CQ" ∨ packet.command = "CR" →
      RawPacket.output ⟨packet.kind, packet.command, toString source, destinationText destination,
        queryKindText (queryKind kind) :: arguments⟩ = packet.respelled.output := by
    intro source destination kind arguments speaker address fields word
    rw [spoken speaker, addressed address, queryKindText_queryKind]
    simp only [RawPacket.respelled, fields, if_pos word]
  have kindOf : ∀ {kind : RawPacketKind} {word : String}, packet.command = word →
      relayFamily word = some kind → packet.kind = kind := by
    intro kind word same listed
    rw [same, listed] at canonical
    exact (Option.some.inj canonical).symm
  cases reads with
  | text word some_ speaker address =>
      cases named
      have same := single speaker address some_ (by rw [word]; decide)
      rw [word, @kindOf .client _ word (by decide)] at same
      exact same
  | flightPlan word =>
      rw [word] at canonical
      cases canonical
  | query word fields speaker address =>
      cases named
      have same := query speaker address fields (.inl word)
      rw [word, @kindOf .request _ word (by decide)] at same
      exact same
  | response word fields answers speaker address =>
      cases named
      have same := query speaker address fields (.inr word)
      rw [word, @kindOf .request _ word (by decide)] at same
      exact same
  | ping word speaker address =>
      cases named
      have same := single speaker address (payload (.inl word)) (by rw [word]; decide)
      rw [word, @kindOf .request _ word (by decide)] at same
      exact same
  | pong word speaker address =>
      cases named
      have same := single speaker address (payload (.inr word)) (by rw [word]; decide)
      rw [word, @kindOf .request _ word (by decide)] at same
      exact same
  | @handoff source target kind word some_ speaker address =>
      cases named
      have same := several speaker address (by rw [word]; cases kind <;> decide)
      rw [word, @kindOf .request _ word (by cases kind <;> decide)] at same
      exact same
  | @clientData source target kind word some_ speaker address =>
      cases named
      have same := several speaker address (by rw [word]; cases kind <;> decide)
      rw [word, @kindOf (clientDataPacketKind kind) _ word (by cases kind <;> decide)] at same
      exact same

/-- A classic frame whose command others are told, written with the prefix of its word, is relayed as it
    came: to every other connection the event encodes as one frame, and only the source, the destination
    unless it is a range, and the kind of a query if it is known, are uppercased. -/
theorem relay_transparent (config : CoreConfig) (w w' : World) (reach : (machine config).Reachable w)
    (action : Action) (c : ConnectionId) (command : Command) (step : w.step config action = some w')
    (operation : w.operation action = some (c, some command)) (bytes : List UInt8) (packet : RawPacket)
    (bounded : bytes.length ≤ CLASSIC_MAX_FRAME_BYTES)
    (undelimited : bytes.any Text.isDelimiter = false)
    (decoded : ClassicProtocol.decode bytes = .ok command) (parsed : RawPacket.parse bytes = .ok packet)
    (canonical : relayFamily packet.command = some packet.kind)
    (payload : packet.command = "PI" ∨ packet.command = "PO" → packet.fields ≠ []) :
    bytes = packet.output ∧
      ∀ delivery ∈ (w.committed config action).deliveries, ∀ r ∈ delivery.recipients, r ≠ c →
        ∀ context, ∃ out, ClassicProtocol.encode context delivery.event = .ok [out] ∧
          out.bytes = packet.respelled.output := by
  have worded := relayFamily_worded canonical
  have family := worded.notPosition
  have written : bytes = packet.output :=
    (RawPacket.parse_ok.mp parsed).2.resolve_right fun compact => family.1 compact.1
  refine ⟨written, ?_⟩
  intro delivery member r named other context
  have reads : packet.Reads command := by
    simp only [ClassicProtocol.decode, parsed] at decoded
    exact decodePacket_reads decoded (.inr ⟨family, by simp [canonical]⟩)
  obtain ⟨told, packed⟩ := reads.packet
  obtain ⟨issuer, executed, same, sends⟩ | ⟨_, _, rfl, -⟩ := World.step_sends reach step member
  · obtain ⟨rfl, rfl⟩ := Prod.mk.inj (Option.some.inj (operation.symm.trans same))
    have relays := sends.relays (by simp [Command.Unshared, packed]) named other
    have output := reads.respelled packed canonical payload
    obtain ⟨lengths, lines⟩ := RawPacket.respelled_frame worded
    have framed : frame told = .ok ⟨told.output, by rw [output, lines, ← written]; exact undelimited⟩ := by
      refine frame_ok.mpr ⟨?_, ?_, rfl⟩
      · rw [output, lengths, ← written]
        exact bounded
      · rw [output, lines, ← written]
        exact undelimited
    exact ⟨_, by rw [encode_packet relays packed context, framed]; rfl, output⟩
  · cases operation

namespace Sample

/-- The first of two pilots sends everyone a text with colons in it. -/
def colonText : List Action := twoPilots ++ [.call 2 ⟨1⟩ (.text callsign .all "hello:: world")]

end Sample

set_option maxRecDepth 4000 in
theorem relay_transparent_text :
    ∃ w w', (machine Sample.config).Trace Sample.colonText w ∧
      w.step Sample.config (.lock 2) = some w' ∧
      ⟨[⟨2⟩], .text Sample.callsign .all "hello:: world"⟩ ∈
        (w.committed Sample.config (.lock 2)).deliveries ∧
      ∀ context, ∃ out, ClassicProtocol.encode context (.text Sample.callsign .all "hello:: world") =
        .ok [out] ∧ out.bytes = Text.bytes "#TMAFR12:*:hello:: world" := by
  have trace := (machine Sample.config).trace_final Sample.colonText (by decide)
  have stepped : (((machine Sample.config).final Sample.colonText (by decide)).step Sample.config
      (.lock 2)).isSome = true := by decide
  have sent : ⟨[⟨2⟩], .text Sample.callsign .all "hello:: world"⟩ ∈
      (((machine Sample.config).final Sample.colonText (by decide)).committed Sample.config
        (.lock 2)).deliveries := by decide
  have relayed := (relay_transparent Sample.config _ _ trace.reachable (.lock 2) ⟨1⟩
    (.text Sample.callsign .all "hello:: world") (Option.some_get stepped).symm (by decide)
    (Text.bytes "#TMafr12:*:hello:: world") ⟨.client, "TM", "afr12", "*", ["hello", "", " world"]⟩
    (by decide) (by decide) (by decide) (by decide) (by decide) (by decide)).2 _ sent ⟨2⟩ (by decide) (by decide)
  exact ⟨_, _, trace, (Option.some_get stepped).symm, sent, relayed⟩

end AsterFsd
