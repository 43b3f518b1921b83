import AsterFsd.Protocol.Relay
import AsterFsd.Protocol.Aster

/-! # What a classic frame can say

The strings of a JSON command are arbitrary, and a classic frame has no escapes: a colon in a field ends
the field. A command that others are told is heard as it was sent exactly when its strings are such that
a classic client could have sent it.
-/

namespace AsterFsd

open ClassicProtocol

/-! ## Framable commands -/

/-- The text is one field. -/
def Colonless (text : String) : Prop := ':' ∉ text.toList

instance (text : String) : Decidable (Colonless text) := inferInstanceAs (Decidable (_ ∉ _))

/-- The text of the destination is one field that names it. -/
def Destination.Framable (destination : Destination) : Prop :=
  destination.Nameable ∧ Colonless (destinationText destination)

instance (destination : Destination) : Decidable destination.Framable :=
  inferInstanceAs (Decidable (_ ∧ _))

/-- A raw kind is one field, and none of the known words in any spelling. -/
def QueryKind.Framable : QueryKind → Prop
  | .raw value => toAsciiUppercase value ∉ queryWords ∧ Colonless value
  | .realName | .flightPlan | .capabilities | .atis | .systemInfo | .aircraftConfiguration => True

instance decidableQueryFramable : (kind : QueryKind) → Decidable kind.Framable
  | .raw value => inferInstanceAs (Decidable (toAsciiUppercase value ∉ queryWords ∧ Colonless value))
  | .realName | .flightPlan | .capabilities | .atis | .systemInfo | .aircraftConfiguration =>
      .isTrue trivial

/-- The texts of a flight plan are one field each. -/
def FlightPlan.Framable (plan : FlightPlan) : Prop :=
  plan.flightRules ≠ ':' ∧
    ∀ text ∈ [plan.aircraft, plan.departure, plan.cruiseAltitude, plan.destination, plan.alternate,
      plan.remarks, plan.route], Colonless text

instance (plan : FlightPlan) : Decidable plan.Framable := inferInstanceAs (Decidable (_ ∧ _))

/-- A classic client could have sent the command. The last part of a text or a ping may hold colons; a
    response, a handoff and a communication reply must say something. -/
def Command.Framable : Command → Prop
  | .text _ destination _ | .ping _ destination _ | .pong _ destination _ => destination.Framable
  | .query _ destination kind arguments =>
      destination.Framable ∧ kind.Framable ∧ ∀ argument ∈ arguments, Colonless argument
  | .response _ destination kind arguments =>
      (∃ target, destination = .direct target) ∧ destination.Framable ∧ kind.Framable ∧
        arguments ≠ [] ∧ ∀ argument ∈ arguments, Colonless argument
  | .handoff _ target _ fields =>
      Destination.Framable (.direct target) ∧ fields ≠ [] ∧ ∀ field ∈ fields, Colonless field
  | .clientData _ target kind fields =>
      Destination.Framable (.direct target) ∧ (kind = .communicationReply → fields ≠ []) ∧
        ∀ field ∈ fields, Colonless field
  | .flightPlan plan => plan.Framable
  | .noop _ | .identify _ | .login _ | .logoff _ | .position _ | .weatherRequest .. | .kill .. => True

instance decidableDirect : (destination : Destination) →
    Decidable (∃ target, destination = .direct target)
  | .direct target => .isTrue ⟨target, rfl⟩
  | .server | .all | .atc | .pilots | .range _ => .isFalse fun ⟨_, same⟩ => nomatch same

instance decidableFramable : (command : Command) → Decidable command.Framable
  | .text _ destination _ | .ping _ destination _ | .pong _ destination _ =>
      inferInstanceAs (Decidable destination.Framable)
  | .query .. | .response .. | .handoff .. | .clientData .. => inferInstanceAs (Decidable (_ ∧ _))
  | .flightPlan plan => inferInstanceAs (Decidable plan.Framable)
  | .noop _ | .identify _ | .login _ | .logoff _ | .position _ | .weatherRequest .. | .kill .. =>
      .isTrue trivial

/-! ## What was read is framable -/

theorem colonless_toAsciiUppercase {text : String} :
    Colonless (toAsciiUppercase text) ↔ Colonless text := not_congr (mem_toAsciiUppercase (by decide))

theorem framable_of_parse {value : String} {destination : Destination} (colonless : Colonless value)
    (read : Destination.parse value = .ok destination) : destination.Framable := by
  obtain ⟨nameable, spelled⟩ := parse_cases read
  refine ⟨nameable, ?_⟩
  rw [spelled, destinationSpelling]
  split
  · exact colonless
  · exact colonless_toAsciiUppercase.mpr colonless

theorem queryKind_framable {value : String} (colonless : Colonless value) :
    (queryKind value).Framable := by
  unfold queryKind
  dsimp only
  repeat' split
  -- Every known word gives a kind without a text of its own.
  all_goals try exact True.intro
  refine ⟨?_, colonless⟩
  simp only [queryWords, List.mem_cons, List.not_mem_nil, or_false, not_or]
  exact ⟨‹_›, ‹_›, ‹_›, ‹_›, ‹_›, ‹_›⟩

theorem FlightPlan.ReadFrom.framable {plan : FlightPlan} {fields : List String}
    (read : plan.ReadFrom fields) (colonless : ∀ field ∈ fields, Colonless field) : plan.Framable := by
  have one : ∀ {i : Nat} {text : String}, fields[i]? = some text → Colonless text :=
    fun found => colonless _ (List.mem_of_getElem? found)
  constructor
  · have rules := read.rules
    cases found : fields[0]? with
    | none =>
        rw [found] at rules
        cases rules
    | some text =>
        rw [found] at rules
        intro colon
        rw [Option.bind_some, colon] at rules
        exact one found (List.mem_of_mem_head? rules)
  · simp only [List.forall_mem_cons]
    exact ⟨one read.aircraft, one read.departure, one read.cruiseAltitude, one read.destination,
      one read.alternate, one read.remarks, one read.route, fun _ member => nomatch member⟩

theorem RawPacket.Reads.framable {packet : RawPacket} {command : Command} (tokens : packet.Tokenized)
    (reads : packet.Reads command) : command.Framable := by
  cases reads with
  | text word payload speaker address => exact framable_of_parse tokens.destination address
  | ping word speaker address | pong word speaker address =>
      exact framable_of_parse tokens.destination address
  | flightPlan word speaker fields => exact fields.framable tokens.fields
  | query word payload speaker address =>
      obtain ⟨kind, arguments⟩ := List.forall_mem_cons.mp (payload ▸ tokens.fields)
      exact ⟨framable_of_parse tokens.destination address, queryKind_framable kind, arguments⟩
  | response word payload answers speaker address =>
      obtain ⟨kind, arguments⟩ := List.forall_mem_cons.mp (payload ▸ tokens.fields)
      exact ⟨⟨_, rfl⟩, framable_of_parse tokens.destination address, queryKind_framable kind, answers,
        arguments⟩
  | handoff word payload speaker address =>
      exact ⟨framable_of_parse tokens.destination address, payload, tokens.fields⟩
  | clientData word payload speaker address =>
      exact ⟨framable_of_parse tokens.destination address, payload, tokens.fields⟩

/-! ## What is framable reads back -/

theorem queryKind_text {kind : QueryKind} (framable : kind.Framable) :
    queryKind (queryKindText kind) = kind ∧ Colonless (queryKindText kind) := by
  cases kind with
  | raw value =>
      obtain ⟨unknown, colonless⟩ := framable
      refine ⟨?_, colonless⟩
      simp only [queryWords, List.mem_cons, List.not_mem_nil, or_false, not_or] at unknown
      simp only [queryKindText, queryKind, unknown, ↓reduceIte]
  | _ => exact ⟨by decide, by decide⟩

theorem FlightPlan.readFrom (plan : FlightPlan) : plan.ReadFrom (flightPlanFields plan) where
  rules := by simp [flightPlanFields]
  aircraft := rfl
  cruiseSpeed := Decimal.parseInt32_toString _
  departure := rfl
  estimatedDeparture := Decimal.parseInt32_toString _
  actualDeparture := Decimal.parseInt32_toString _
  cruiseAltitude := rfl
  destination := rfl
  hoursEnroute := Decimal.parseInt32_toString _
  minutesEnroute := Decimal.parseInt32_toString _
  hoursFuel := Decimal.parseInt32_toString _
  minutesFuel := Decimal.parseInt32_toString _
  alternate := rfl
  remarks := rfl
  route := rfl

theorem FlightPlan.Framable.fields {plan : FlightPlan} (framable : plan.Framable) :
    ∀ field ∈ flightPlanFields plan, Colonless field := by
  obtain ⟨rules, texts⟩ := framable
  simp only [List.forall_mem_cons] at texts
  obtain ⟨aircraft, departure, cruiseAltitude, destination, alternate, remarks, route, -⟩ := texts
  have first : Colonless (String.singleton plan.flightRules) := by
    unfold Colonless
    simpa [eq_comm] using rules
  have number : ∀ i : Int32, Colonless (toString i) := Decimal.colonless_toString
  simp only [flightPlanFields, List.forall_mem_cons]
  exact ⟨first, aircraft, number _, departure, number _, number _, cruiseAltitude, destination,
    number _, number _, number _, number _, alternate, remarks, route, fun _ member => nomatch member⟩

/-- The pieces of a text between its colons make up the text. -/
theorem joined_split (text : String) : ":".intercalate (Text.split ':' text) = text := by
  obtain ⟨first, rest, pieces⟩ := Text.exists_split ':' text
  rw [pieces, ← String.toList_inj, toList_joined]
  exact (Text.split_eq_cons.mp pieces).1.symm

theorem split_colonless {text : String} : ∀ piece ∈ Text.split ':' text, Colonless piece := by
  obtain ⟨first, rest, pieces⟩ := Text.exists_split ':' text
  obtain ⟨-, clean, others⟩ := Text.split_eq_cons.mp pieces
  rw [pieces]
  exact List.forall_mem_cons.mpr ⟨clean, others⟩

theorem RawPacket.Worded.tokenized_of_ascii {packet : RawPacket}
    (worded : RawPacket.Worded packet.kind packet.command) (ascii : isAscii packet.source = true)
    (source : Colonless packet.source) (destination : Colonless packet.destination)
    (fields : ∀ field ∈ packet.fields, Colonless field) : packet.Tokenized := by
  have first : packet.firstIdentifier = packet.source := if_neg worded.straight
  have head : isAscii (packet.command ++ packet.firstIdentifier) = true := by
    rw [first, isAscii_append, Bool.and_eq_true]
    exact ⟨worded.ascii, ascii⟩
  have tokens : packet.CommandTokens := ⟨worded.length, worded.colonless, head⟩
  exact tokens.tokenized worded.notPosition source destination fields

theorem RawPacket.Worded.tokenized {packet : RawPacket}
    (worded : RawPacket.Worded packet.kind packet.command) (source : Callsign)
    (speaker : packet.source = toString source)
    (destination : Colonless packet.destination)
    (fields : ∀ field ∈ packet.fields, Colonless field) : packet.Tokenized :=
  worded.tokenized_of_ascii (speaker ▸ source.valid.ascii) (speaker ▸ source.colonless) destination
    fields

/-- The packet of a framable command is read as the command, its last text split at the colons if it is
    one that may hold them. -/
theorem Command.Framable.reads {command : Command} {told : RawPacket}
    (packed : command.packet = some told) (framable : command.Framable) :
    ∃ packet : RawPacket, packet.output = told.output ∧ packet.kind = told.kind ∧
      packet.destination = told.destination ∧ packet.Tokenized ∧ packet.Reads command := by
  have worded := Command.packet_worded packed
  have named := Callsign.parse_toString
  have addressed : ∀ {destination : Destination}, destination.Framable →
      Destination.parse (destinationText destination) = .ok destination :=
    fun framable => parse_destinationText.mpr framable.1
  -- A text, a ping or a pong: the fields are the pieces of its one text.
  have spoken : ∀ (kind : RawPacketKind) (word : String) (source : Callsign)
      (destination : Destination) (text : String), RawPacket.Worded kind word →
      destination.Framable → ∃ packet : RawPacket,
        packet.output = RawPacket.output
          ⟨kind, word, toString source, destinationText destination, [text]⟩ ∧
        packet.kind = kind ∧ packet.command = word ∧ packet.source = toString source ∧
        packet.destination = destinationText destination ∧ packet.fields ≠ [] ∧
        joined packet = text ∧ packet.Tokenized := by
    intro kind word source destination text worded framable
    let packet : RawPacket :=
      ⟨kind, word, toString source, destinationText destination, Text.split ':' text⟩
    have payload : packet.fields ≠ [] := by
      obtain ⟨first, rest, pieces⟩ := Text.exists_split ':' text
      simp [packet, pieces]
    have whole : joined packet = text := joined_split text
    have output := RawPacket.output_joined payload worded.family
    rw [whole] at output
    exact ⟨packet, output.symm, rfl, rfl, rfl, rfl, payload, whole,
      RawPacket.Worded.tokenized worded source rfl framable.2 split_colonless⟩
  cases command with
  | text source destination message =>
      cases packed
      obtain ⟨packet, output, kind, word, speaker, address, payload, rfl, tokens⟩ :=
        spoken _ _ source destination message worded framable
      exact ⟨packet, output, kind, address, tokens,
        .text word payload (speaker ▸ named source) (address ▸ addressed framable)⟩
  | ping source destination payload =>
      cases packed
      obtain ⟨packet, output, kind, word, speaker, address, -, rfl, tokens⟩ :=
        spoken _ _ source destination payload worded framable
      exact ⟨packet, output, kind, address, tokens,
        .ping word (speaker ▸ named source) (address ▸ addressed framable)⟩
  | pong source destination payload =>
      cases packed
      obtain ⟨packet, output, kind, word, speaker, address, -, rfl, tokens⟩ :=
        spoken _ _ source destination payload worded framable
      exact ⟨packet, output, kind, address, tokens,
        .pong word (speaker ▸ named source) (address ▸ addressed framable)⟩
  | query source destination kind arguments =>
      cases packed
      obtain ⟨address, known, clean⟩ := framable
      obtain ⟨back, first⟩ := queryKind_text known
      refine ⟨_, rfl, rfl, rfl, worded.tokenized source rfl address.2
        (List.forall_mem_cons.mpr ⟨first, clean⟩), ?_⟩
      have reads := @RawPacket.Reads.query ⟨.request, "CQ", toString source,
        destinationText destination, queryKindText kind :: arguments⟩ source destination _ _ rfl rfl
        (named source) (addressed address)
      rwa [back] at reads
  | response source destination kind arguments =>
      cases packed
      obtain ⟨⟨target, rfl⟩, address, known, answers, clean⟩ := framable
      obtain ⟨back, first⟩ := queryKind_text known
      refine ⟨_, rfl, rfl, rfl, worded.tokenized source rfl address.2
        (List.forall_mem_cons.mpr ⟨first, clean⟩), ?_⟩
      have reads := @RawPacket.Reads.response ⟨.request, "CR", toString source,
        destinationText (.direct target), queryKindText kind :: arguments⟩ source target _ _ rfl rfl
        answers (named source) (addressed address)
      rwa [back] at reads
  | handoff source target kind fields =>
      cases packed
      obtain ⟨address, payload, clean⟩ := framable
      exact ⟨_, rfl, rfl, rfl, worded.tokenized source rfl address.2 clean,
        .handoff rfl payload (named source) (addressed address)⟩
  | clientData source target kind fields =>
      cases packed
      obtain ⟨address, payload, clean⟩ := framable
      exact ⟨_, rfl, rfl, rfl, worded.tokenized source rfl address.2 clean,
        .clientData rfl payload (named source) (addressed address)⟩
  | flightPlan plan =>
      cases packed
      exact ⟨_, rfl, rfl, rfl, worded.tokenized plan.callsign rfl
          (show Colonless "*A" by decide) framable.fields,
        .flightPlan rfl (named plan.callsign) plan.readFrom⟩
  | _ => cases packed

/-- A classic client reads the command from its packet exactly when the command is framable, and the
    destination is then the one it was sent to. -/
theorem decode_packet_iff {command : Command} {told : RawPacket}
    (packed : command.packet = some told) :
    (ClassicProtocol.decode told.output = .ok command ↔ command.Framable) ∧
      (command.Framable → ∃ packet, RawPacket.parse told.output = .ok packet ∧
        packet.destination = told.destination) := by
  have worded := Command.packet_worded packed
  refine ⟨⟨?_, ?_⟩, ?_⟩
  · intro decoded
    unfold ClassicProtocol.decode at decoded
    split at decoded
    · cases decoded
    · rename_i packet parsed
      exact (decodePacket_reads decoded (.inl (by simp [packed]))).framable
        (RawPacket.parse_ok.mp parsed).1
  · intro framable
    obtain ⟨packet, output, kind, -, tokens, reads⟩ := framable.reads packed
    have family := worded.notPosition
    rw [← kind] at family
    unfold ClassicProtocol.decode
    rw [← output, RawPacket.parse_output tokens]
    exact reads_decodePacket family reads
  · intro framable
    obtain ⟨packet, output, -, destination, tokens, -⟩ := framable.reads packed
    exact ⟨packet, by rw [← output, RawPacket.parse_output tokens], destination⟩

/-! ## Commands of any dialect -/

/-- A classic client that reads the frames of the event hears this command, and of a flight plan also
    where it was sent. -/
def Command.HeardIn (command : Command) (event : Event) (frames : List WireFrame) : Prop :=
  ∃ out, frames = [out] ∧ ClassicProtocol.decode out.bytes = .ok command ∧
    ∀ plan destination, event = .flightPlan plan destination → ∃ packet,
      RawPacket.parse out.bytes = .ok packet ∧
        Destination.parse packet.destination = .ok destination

/-- Whoever sends it and in whatever dialect, a command that others are told and whose event encodes as
    classic frames is heard in them exactly when it is framable. -/
theorem heard_iff_framable (config : CoreConfig) (w w' : World) (reach : (machine config).Reachable w)
    (action : Action) (c : ConnectionId) (command : Command) (step : w.step config action = some w')
    (operation : w.operation action = some (c, some command)) (told : command.packet ≠ none) :
    ∀ delivery ∈ (w.committed config action).deliveries, ∀ r ∈ delivery.recipients, r ≠ c →
      ∀ context frames, ClassicProtocol.encode context delivery.event = .ok frames →
        (command.HeardIn delivery.event frames ↔ command.Framable) := by
  intro delivery member r named other context frames encoded
  obtain ⟨issuer, executed, same, sends⟩ | ⟨_, _, rfl, -⟩ := World.step_sends reach step member
  · obtain ⟨rfl, rfl⟩ := Prod.mk.inj (Option.some.inj (operation.symm.trans same))
    have relays := sends.relays (fun unshared => told unshared.1) named other
    obtain ⟨packet, packed⟩ := Option.ne_none_iff_exists'.mp told
    obtain ⟨heard, addressed⟩ := decode_packet_iff packed
    rw [encode_packet relays packed context] at encoded
    cases framed : frame packet with
    | error error =>
        rw [framed] at encoded
        cases encoded
    | ok out =>
        rw [framed] at encoded
        obtain rfl : [out] = frames := Except.ok.inj encoded
        obtain ⟨-, -, bytes⟩ := frame_ok.mp framed
        constructor
        · intro ⟨_, same, decoded, _⟩
          obtain rfl := List.cons.inj same |>.1
          rw [bytes] at decoded
          exact heard.mp decoded
        · intro framable
          refine ⟨out, rfl, by rw [bytes]; exact heard.mpr framable, ?_⟩
          intro plan destination event
          rw [event] at relays
          obtain ⟨read, parsed, kept⟩ := addressed framable
          refine ⟨read, by rw [bytes]; exact parsed, ?_⟩
          cases relays with
          | routed routes => cases command <;> cases routes
          | flightPlan =>
              cases packed
              rw [kept]
              exact @parse_destinationText .atc |>.mpr trivial
  · cases operation

namespace Sample

/-- A pilot on an Aster listener and a classic one. -/
def mixedPilots : List Action :=
  [.register ⟨1⟩ peer .asterV1, .register ⟨2⟩ peer .classic] ++
  loginCall 0 ⟨1⟩ { login with protocolRevision := 1 } identity ++ [.ret 0] ++
  loginCall 1 ⟨2⟩ { login with callsign := otherCallsign } identity ++ [.ret 1]

/-- The first pilot asks everyone with a JSON object. -/
def asks (arguments : List String) : List Action :=
  mixedPilots ++ [.call 2 ⟨1⟩ (.query callsign .all (.raw "X") arguments)]

def colonFrame : WireFrame := ⟨Text.bytes "$CQAFR12:*:X:a:b", by decide⟩

def emptyFrame : WireFrame := ⟨Text.bytes "$CQAFR12:*:X:a:", by decide⟩

end Sample

set_option maxRecDepth 4000 in
theorem json_query_misheard :
    ¬ ∀ (config : CoreConfig) (w w' : World) (action : Action) (c : ConnectionId)
      (incoming : AsterProtocolV1.Incoming) (command : Command), (machine config).Reachable w →
      w.step config action = some w' → w.operation action = some (c, some command) →
      incoming.intoCommand = .ok command → command.packet ≠ none →
      ∀ delivery ∈ (w.committed config action).deliveries, ∀ r ∈ delivery.recipients, r ≠ c →
        ∀ context frames, ClassicProtocol.encode context delivery.event = .ok frames →
          command.HeardIn delivery.event frames := by
  intro all
  have trace := (machine Sample.config).trace_final (Sample.asks ["a:b"]) (by decide)
  have stepped : (((machine Sample.config).final (Sample.asks ["a:b"]) (by decide)).step Sample.config
      (.lock 2)).isSome = true := by decide
  have sent : ⟨[⟨2⟩], .query "AFR12" .all (.raw "X") ["a:b"]⟩ ∈
      (((machine Sample.config).final (Sample.asks ["a:b"]) (by decide)).committed Sample.config
        (.lock 2)).deliveries := by decide
  obtain ⟨out, same, decoded, -⟩ := all Sample.config _ _ (.lock 2) ⟨1⟩
    (.query 1 "AFR12" .all (.raw "X") ["a:b"]) (.query Sample.callsign .all (.raw "X") ["a:b"])
    trace.reachable (Option.some_get stepped).symm (by decide) (by decide) (by decide) _ sent ⟨2⟩
    (by decide) (by decide) ⟨⟨2⟩, none, ""⟩ [Sample.colonFrame] (by decide)
  obtain rfl := List.cons.inj same |>.1
  revert decoded
  decide

set_option maxRecDepth 4000 in
theorem heard_iff_framable_query :
    ∃ w w', (machine Sample.config).Trace (Sample.asks ["a", ""]) w ∧
      w.step Sample.config (.lock 2) = some w' ∧
      ∃ frames, ClassicProtocol.encode ⟨⟨2⟩, none, ""⟩ (.query "AFR12" .all (.raw "X") ["a", ""]) =
        .ok frames ∧
        Command.HeardIn (.query Sample.callsign .all (.raw "X") ["a", ""])
          (.query "AFR12" .all (.raw "X") ["a", ""]) frames := by
  have trace := (machine Sample.config).trace_final (Sample.asks ["a", ""]) (by decide)
  have stepped : (((machine Sample.config).final (Sample.asks ["a", ""]) (by decide)).step
      Sample.config (.lock 2)).isSome = true := by decide
  have sent : ⟨[⟨2⟩], .query "AFR12" .all (.raw "X") ["a", ""]⟩ ∈
      (((machine Sample.config).final (Sample.asks ["a", ""]) (by decide)).committed Sample.config
        (.lock 2)).deliveries := by decide
  have encoded : ClassicProtocol.encode ⟨⟨2⟩, none, ""⟩ (.query "AFR12" .all (.raw "X") ["a", ""]) =
      .ok [Sample.emptyFrame] := by decide
  exact ⟨_, _, trace, (Option.some_get stepped).symm, _, encoded,
    (heard_iff_framable Sample.config _ _ trace.reachable (.lock 2) ⟨1⟩
      (.query Sample.callsign .all (.raw "X") ["a", ""]) (Option.some_get stepped).symm (by decide)
      (by decide) _ sent ⟨2⟩ (by decide) (by decide) _ _ encoded).mpr (by decide)⟩

end AsterFsd
