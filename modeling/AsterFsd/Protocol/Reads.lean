import AsterFsd.Protocol.Addresses
import AsterFsd.Protocol.Tokens
import AsterFsd.Protocol.Vatsim

/-! # Reading the commands that others are told

One constructor for each command that the network passes on says which packets are read as it. Decoding
computes that relation.
-/

namespace AsterFsd

open ClassicProtocol

/-! ## The packet of a command -/

/-- The packet in which a classic client is told a command of another. -/
def Command.packet : Command → Option RawPacket
  | .text source destination message =>
      some ⟨.client, "TM", toString source, destinationText destination, [message]⟩
  | .flightPlan plan =>
      some ⟨.request, "FP", toString plan.callsign, destinationText .atc, flightPlanFields plan⟩
  | .query source destination kind arguments =>
      some ⟨.request, "CQ", toString source, destinationText destination,
        queryKindText kind :: arguments⟩
  | .response source destination kind arguments =>
      some ⟨.request, "CR", toString source, destinationText destination,
        queryKindText kind :: arguments⟩
  | .ping source destination payload =>
      some ⟨.request, "PI", toString source, destinationText destination, [payload]⟩
  | .pong source destination payload =>
      some ⟨.request, "PO", toString source, destinationText destination, [payload]⟩
  | .handoff source target kind fields =>
      some ⟨.request, handoffCommand kind, toString source, toString target, fields⟩
  | .clientData source target kind fields =>
      some ⟨clientDataPacketKind kind, clientDataCommand kind, toString source, toString target,
        fields⟩
  | .noop _ | .identify _ | .login _ | .logoff _ | .position _ | .weatherRequest .. | .kill .. => none

/-- Neither told to others nor a position. -/
def Command.Unshared (command : Command) : Prop :=
  command.packet = none ∧ ∀ position, command ≠ .position position

/-! ## Reading -/

/-- A flight plan is read from the fields; what follows the route is ignored. -/
structure FlightPlan.ReadFrom (plan : FlightPlan) (fields : List String) : Prop where
  rules : (fields[0]?.bind (·.toList.head?)) = some plan.flightRules
  aircraft : fields[1]? = some plan.aircraft
  cruiseSpeed : fields[2]?.bind Decimal.parseInt32 = some plan.cruiseSpeed
  departure : fields[3]? = some plan.departure
  estimatedDeparture : fields[4]?.bind Decimal.parseInt32 = some plan.estimatedDeparture
  actualDeparture : fields[5]?.bind Decimal.parseInt32 = some plan.actualDeparture
  cruiseAltitude : fields[6]? = some plan.cruiseAltitude
  destination : fields[7]? = some plan.destination
  hoursEnroute : fields[8]?.bind Decimal.parseInt32 = some plan.hoursEnroute
  minutesEnroute : fields[9]?.bind Decimal.parseInt32 = some plan.minutesEnroute
  hoursFuel : fields[10]?.bind Decimal.parseInt32 = some plan.hoursFuel
  minutesFuel : fields[11]?.bind Decimal.parseInt32 = some plan.minutesFuel
  alternate : fields[12]? = some plan.alternate
  remarks : fields[13]? = some plan.remarks
  route : fields[14]? = some plan.route

/-- The source that the command states is that of the packet. -/
def RawPacket.Speaks (packet : RawPacket) (command : Command) : Prop :=
  ∃ source, command.source = some source ∧ Callsign.parse packet.source = .ok source

/-- The source of a command of one line is of one line. -/
theorem RawPacket.Speaks.unbroken {packet : RawPacket} {command : Command} {source : Callsign}
    (speaks : packet.Speaks command) (clean : packet.output.any Text.isDelimiter = false)
    (states : command.source = some source) : Text.Unbroken (toString source) := by
  obtain ⟨speaker, stated, spoken⟩ := speaks
  obtain rfl : source = speaker := Option.some.inj (states.symm.trans stated)
  rw [(Callsign.parse_ok.mp spoken).2, unbroken_toAsciiUppercase]
  exact RawPacket.unbroken_source clean

/-- The packet is read as the command. -/
inductive RawPacket.Reads (packet : RawPacket) : Command → Prop where
  | text {source : Callsign} {destination : Destination} (word : packet.command = "TM")
      (payload : packet.fields ≠ []) (speaker : Callsign.parse packet.source = .ok source)
      (address : Destination.parse packet.destination = .ok destination) :
      Reads packet (.text source destination (joined packet))
  | flightPlan {plan : FlightPlan} (word : packet.command = "FP")
      (speaker : Callsign.parse packet.source = .ok plan.callsign)
      (fields : plan.ReadFrom packet.fields) : Reads packet (.flightPlan plan)
  | query {source : Callsign} {destination : Destination} {kind : String} {arguments : List String}
      (word : packet.command = "CQ") (payload : packet.fields = kind :: arguments)
      (speaker : Callsign.parse packet.source = .ok source)
      (address : Destination.parse packet.destination = .ok destination) :
      Reads packet (.query source destination (queryKind kind) arguments)
  | response {source target : Callsign} {kind : String} {arguments : List String}
      (word : packet.command = "CR") (payload : packet.fields = kind :: arguments)
      (answers : arguments ≠ []) (speaker : Callsign.parse packet.source = .ok source)
      (address : Destination.parse packet.destination = .ok (.direct target)) :
      Reads packet (.response source (.direct target) (queryKind kind) arguments)
  | ping {source : Callsign} {destination : Destination} (word : packet.command = "PI")
      (speaker : Callsign.parse packet.source = .ok source)
      (address : Destination.parse packet.destination = .ok destination) :
      Reads packet (.ping source destination (joined packet))
  | pong {source : Callsign} {destination : Destination} (word : packet.command = "PO")
      (speaker : Callsign.parse packet.source = .ok source)
      (address : Destination.parse packet.destination = .ok destination) :
      Reads packet (.pong source destination (joined packet))
  | handoff {source target : Callsign} {kind : HandoffKind} (word : packet.command = handoffCommand kind)
      (payload : packet.fields ≠ []) (speaker : Callsign.parse packet.source = .ok source)
      (address : Destination.parse packet.destination = .ok (.direct target)) :
      Reads packet (.handoff source target kind packet.fields)
  | clientData {source target : Callsign} {kind : ClientDataKind}
      (word : packet.command = clientDataCommand kind)
      (payload : kind = .communicationReply → packet.fields ≠ [])
      (speaker : Callsign.parse packet.source = .ok source)
      (address : Destination.parse packet.destination = .ok (.direct target)) :
      Reads packet (.clientData source target kind packet.fields)

namespace ClassicProtocol

variable {packet : RawPacket} {command : Command}

theorem unwrap_ok {α : Type} {value : Option α} {error : ProtocolError} {a : α} :
    unwrap value error = .ok a ↔ value = some a := by
  cases value <;> simp [unwrap]

theorem parseI32_ok {value name : String} {i : Int32} :
    parseI32 value name = .ok i ↔ Decimal.parseInt32 value = some i := unwrap_ok

theorem requireFields_isOk {minimum : Nat} :
    (∃ passed, requireFields packet minimum = .ok passed) ↔ minimum ≤ packet.fields.length :=
  ⟨fun ⟨(), passed⟩ => requireFields_ok.mp passed, fun room => ⟨(), requireFields_ok.mpr room⟩⟩

private theorem nonempty_iff {l : List String} : 1 ≤ l.length ↔ l ≠ [] := by
  rw [Nat.one_le_iff_ne_zero, ne_eq, List.length_eq_zero_iff]

/-! ## Each decoder -/

theorem decodeText_ok : decodeText packet = .ok command ↔
    packet.fields ≠ [] ∧ ∃ source destination, Callsign.parse packet.source = .ok source ∧
      Destination.parse packet.destination = .ok destination ∧
        command = .text source destination (joined packet) := by
  simp only [decodeText, bind_ok, requireFields_isOk, callsign_ok, destination_ok, pure_ok,
    nonempty_iff, eq_comm (b := command), exists_and_left, exists_and_right]

theorem decodePingPong_ok : decodePingPong packet = .ok command ↔
    ∃ source destination, Callsign.parse packet.source = .ok source ∧
      Destination.parse packet.destination = .ok destination ∧
        command = (if packet.command = "PI" then .ping source destination (joined packet)
          else .pong source destination (joined packet)) := by
  simp only [decodePingPong, bind_ok, callsign_ok, destination_ok]
  split <;> simp only [pure_ok, eq_comm (b := command), exists_and_left]

theorem decodeQuery_ok (word : packet.command ≠ "CR") : decodeQueryResponse packet = .ok command ↔
    ∃ kind arguments source destination, packet.fields = kind :: arguments ∧
      Callsign.parse packet.source = .ok source ∧
        Destination.parse packet.destination = .ok destination ∧
          command = .query source destination (queryKind kind) arguments := by
  simp only [decodeQueryResponse, word, ↓reduceIte, bind_ok, requireFields_isOk, callsign_ok,
    destination_ok, exists_and_right]
  cases packet.fields with
  | nil => simp
  | cons kind arguments =>
      simp only [List.length_cons, pure_ok, eq_comm (b := command), exists_and_left]
      grind

theorem decodeResponse_ok (word : packet.command = "CR") : decodeQueryResponse packet = .ok command ↔
    ∃ kind arguments source target, packet.fields = kind :: arguments ∧ arguments ≠ [] ∧
      Callsign.parse packet.source = .ok source ∧
        Destination.parse packet.destination = .ok (.direct target) ∧
          command = .response source (.direct target) (queryKind kind) arguments := by
  simp only [decodeQueryResponse, word, ↓reduceIte, bind_ok, requireFields_isOk, callsign_ok,
    directDestination_ok, exists_and_right]
  cases packet.fields with
  | nil => simp
  | cons kind arguments =>
      simp only [List.length_cons, pure_ok, eq_comm (b := command), exists_and_left]
      have longer : 2 ≤ arguments.length + 1 ↔ arguments ≠ [] := by
        rw [← nonempty_iff]
        omega
      rw [longer]
      grind

theorem decodeHandoff_ok (word : packet.command = "HO" ∨ packet.command = "HA") :
    decodeDirectClientCommand packet = .ok command ↔
      packet.fields ≠ [] ∧ ∃ source target, Callsign.parse packet.source = .ok source ∧
        Destination.parse packet.destination = .ok (.direct target) ∧
          command = .handoff source target (if packet.command = "HO" then .request else .accept)
            packet.fields := by
  simp only [decodeDirectClientCommand, if_pos word, bind_ok, requireFields_isOk, callsign_ok,
    directCallsign_ok, pure_ok, nonempty_iff, eq_comm (b := command), exists_and_left, exists_and_right]

theorem decodeClientData_ok {kind : ClientDataKind} (word : packet.command = clientDataCommand kind) :
    decodeDirectClientCommand packet = .ok command ↔
      (kind = .communicationReply → packet.fields ≠ []) ∧ ∃ source target,
        Callsign.parse packet.source = .ok source ∧
          Destination.parse packet.destination = .ok (.direct target) ∧
            command = .clientData source target kind packet.fields := by
  cases kind <;>
    simp [decodeDirectClientCommand, word, clientDataCommand, bind_ok, requireFields_isOk,
      callsign_ok, directCallsign_ok, pure_ok, nonempty_iff, eq_comm (b := command), -bind_pure_comp]

theorem decodeFlightPlan_ok : decodeFlightPlan packet = .ok command ↔
    ∃ plan : FlightPlan, Callsign.parse packet.source = .ok plan.callsign ∧
      plan.ReadFrom packet.fields ∧ command = .flightPlan plan := by
  unfold decodeFlightPlan
  split
  · rename_i short
    refine ⟨fun decoded => (nomatch decoded), fun ⟨plan, _, fields, _⟩ => ?_⟩
    have last := fields.route
    rw [List.getElem?_eq_none (by omega)] at last
    cases last
  · rename_i short
    have present : ∀ i, (small : i < 15) → packet.fields[i]? = some packet.fields[i] :=
      fun i small => List.getElem?_eq_getElem (by omega)
    simp only [bind_ok, callsign_ok, unwrap_ok, parseI32_ok, pure_ok]
    constructor
    · rintro ⟨callsign, speaker, rules, one, cruise, two, estimated, three, actual, four, hours, five,
        minutes, six, hoursFuel, seven, minutesFuel, eight, rfl⟩
      refine ⟨_, speaker, ⟨?_, ?_, ?_, ?_, ?_, ?_, ?_, ?_, ?_, ?_, ?_, ?_, ?_, ?_, ?_⟩, rfl⟩
      all_goals first
        | (rw [present _ (by decide)]; assumption)
        | exact present _ (by decide)
    · intro ⟨plan, speaker, fields, same⟩
      obtain ⟨rules, aircraft, cruiseSpeed, departure, estimated, actual, altitude, destination,
        hours, minutes, hoursFuel, minutesFuel, alternate, remarks, route⟩ := fields
      simp only [present, Nat.reduceLT, Option.bind_some] at rules cruiseSpeed estimated actual
      simp only [present, Nat.reduceLT, Option.bind_some] at hours minutes hoursFuel minutesFuel
      simp only [present, Nat.reduceLT, Option.some.injEq] at aircraft departure altitude destination
      simp only [present, Nat.reduceLT, Option.some.injEq] at alternate remarks route
      refine ⟨_, speaker, _, rules, _, cruiseSpeed, _, estimated, _, actual, _, hours, _, minutes, _,
        hoursFuel, _, minutesFuel, ?_⟩
      rw [same, aircraft, departure, altitude, destination, alternate, remarks, route]

/-! ## Packets -/

/-- The commands that are told to others, apart from flight plans, with the family that they belong
    to. -/
def relayFamily (command : String) : Option RawPacketKind :=
  if command ∈ ["TM", "SB", "PC"] then some .client
  else if command ∈ ["CQ", "CR", "HO", "HA", "C?", "CI", "PI", "PO"] then some .request
  else none

theorem decodePosition_kind (decoded : decodePosition packet = .ok command) :
    (packet.kind = .pilotPosition ∧ ∃ pilot, command = .position (.pilot pilot)) ∨
      (packet.kind = .atcPosition ∧ ∃ atc, command = .position (.atc atc)) := by
  simp only [decodePosition, bind_ok] at decoded
  obtain ⟨_, _, decoded⟩ := decoded
  split at decoded
  · rename_i kind
    split at decoded
    · cases decoded
    · simp only [bind_ok, pure_ok] at decoded
      obtain ⟨_, _, _, _, _, _, _, _, _, _, _, _, _, _, _, _, _, _, rfl⟩ := decoded
      exact .inl ⟨kind, _, rfl⟩
  · rename_i kind
    split at decoded
    · cases decoded
    · simp only [bind_ok, pure_ok] at decoded
      obtain ⟨_, _, _, _, _, _, _, _, _, _, _, _, _, _, rfl⟩ := decoded
      exact .inr ⟨kind, _, rfl⟩
  all_goals cases decoded

private theorem decodePosition_speaks (decoded : decodePosition packet = .ok command) :
    packet.Speaks command := by
  simp only [decodePosition, bind_ok, callsign_ok] at decoded
  obtain ⟨source, speaker, decoded⟩ := decoded
  split at decoded
  · split at decoded
    · cases decoded
    · simp only [bind_ok, pure_ok] at decoded
      obtain ⟨_, _, _, _, _, _, _, _, _, _, _, _, _, _, _, _, _, _, rfl⟩ := decoded
      exact ⟨source, rfl, speaker⟩
  · split at decoded
    · cases decoded
    · simp only [bind_ok, pure_ok] at decoded
      obtain ⟨_, _, _, _, _, _, _, _, _, _, _, _, _, _, rfl⟩ := decoded
      exact ⟨source, rfl, speaker⟩
  all_goals cases decoded

private theorem decodeWeather_unshared (decoded : decodeWeather packet = .ok command) :
    command.Unshared ∧ packet.Speaks command := by
  simp only [decodeWeather, bind_ok, callsign_ok] at decoded
  obtain ⟨_, _, source, speaker, decoded⟩ := decoded
  split at decoded
  · cases decoded
  split at decoded
  · obtain rfl := pure_ok.mp decoded
    exact ⟨⟨rfl, by simp⟩, source, rfl, speaker⟩
  split at decoded
  · obtain rfl := pure_ok.mp decoded
    exact ⟨⟨rfl, by simp⟩, source, rfl, speaker⟩
  split at decoded <;>
    (obtain rfl := pure_ok.mp decoded; exact ⟨⟨rfl, by simp⟩, source, rfl, speaker⟩)

private theorem decodeLogin_unshared (decoded : decodeLogin packet = .ok command) :
    command.Unshared ∧ packet.Speaks command := by
  unfold decodeLogin at decoded
  split at decoded
  · split at decoded
    · cases decoded
    · simp only [bind_ok, pure_ok, callsign_ok] at decoded
      obtain ⟨source, speaker, _, _, _, _, _, _, _, _, _, _, _, _, _, _, rfl⟩ := decoded
      exact ⟨⟨rfl, by simp⟩, source, rfl, speaker⟩
  split at decoded
  · split at decoded
    · cases decoded
    · simp only [bind_ok, pure_ok, callsign_ok] at decoded
      obtain ⟨source, speaker, _, _, _, _, _, _, _, _, _, _, _, _, _, _, _, _, _, _, rfl⟩ := decoded
      exact ⟨⟨rfl, by simp⟩, source, rfl, speaker⟩
  · cases decoded

private theorem decodeKill_unshared (decoded : decodeKill packet = .ok command) :
    command.Unshared ∧ packet.Speaks command := by
  simp only [decodeKill, bind_ok, pure_ok, callsign_ok] at decoded
  obtain ⟨_, _, source, speaker, _, _, rfl⟩ := decoded
  exact ⟨⟨rfl, by simp⟩, source, rfl, speaker⟩

/-- A packet is a position, or it is read as a command that others are told, or others have no part in
    its command. -/
theorem decodePacket_cases (decoded : decodePacket packet = .ok command) :
    ((packet.kind = .pilotPosition ∨ packet.kind = .atcPosition) ∧
        decodePosition packet = .ok command) ∨
      packet.Reads command ∨
      ((command.Unshared ∧ packet.Speaks command) ∧ relayFamily packet.command = none) := by
  unfold decodePacket at decoded
  split at decoded
  · exact .inl ⟨‹_›, decoded⟩
  refine .inr ?_
  split at decoded
  · rename_i word
    refine .inl ?_
    by_cases response : packet.command = "CR"
    · obtain ⟨kind, arguments, source, target, payload, answers, speaker, address, rfl⟩ :=
        (decodeResponse_ok response).mp decoded
      exact .response response payload answers speaker address
    · obtain ⟨kind, arguments, source, destination, payload, speaker, address, rfl⟩ :=
        (decodeQuery_ok response).mp decoded
      exact .query (by simpa [response] using word) payload speaker address
  split at decoded
  · rename_i word
    refine .inr ⟨decodeWeather_unshared decoded, ?_⟩
    simp only [List.mem_cons, List.not_mem_nil, or_false] at word
    cases word with
    | inl word | inr word => rw [word]; decide
  split at decoded
  · rename_i word
    refine .inl ?_
    have data : ∀ kind : ClientDataKind, packet.command = clientDataCommand kind →
        packet.Reads command := by
      intro kind word
      obtain ⟨payload, source, target, speaker, address, rfl⟩ := (decodeClientData_ok word).mp decoded
      exact .clientData word payload speaker address
    have handoff : ∀ kind : HandoffKind, packet.command = handoffCommand kind →
        packet.Reads command := by
      intro kind word
      have either : packet.command = "HO" ∨ packet.command = "HA" := by
        cases kind
        · exact .inl word
        · exact .inr word
      obtain ⟨payload, source, target, speaker, address, rfl⟩ := (decodeHandoff_ok either).mp decoded
      have same : (if packet.command = "HO" then HandoffKind.request else .accept) = kind := by
        cases kind <;> simp [word, handoffCommand]
      rw [same]
      exact .handoff word payload speaker address
    simp only [List.mem_cons, List.not_mem_nil, or_false] at word
    obtain word | word | word | word | word | word := word
    · exact handoff .request word
    · exact handoff .accept word
    · exact data .squawkBox word
    · exact data .proController word
    · exact data .communicationRequest word
    · exact data .communicationReply word
  split at decoded
  · rename_i word
    refine .inr ⟨decodeLogin_unshared decoded, ?_⟩
    simp only [List.mem_cons, List.not_mem_nil, or_false] at word
    cases word with
    | inl word | inr word => rw [word]; decide
  split at decoded
  · rename_i word
    refine .inr ⟨?_, ?_⟩
    · cases speaker : callsign packet.source .invalidSource with
      | error error => rw [speaker] at decoded; cases decoded
      | ok source =>
          rw [speaker] at decoded
          cases decoded
          exact ⟨⟨rfl, by simp⟩, source, rfl, callsign_ok.mp speaker⟩
    · simp only [List.mem_cons, List.not_mem_nil, or_false] at word
      cases word with
      | inl word | inr word => rw [word]; decide
  split at decoded
  · obtain ⟨payload, source, destination, speaker, address, rfl⟩ := decodeText_ok.mp decoded
    exact .inl (.text ‹_› payload speaker address)
  split at decoded
  · obtain ⟨plan, speaker, fields, rfl⟩ := decodeFlightPlan_ok.mp decoded
    exact .inl (.flightPlan ‹_› speaker fields)
  split at decoded
  · rename_i word
    obtain ⟨source, destination, speaker, address, rfl⟩ := decodePingPong_ok.mp decoded
    refine .inl ?_
    by_cases ping : packet.command = "PI"
    · rw [if_pos ping]
      exact .ping ping speaker address
    · rw [if_neg ping]
      exact .pong (by simpa [ping] using word) speaker address
  split at decoded
  · rename_i word
    refine .inr ⟨decodeKill_unshared decoded, ?_⟩
    rw [word]
    decide
  · cases decoded

/-- A packet that decodes as a command which others are told, or that has one of its words, is read as
    that command. -/
theorem decodePacket_reads (decoded : decodePacket packet = .ok command)
    (told : command.packet ≠ none ∨
      (packet.kind ≠ .pilotPosition ∧ packet.kind ≠ .atcPosition) ∧
        relayFamily packet.command ≠ none) : packet.Reads command := by
  obtain ⟨kind, position⟩ | reads | ⟨⟨unshared, -⟩, wordless⟩ := decodePacket_cases decoded
  · have untold : command.packet = none := by
      obtain ⟨-, _, rfl⟩ | ⟨-, _, rfl⟩ := decodePosition_kind position <;> rfl
    tauto
  · exact reads
  · have untold := unshared.1
    tauto

/-- Only the packet of a position is read as one. -/
theorem decodePacket_position {position : Position}
    (decoded : decodePacket packet = .ok (.position position)) :
    (packet.kind = .pilotPosition ∨ packet.kind = .atcPosition) ∧
      decodePosition packet = .ok (.position position) := by
  obtain found | reads | ⟨⟨unshared, -⟩, -⟩ := decodePacket_cases decoded
  · exact found
  · cases reads
  · exact absurd rfl (unshared.2 position)

/-- Every command states the source of its packet. -/
theorem decodePacket_speaks (decoded : decodePacket packet = .ok command) : packet.Speaks command := by
  obtain ⟨-, position⟩ | reads | ⟨⟨-, speaks⟩, -⟩ := decodePacket_cases decoded
  · exact decodePosition_speaks position
  · cases reads <;> exact ⟨_, rfl, ‹_›⟩
  · exact speaks

/-- The source of a command that was sent in one line is of one line. -/
theorem decode_unbroken {frame : List UInt8} {source : Callsign}
    (clean : frame.any Text.isDelimiter = false) (decoded : decode frame = .ok command)
    (states : command.source = some source) : Text.Unbroken (toString source) := by
  unfold decode at decoded
  split at decoded
  · cases decoded
  · rename_i packet parsed
    exact (decodePacket_speaks decoded).unbroken (RawPacket.parse_clean clean parsed) states

/-- Which decoder a word belongs to. -/
private theorem decodePacket_word (family : packet.kind ≠ .pilotPosition ∧ packet.kind ≠ .atcPosition) :
    (packet.command = "TM" → decodePacket packet = decodeText packet) ∧
    (packet.command = "FP" → decodePacket packet = decodeFlightPlan packet) ∧
    (packet.command = "CQ" ∨ packet.command = "CR" →
      decodePacket packet = decodeQueryResponse packet) ∧
    (packet.command = "PI" ∨ packet.command = "PO" → decodePacket packet = decodePingPong packet) ∧
    (packet.command ∈ ["HO", "HA", "SB", "PC", "C?", "CI"] →
      decodePacket packet = decodeDirectClientCommand packet) := by
  have other : ¬ (packet.kind = .pilotPosition ∨ packet.kind = .atcPosition) := by tauto
  unfold decodePacket
  rw [if_neg other]
  refine ⟨fun word => by simp [word], fun word => by simp [word], ?_, ?_, ?_⟩
  · intro word
    cases word with
    | inl word | inr word => simp [word]
  · intro word
    cases word with
    | inl word | inr word => simp [word]
  · intro word
    simp only [List.mem_cons, List.not_mem_nil, or_false] at word
    rcases word with word | word | word | word | word | word <;> simp [word]

theorem reads_decodePacket (family : packet.kind ≠ .pilotPosition ∧ packet.kind ≠ .atcPosition)
    (reads : packet.Reads command) : decodePacket packet = .ok command := by
  obtain ⟨text, flightPlan, query, pingPong, direct⟩ := decodePacket_word family
  cases reads with
  | text word payload speaker address =>
      rw [text word]
      exact decodeText_ok.mpr ⟨payload, _, _, speaker, address, rfl⟩
  | flightPlan word speaker fields =>
      rw [flightPlan word]
      exact decodeFlightPlan_ok.mpr ⟨_, speaker, fields, rfl⟩
  | query word payload speaker address =>
      rw [query (.inl word)]
      exact (decodeQuery_ok (by rw [word]; decide)).mpr ⟨_, _, _, _, payload, speaker, address, rfl⟩
  | response word payload answers speaker address =>
      rw [query (.inr word)]
      exact (decodeResponse_ok word).mpr ⟨_, _, _, _, payload, answers, speaker, address, rfl⟩
  | ping word speaker address =>
      rw [pingPong (.inl word)]
      exact decodePingPong_ok.mpr ⟨_, _, speaker, address, by rw [if_pos word]⟩
  | pong word speaker address =>
      rw [pingPong (.inr word)]
      exact decodePingPong_ok.mpr ⟨_, _, speaker, address, by rw [if_neg (by rw [word]; decide)]⟩
  | @handoff source target kind word payload speaker address =>
      cases kind with
      | request =>
          rw [direct (by rw [word]; decide)]
          exact (decodeHandoff_ok (.inl word)).mpr
            ⟨payload, _, _, speaker, address, by rw [word]; rfl⟩
      | accept =>
          rw [direct (by rw [word]; decide)]
          exact (decodeHandoff_ok (.inr word)).mpr
            ⟨payload, _, _, speaker, address, by rw [word]; rfl⟩
  | @clientData source target kind word payload speaker address =>
      rw [direct (by rw [word]; cases kind <;> decide)]
      exact (decodeClientData_ok word).mpr ⟨payload, _, _, speaker, address, rfl⟩

end ClassicProtocol

/-! ## Identifications -/

namespace VatsimProtocol

theorem decodeIdentification_speaks {packet : RawPacket} {command : Command}
    (decoded : decodeIdentification packet = .ok command) : packet.Speaks command := by
  unfold decodeIdentification at decoded
  repeat' split at decoded
  all_goals cases decoded
  exact ⟨_, rfl, ‹_›⟩

/-- The source of a command that was sent in one line is of one line in this dialect, too. -/
theorem decode_unbroken {frame : List UInt8} {source : Callsign} {command : Command}
    (clean : frame.any Text.isDelimiter = false) (decoded : decode frame = .ok command)
    (states : command.source = some source) : Text.Unbroken (toString source) := by
  unfold decode at decoded
  split at decoded
  · cases decoded
  · rename_i packet parsed
    split at decoded
    · exact ClassicProtocol.decode_unbroken clean decoded states
    · exact (decodeIdentification_speaks decoded).unbroken
        (RawPacket.parse_clean clean parsed) states

end VatsimProtocol

end AsterFsd
