import AsterFsd.Protocol.Framable

/-! # Flight plans on the classic wire

A flight plan is stored without the destination it was filed to and told with another one. What is read
from a frame is written and read back without loss; whether it fits a frame depends on the new
destination and on the spelling of the numbers.
-/

namespace AsterFsd

open ClassicProtocol

/-! ## Spelling -/

/-- A number as it is written again, without plus sign and leading zeros. -/
def Decimal.int32Spelling (text : String) : String := (Decimal.parseInt32 text).elim text toString

/-- A field of a flight plan as it is written again: the flight rules are one character, and the numbers
    are spelled anew. -/
def planFieldSpelling (index : Nat) (field : String) : String :=
  if index = 0 then String.ofList (field.toList.take 1)
  else if index ∈ [2, 4, 5, 8, 9, 10, 11] then Decimal.int32Spelling field
  else field

/-- The fields of a flight plan as they are written again; what follows the route is dropped. -/
def planSpelling (fields : List String) : List String := (fields.take 15).mapIdx planFieldSpelling

/-- The size of the line on which a filed plan is told to a destination of so many bytes. -/
def RawPacket.planSize (packet : RawPacket) (destination : Nat) : Nat :=
  2 + (1 + packet.source.utf8ByteSize) + (1 + destination) + lineSize (planSpelling packet.fields)

theorem getElem?_planSpelling (fields : List String) {i : Nat} (small : i < 15) :
    (planSpelling fields)[i]? = fields[i]?.map (planFieldSpelling i) := by
  rw [planSpelling, List.getElem?_mapIdx, List.getElem?_take_of_lt small]

/-- A plan is written as its fields were, spelled anew. -/
theorem FlightPlan.ReadFrom.spelling {plan : FlightPlan} {fields : List String}
    (read : plan.ReadFrom fields) : flightPlanFields plan = planSpelling fields := by
  have text : ∀ {i : Nat} {value : String}, fields[i]? = some value → i < 15 →
      planFieldSpelling i value = value → some value = (planSpelling fields)[i]? := by
    intro i value found small kept
    rw [getElem?_planSpelling fields small, found, Option.map_some, kept]
  have number : ∀ {i : Nat} {n : Int32}, fields[i]?.bind Decimal.parseInt32 = some n →
      i ∈ [2, 4, 5, 8, 9, 10, 11] → some (toString n) = (planSpelling fields)[i]? := by
    intro i n parsed listed
    obtain ⟨value, found, parsed⟩ := Option.bind_eq_some_iff.mp parsed
    have place : i ≠ 0 ∧ i < 15 := by
      revert listed
      simp only [List.mem_cons, List.not_mem_nil, or_false]
      omega
    rw [getElem?_planSpelling fields place.2, found, Option.map_some, planFieldSpelling,
      if_neg place.1, if_pos listed, Decimal.int32Spelling, parsed]
    rfl
  have rules : some (String.singleton plan.flightRules) = (planSpelling fields)[0]? := by
    obtain ⟨value, found, first⟩ := Option.bind_eq_some_iff.mp read.rules
    have one : value.toList.take 1 = [plan.flightRules] := by
      cases characters : value.toList with
      | nil =>
          rw [characters] at first
          cases first
      | cons c rest =>
          rw [characters] at first
          cases first
          rfl
    rw [getElem?_planSpelling fields (by decide), found, Option.map_some, planFieldSpelling,
      if_pos rfl, one]
    rfl
  apply List.ext_getElem?
  intro i
  match i with
  | 0 => exact rules
  | 1 => exact text read.aircraft (by decide) rfl
  | 2 => exact number read.cruiseSpeed (by decide)
  | 3 => exact text read.departure (by decide) rfl
  | 4 => exact number read.estimatedDeparture (by decide)
  | 5 => exact number read.actualDeparture (by decide)
  | 6 => exact text read.cruiseAltitude (by decide) rfl
  | 7 => exact text read.destination (by decide) rfl
  | 8 => exact number read.hoursEnroute (by decide)
  | 9 => exact number read.minutesEnroute (by decide)
  | 10 => exact number read.hoursFuel (by decide)
  | 11 => exact number read.minutesFuel (by decide)
  | 12 => exact text read.alternate (by decide) rfl
  | 13 => exact text read.remarks (by decide) rfl
  | 14 => exact text read.route (by decide) rfl
  | n + 15 =>
      have short : (planSpelling fields).length ≤ 15 := by
        rw [planSpelling, List.length_mapIdx]
        exact List.length_take_le _ _
      exact (List.getElem?_eq_none (short.trans (Nat.le_add_left 15 n))).symm

/-! ## Reading back -/

/-- The packet of a plan with a destination. -/
def FlightPlan.packet (plan : FlightPlan) (destination : String) : RawPacket :=
  ⟨.request, "FP", toString plan.callsign, destination, flightPlanFields plan⟩

theorem encode_flightPlan (plan : FlightPlan) (destination : Destination) (context : EncodeContext) :
    ClassicProtocol.encode context (.flightPlan plan destination) =
      (frame (plan.packet (destinationText destination))).map ([·]) := rfl

theorem encode_flightPlan_ok {plan : FlightPlan} {destination : Destination} {context : EncodeContext}
    {frames : List WireFrame}
    (encoded : ClassicProtocol.encode context (.flightPlan plan destination) = .ok frames) :
    ∃ out, frames = [out] ∧ out.bytes = (plan.packet (destinationText destination)).output := by
  rw [encode_flightPlan] at encoded
  cases framed : frame (plan.packet (destinationText destination)) with
  | error error =>
      rw [framed] at encoded
      cases encoded
  | ok out =>
      rw [framed] at encoded
      exact ⟨out, (Except.ok.inj encoded).symm, (frame_ok.mp framed).2.2⟩

private theorem planWorded : RawPacket.Worded .request "FP" :=
  ⟨.inl rfl, by decide, by decide, by decide, by decide⟩

/-- A plan whose texts are one field each is read back from its packet, whatever its destination. -/
theorem FlightPlan.Framable.decode {plan : FlightPlan} (framable : plan.Framable)
    {destination : String} (address : Colonless destination) :
    ClassicProtocol.decode (plan.packet destination).output = .ok (.flightPlan plan) := by
  have tokens : (plan.packet destination).Tokenized :=
    RawPacket.Worded.tokenized planWorded plan.callsign rfl address framable.fields
  have reads : (plan.packet destination).Reads (.flightPlan plan) :=
    .flightPlan rfl (Callsign.parse_toString plan.callsign) plan.readFrom
  unfold ClassicProtocol.decode
  rw [RawPacket.parse_output tokens]
  exact reads_decodePacket planWorded.notPosition reads

/-- What a frame is read as a plan from: a packet with the word for plans and the fields of the plan. -/
theorem decode_flightPlan_ok {bytes : List UInt8} {plan : FlightPlan}
    (decoded : ClassicProtocol.decode bytes = .ok (.flightPlan plan)) :
    ∃ packet, RawPacket.parse bytes = .ok packet ∧ packet.Tokenized ∧ packet.command = "FP" ∧
      Callsign.parse packet.source = .ok plan.callsign ∧ plan.ReadFrom packet.fields := by
  unfold ClassicProtocol.decode at decoded
  split at decoded
  · cases decoded
  · rename_i packet parsed
    have reads := decodePacket_reads decoded (.inl (by simp [Command.packet]))
    cases reads with
    | flightPlan word speaker fields =>
        exact ⟨packet, parsed, (RawPacket.parse_ok.mp parsed).1, word, speaker, fields⟩

/-- A plan that was read from a frame and is written to the controllers or to a client reads back as the
    same plan, and is written again with the same bytes. -/
theorem flightPlan_reads_back (bytes : List UInt8) (plan : FlightPlan)
    (decoded : ClassicProtocol.decode bytes = .ok (.flightPlan plan)) (destination : Destination)
    (told : destination = .atc ∨ ∃ requester, destination = .direct requester)
    (context : EncodeContext) (frames : List WireFrame)
    (encoded : ClassicProtocol.encode context (.flightPlan plan destination) = .ok frames) :
    ∃ out again, frames = [out] ∧ ClassicProtocol.decode out.bytes = .ok (.flightPlan again) ∧
      again = plan ∧
      ClassicProtocol.encode context (.flightPlan again destination) = .ok [out] := by
  obtain ⟨packet, -, tokens, -, -, fields⟩ := decode_flightPlan_ok decoded
  obtain ⟨out, rfl, written⟩ := encode_flightPlan_ok encoded
  have address : Colonless (destinationText destination) := by
    obtain rfl | ⟨requester, rfl⟩ := told
    · decide
    · exact requester.colonless
  refine ⟨out, plan, rfl, ?_, rfl, encoded⟩
  rw [written]
  exact (fields.framable tokens.fields).decode address

namespace Sample

/-- A plan with a plus sign, leading zeros, two letters of flight rules and a field too many. -/
def filedFrame : List UInt8 :=
  Text.bytes "$FPafr12:*A:IX:B738:+450:LFPG:0900:0905:FL350:EGLL:01:10:3:00:EGKK:déjà:DVR:more"

def filedPlan : FlightPlan where
  callsign := callsign
  flightRules := 'I'
  aircraft := "B738"
  cruiseSpeed := 450
  departure := "LFPG"
  estimatedDeparture := 900
  actualDeparture := 905
  cruiseAltitude := "FL350"
  destination := "EGLL"
  hoursEnroute := 1
  minutesEnroute := 10
  hoursFuel := 3
  minutesFuel := 0
  alternate := "EGKK"
  remarks := "déjà"
  route := "DVR"

theorem filedFrame_decoded : ClassicProtocol.decode filedFrame = .ok (.flightPlan filedPlan) := by
  decide +kernel

end Sample

theorem flightPlan_reads_back_filed :
    ∃ out again,
      ClassicProtocol.encode ⟨⟨2⟩, none, ""⟩ (.flightPlan Sample.filedPlan (.direct Sample.otherCallsign)) =
        .ok [out] ∧
      ClassicProtocol.decode out.bytes = .ok (.flightPlan again) ∧ again = Sample.filedPlan := by
  obtain ⟨frames, encoded⟩ : ∃ frames, ClassicProtocol.encode ⟨⟨2⟩, none, ""⟩
      (.flightPlan Sample.filedPlan (.direct Sample.otherCallsign)) = .ok frames := ⟨_, rfl⟩
  obtain ⟨out, again, rfl, back, same, -⟩ := flightPlan_reads_back Sample.filedFrame Sample.filedPlan
    Sample.filedFrame_decoded (.direct Sample.otherCallsign) (.inr ⟨_, rfl⟩) _ _ encoded
  exact ⟨out, again, encoded, back, same⟩

/-! ## Room for a plan -/

theorem FlightPlan.ReadFrom.unbroken {plan : FlightPlan} {fields : List String}
    (read : plan.ReadFrom fields) (lines : ∀ field ∈ fields, Text.Unbroken field) :
    ∀ field ∈ flightPlanFields plan, Text.Unbroken field := by
  have one : ∀ {i : Nat} {text : String}, fields[i]? = some text → Text.Unbroken text :=
    fun found => lines _ (List.mem_of_getElem? found)
  have number : ∀ i : Int32, Text.Unbroken (toString i) := fun i => (Decimal.short_int32 i).unbroken
  have first : Text.Unbroken (String.singleton plan.flightRules) := by
    obtain ⟨text, found, rules⟩ := Option.bind_eq_some_iff.mp read.rules
    have line := Text.unbroken_iff.mp (one found) plan.flightRules (List.mem_of_mem_head? rules)
    rw [Text.unbroken_iff, String.toList_singleton]
    intro c member
    rwa [List.mem_singleton.mp member]
  simp only [flightPlanFields, List.forall_mem_cons]
  exact ⟨first, one read.aircraft, number _, one read.departure, number _, number _,
    one read.cruiseAltitude, one read.destination, number _, number _, number _, number _,
    one read.alternate, one read.remarks, one read.route, List.forall_mem_nil _⟩

/-- A plan is told in a frame if its tokens fit one. -/
theorem encode_flightPlan_isOk {plan : FlightPlan} {destination : Destination}
    {context : EncodeContext} :
    (∃ frames, ClassicProtocol.encode context (.flightPlan plan destination) = .ok frames) ↔
      Carries CLASSIC_MAX_FRAME_BYTES
        (toString plan.callsign :: destinationText destination :: flightPlanFields plan) := by
  have carries : (∃ out, frame (plan.packet (destinationText destination)) = .ok out) ↔ _ :=
    commandFrame_isOk (.inl rfl) (by decide) rfl (by decide)
  rw [encode_flightPlan, ← carries]
  cases frame (plan.packet (destinationText destination)) with
  | error error => exact ⟨fun ⟨_, same⟩ => (nomatch same), fun ⟨_, same⟩ => (nomatch same)⟩
  | ok out => exact ⟨fun _ => ⟨out, rfl⟩, fun _ => ⟨[out], rfl⟩⟩

/-- A plan that was filed in a frame without line breaks can be told to the controllers, or to a client,
    exactly when the destination is one line and the line of the plan, with this destination and its fields
    spelled anew, is within the classic limit. -/
theorem flightPlan_tellable_iff (bytes : List UInt8) (packet : RawPacket) (plan : FlightPlan)
    (undelimited : bytes.any Text.isDelimiter = false) (parsed : RawPacket.parse bytes = .ok packet)
    (decoded : ClassicProtocol.decode bytes = .ok (.flightPlan plan)) (destination : Destination)
    (context : EncodeContext) :
    (∃ frames, ClassicProtocol.encode context (.flightPlan plan destination) = .ok frames) ↔
      Text.Unbroken (destinationText destination) ∧
        packet.planSize (destinationText destination).utf8ByteSize ≤ CLASSIC_MAX_FRAME_BYTES := by
  obtain ⟨packet', parsed', tokens, word, speaker, fields⟩ := decode_flightPlan_ok decoded
  obtain rfl : packet = packet' := Except.ok.inj (parsed.symm.trans parsed')
  have command := tokens.notPosition (by rw [word]; rfl)
  have written : bytes = packet.output :=
    (RawPacket.parse_ok.mp parsed).2.resolve_right fun compact => command.1 compact.1
  rw [written] at undelimited
  obtain ⟨-, lines⟩ := (RawPacket.any_command command (by rw [word]; decide)).mp undelimited
  obtain ⟨source, lines⟩ := List.forall_mem_cons.mp lines
  obtain ⟨-, lines⟩ := List.forall_mem_cons.mp lines
  have named : toString plan.callsign = toAsciiUppercase packet.source :=
    (Callsign.parse_ok.mp speaker).2
  have size : 2 + RawPacket.lineSize (toString plan.callsign :: destinationText destination ::
      flightPlanFields plan) = packet.planSize (destinationText destination).utf8ByteSize := by
    rw [RawPacket.lineSize_cons, RawPacket.lineSize_cons, named, toAsciiUppercase_size,
      fields.spelling, RawPacket.planSize]
    omega
  rw [encode_flightPlan_isOk]
  constructor
  · intro carries
    refine ⟨carries.unbroken _ (by simp), ?_⟩
    rw [← size]
    exact carries.fits
  · intro ⟨line, room⟩
    refine ⟨size ▸ room, ?_⟩
    simp only [List.forall_mem_cons]
    exact ⟨named ▸ unbroken_toAsciiUppercase.mpr source, line, fields.unbroken lines⟩

namespace Sample

/-- A plan with a route of 451 letters. -/
def longPlan : FlightPlan :=
  { filedPlan with remarks := "", route := String.ofList (List.replicate 451 'A') }

end Sample

/-- Filed without a destination the plan takes 511 bytes, and two more with that of the controllers. -/
theorem longPlan_refused :
    ¬ ∀ (bytes : List UInt8) (plan : FlightPlan), bytes.length ≤ CLASSIC_MAX_FRAME_BYTES →
      bytes.any Text.isDelimiter = false → ClassicProtocol.decode bytes = .ok (.flightPlan plan) →
      (∀ context, ∃ frames, ClassicProtocol.encode context (.flightPlan plan .atc) = .ok frames) ∧
      ∀ requester context, ∃ frames,
        ClassicProtocol.encode context (.flightPlan plan (.direct requester)) = .ok frames := by
  intro all
  have letters : ∀ c ∈ (String.ofList (List.replicate 451 'A')).toList, c = 'A' := by
    intro c member
    rw [String.toList_ofList] at member
    exact (List.mem_replicate.mp member).2
  have size : (String.ofList (List.replicate 451 'A')).utf8ByteSize = 451 := by
    rw [Text.utf8ByteSize_ofList, Text.byteSize_replicate]
    rfl
  have framable : Sample.longPlan.Framable := by
    refine ⟨by decide, ?_⟩
    simp only [List.forall_mem_cons]
    refine ⟨by decide, by decide, by decide, by decide, by decide, by decide, ?_, by simp⟩
    exact fun colon => absurd (letters ':' colon) (by decide)
  have lines : ∀ field ∈ flightPlanFields Sample.longPlan, Text.Unbroken field := by
    simp only [flightPlanFields, List.forall_mem_cons]
    refine ⟨by decide, by decide, by decide, by decide, by decide, by decide, by decide, by decide,
      by decide, by decide, by decide, by decide, by decide, by decide, ?_, by simp⟩
    refine Text.unbroken_iff.mpr fun c member => ?_
    rw [letters c member]
    decide
  have fields : RawPacket.lineSize (flightPlanFields Sample.longPlan) = 502 := by
    simp only [flightPlanFields, RawPacket.lineSize_cons]
    rw [show Sample.longPlan.route.utf8ByteSize = 451 from size]
    decide
  have length : (Sample.longPlan.packet "").output.length = 511 := by
    rw [RawPacket.length_output (.inl rfl) (by decide), RawPacket.lineSize_cons,
      RawPacket.lineSize_cons, FlightPlan.packet, fields]
    rfl
  have undelimited : (Sample.longPlan.packet "").output.any Text.isDelimiter = false := by
    refine (RawPacket.any_output (.inl rfl) (by decide)).mpr ⟨by decide, ?_⟩
    exact List.forall_mem_cons.mpr ⟨by decide, List.forall_mem_cons.mpr ⟨by decide, lines⟩⟩
  have told := (all _ Sample.longPlan (Nat.le_of_eq length) undelimited
    (framable.decode (show Colonless "" by decide))).1 ⟨⟨2⟩, none, ""⟩
  have room := (encode_flightPlan_isOk.mp told).fits
  rw [RawPacket.lineSize_cons, RawPacket.lineSize_cons, fields] at room
  revert room
  decide

/-- The filed plan is told to the controllers. -/
theorem flightPlan_tellable_iff_filed :
    ∃ frames, ClassicProtocol.encode ⟨⟨2⟩, none, ""⟩ (.flightPlan Sample.filedPlan .atc) =
      .ok frames := by
  obtain ⟨packet, parsed, -⟩ := decode_flightPlan_ok Sample.filedFrame_decoded
  have size : ((RawPacket.parse Sample.filedFrame).toOption.map (·.planSize 2)).any
      (· ≤ CLASSIC_MAX_FRAME_BYTES) = true := by decide +kernel
  rw [parsed] at size
  have room : packet.planSize 2 ≤ CLASSIC_MAX_FRAME_BYTES := of_decide_eq_true size
  exact (flightPlan_tellable_iff Sample.filedFrame packet Sample.filedPlan (by decide +kernel) parsed
    Sample.filedFrame_decoded .atc ⟨⟨2⟩, none, ""⟩).mpr ⟨by decide, room⟩

end AsterFsd
