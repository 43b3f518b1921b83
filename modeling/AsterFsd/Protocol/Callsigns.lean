import AsterFsd.Protocol.AsterObjects
import AsterFsd.Protocol.Reads

/-! # Callsigns as tokens

A callsign is a source or a destination in every layout of a packet. None of its characters is special
to the tokenizer, so the packet reads back as it was written; but a callsign may break the line, and
then the packet is not written at all.
-/

namespace AsterFsd

/-! ## Packets that come back -/

namespace RawPacket

/-- Under any sufficient limit the packet is written, and what is written reads as the packet. -/
def RoundTrips (packet : RawPacket) : Prop :=
  ∃ bytes, (∀ limit, bytes.length ≤ limit → packet.encode limit = .ok bytes) ∧
    parse bytes = .ok packet

/-- A packet with tokens is of one line when each of its tokens is. -/
theorem any_tokens {packet : RawPacket} (tokens : packet.Tokenized) :
    packet.output.any Text.isDelimiter = false ↔
      Text.Unbroken packet.command ∧ Text.Unbroken packet.source ∧
        Text.Unbroken packet.destination ∧ ∀ field ∈ packet.fields, Text.Unbroken field := by
  have colon : Text.isDelimiter ':'.toUInt8 = false := by decide
  have none_ : Text.Unbroken "" := by decide
  have shape := tokens.shape
  rw [any_output_head]
  obtain ⟨kind, command, source, destination, fields⟩ := packet
  cases kind with
  | pilotPosition =>
      obtain rfl : destination = "" := (shape : PositionTokens _).destination
      simp only [head, List.any_append, List.any_cons, Bool.or_eq_false_iff, Text.any_delimiter_bytes,
        colon, none_, true_and, and_assoc]
  | atcPosition =>
      obtain rfl : destination = "" := (shape : PositionTokens _).destination
      obtain rfl : command = "" := (shape : PositionTokens _).command
      simp only [head, Text.any_delimiter_bytes, none_, true_and]
  | _ =>
      by_cases swapped : command = "DI"
      · simp only [head, swapped, if_true, List.any_append, List.any_cons, Bool.or_eq_false_iff,
          Text.any_delimiter_bytes, colon, true_and]
        tauto
      · simp only [head, swapped, if_false, List.any_append, List.any_cons, Bool.or_eq_false_iff,
          Text.any_delimiter_bytes, colon, true_and, and_assoc]

theorem roundTrips_iff {packet : RawPacket} (tokens : packet.Tokenized) :
    packet.RoundTrips ↔ packet.output.any Text.isDelimiter = false := by
  constructor
  · rintro ⟨bytes, written, -⟩
    exact (encode_ok.mp (written bytes.length le_rfl)).2.1
  · intro clean
    exact ⟨packet.output, fun limit room => encode_ok.mpr ⟨room, clean, rfl⟩, parse_output tokens⟩

end RawPacket

/-! ## Callsigns in every layout -/

/-- The word of a command packet: two ASCII characters, no colon and no line break. -/
structure CommandWord (word : String) : Prop where
  length : word.toList.length = 2
  ascii : isAscii word = true
  colonless : ':' ∉ word.toList
  unbroken : Text.Unbroken word

/-- Fields of a payload without a colon and without a line break. -/
def PlainFields (fields : List String) : Prop :=
  ∀ field ∈ fields, ':' ∉ field.toList ∧ Text.Unbroken field

/-- The packets of the three layouts whose source is a callsign. -/
inductive SentBy (source : Callsign) : RawPacket → Prop where
  | command {kind : RawPacketKind} {word : String} {fields : List String} (destination : Callsign)
      (notPosition : kind ≠ .pilotPosition ∧ kind ≠ .atcPosition) (command : CommandWord word)
      (plain : PlainFields fields) :
      SentBy source ⟨kind, word, toString source, toString destination, fields⟩
  | pilot {mode : String} {fields : List String} (known : mode = "N" ∨ mode = "S" ∨ mode = "Y")
      (plain : PlainFields fields) :
      SentBy source ⟨.pilotPosition, mode, toString source, "", fields⟩
  | atc {fields : List String} (plain : PlainFields fields) :
      SentBy source ⟨.atcPosition, "", toString source, "", fields⟩

theorem Callsign.nonempty (callsign : Callsign) : toString callsign ≠ "" := by
  intro none_
  have long := callsign.valid.length.1
  rw [show callsign.text = "" from none_] at long
  exact absurd long (by decide)

theorem CommandWord.tokens {source destination : Callsign} {kind : RawPacketKind} {word : String}
    {fields : List String} (command : CommandWord word) :
    RawPacket.CommandTokens ⟨kind, word, toString source, toString destination, fields⟩ := by
  have first : isAscii (RawPacket.firstIdentifier
      ⟨kind, word, toString source, toString destination, fields⟩) = true := by
    unfold RawPacket.firstIdentifier
    split
    · exact destination.valid.ascii
    · exact source.valid.ascii
  refine ⟨command.length, command.colonless, ?_⟩
  rw [isAscii_append, Bool.and_eq_true]
  exact ⟨command.ascii, first⟩

namespace SentBy

variable {source : Callsign} {packet : RawPacket}

/-- No character of a callsign is special to the tokenizer. -/
theorem tokenized (sent : SentBy source packet) : packet.Tokenized := by
  cases sent with
  | command destination notPosition command plain =>
      exact command.tokens.tokenized notPosition source.colonless destination.colonless
        fun field member => (plain field member).1
  | pilot known plain =>
      exact ⟨RawPacket.PositionTokens.mk known source.nonempty rfl, source.colonless,
        List.not_mem_nil, fun field member => (plain field member).1⟩
  | atc plain =>
      exact ⟨RawPacket.PositionTokens.mk rfl source.nonempty rfl, source.colonless,
        List.not_mem_nil, fun field member => (plain field member).1⟩

theorem source_eq (sent : SentBy source packet) : packet.source = toString source := by
  cases sent <;> rfl

theorem unbroken_fields (sent : SentBy source packet) :
    ∀ field ∈ packet.fields, Text.Unbroken field := by
  cases sent with
  | command _ _ _ plain => exact fun field member => (plain field member).2
  | pilot _ plain => exact fun field member => (plain field member).2
  | atc plain => exact fun field member => (plain field member).2

theorem unbroken_command (sent : SentBy source packet) : Text.Unbroken packet.command := by
  cases sent with
  | command _ _ command _ => exact command.unbroken
  | @pilot mode _ known _ =>
      show Text.Unbroken mode
      rcases known with rfl | rfl | rfl <;> decide
  | atc _ =>
      show Text.Unbroken ""
      decide

/-- A packet comes back unless one of its callsigns breaks the line. -/
theorem roundTrips_iff (sent : SentBy source packet) :
    packet.RoundTrips ↔
      Text.Unbroken (toString source) ∧ Text.Unbroken packet.destination := by
  rw [RawPacket.roundTrips_iff sent.tokenized, RawPacket.any_tokens sent.tokenized, sent.source_eq]
  constructor
  · rintro ⟨-, spoken, addressed, -⟩
    exact ⟨spoken, addressed⟩
  · rintro ⟨spoken, addressed⟩
    exact ⟨sent.unbroken_command, spoken, addressed, sent.unbroken_fields⟩

end SentBy

/-! ## Spellings -/

/-- A callsign reads back as itself, and its spellings are the texts that differ in case alone; a packet
    with it as the source comes back exactly when neither callsign breaks the line. -/
theorem callsign_tokens_iff {value : String} {callsign : Callsign}
    (parsed : Callsign.parse value = .ok callsign) :
    Callsign.parse (toString callsign) = .ok callsign ∧
      (∀ other, Callsign.parse other = .ok callsign ↔ eqIgnoreAsciiCase value other = true) ∧
      ∀ packet, SentBy callsign packet →
        (packet.RoundTrips ↔ Text.Unbroken value ∧ Text.Unbroken packet.destination) := by
  refine ⟨Callsign.parse_toString callsign, fun other => Callsign.parse_caseless parsed, ?_⟩
  intro packet sent
  rw [sent.roundTrips_iff, (Callsign.parse_ok.mp parsed).2, unbroken_toAsciiUppercase]

namespace Sample

/-- A callsign with a line feed, as a JSON text can spell it. -/
def brokenCallsign : Callsign := ⟨"AB\nCD", by decide⟩

/-- A text message to the tower. -/
def note (callsign : Callsign) : RawPacket :=
  ⟨.client, "TM", toString callsign, toString tower, ["hello"]⟩

theorem note_sent (callsign : Callsign) : SentBy callsign (note callsign) :=
  .command tower ⟨by decide, by decide⟩ ⟨by decide, by decide, by decide, by decide⟩
    fun field member => by
      obtain rfl := List.mem_singleton.mp member
      exact ⟨by decide, by decide⟩

end Sample

theorem callsign_tokens_iff_tower :
    Callsign.parse "lfpg_twr" = .ok Sample.tower ∧ Callsign.parse "Lfpg_Twr" = .ok Sample.tower ∧
      (Sample.note Sample.tower).RoundTrips := by
  have parsed : Callsign.parse "lfpg_twr" = .ok Sample.tower := by decide
  obtain ⟨-, spelled, comes⟩ := callsign_tokens_iff parsed
  exact ⟨parsed, (spelled "Lfpg_Twr").mpr (by decide),
    (comes _ (Sample.note_sent Sample.tower)).mpr ⟨by decide, by decide⟩⟩

/-- A callsign with a line feed is accepted, also from a JSON text, and a packet with it is not
    written under any limit that has room for it. -/
theorem brokenCallsign_untellable :
    Callsign.parse "ab\ncd" = .ok Sample.brokenCallsign ∧
      Json.Format.callsign.read (.string "ab\ncd") = some Sample.brokenCallsign ∧
      SentBy Sample.brokenCallsign (Sample.note Sample.brokenCallsign) ∧
      ¬ (Sample.note Sample.brokenCallsign).RoundTrips ∧
      (Sample.note Sample.brokenCallsign).encode CLASSIC_MAX_FRAME_BYTES =
        .error .embeddedDelimiter := by
  have broken : ¬ Text.Unbroken (toString Sample.brokenCallsign) := by decide
  have sent := Sample.note_sent Sample.brokenCallsign
  exact ⟨by decide, by decide, sent, fun comes => broken (sent.roundTrips_iff.mp comes).1, by decide⟩

end AsterFsd
