import AsterFsd.Protocol.Wire

/-! # Raw FSD packets

One frame of the classic protocols is a prefix byte, a command and tokens separated by colons. Reading
and writing a packet do not look at what the command means.
-/

namespace AsterFsd

/-- Maximum classic FSD draft 9 frame size, excluding line delimiters. -/
def CLASSIC_MAX_FRAME_BYTES : Nat := 511

/-- Framing and raw packet tokenization failures. -/
inductive CodecError where
  | frameTooLong (limit : Nat)
  | invalidUtf8
  | empty
  | unknownPrefix (value : UInt8)
  | missing (what : String)
  | invalidCommand
  | embeddedDelimiter
  deriving DecidableEq

/-- The displayed text of a codec error. -/
def CodecError.toString : CodecError → String
  | .frameTooLong limit => "frame exceeds configured limit of " ++ ToString.toString limit ++ " bytes"
  | .invalidUtf8 => "frame contains invalid UTF-8"
  | .empty => "frame is empty"
  | .unknownPrefix value => "unknown packet prefix 0x" ++ hex value
  | .missing what => "packet is missing " ++ what
  | .invalidCommand => "packet command is invalid"
  | .embeddedDelimiter => "encoded frame contains a line delimiter"
where
  hex (value : UInt8) : String :=
    String.ofList [Nat.digitChar (value.toNat / 16), Nat.digitChar (value.toNat % 16)]

instance : ToString CodecError := ⟨CodecError.toString⟩

/-- Whether the transport codec puts the frame on the wire: it is within the limit of the listener
    and has no delimiter. -/
def FsdFrameCodec.encodes (maxFrameBytes : Nat) (frame : List UInt8) : Bool :=
  frame.length ≤ maxFrameBytes && !frame.any Text.isDelimiter

/-- What the transport codec hands on: a line of the stream, not empty and within the limit. -/
structure FsdFrameCodec.Frame (maxFrameBytes : Nat) (frame : List UInt8) : Prop where
  nonempty : frame ≠ []
  bounded : frame.length ≤ maxFrameBytes
  undelimited : frame.any Text.isDelimiter = false

instance (maxFrameBytes : Nat) (frame : List UInt8) :
    Decidable (FsdFrameCodec.Frame maxFrameBytes frame) :=
  decidable_of_iff
    (frame ≠ [] ∧ frame.length ≤ maxFrameBytes ∧ frame.any Text.isDelimiter = false)
    ⟨fun h => ⟨h.1, h.2.1, h.2.2⟩, fun h => ⟨h.nonempty, h.bounded, h.undelimited⟩⟩

/-- Classic FSD packet family selected by the first wire byte. -/
inductive RawPacketKind where
  | request
  | client
  | pilotPosition
  | atcPosition
  | ivaoSpecific
  | ivaoData
  | ivaoOther
  deriving DecidableEq, Repr

namespace RawPacketKind

def fromPrefix (value : UInt8) : Except CodecError RawPacketKind :=
  if value = '$'.toUInt8 then .ok .request
  else if value = '#'.toUInt8 then .ok .client
  else if value = '@'.toUInt8 then .ok .pilotPosition
  else if value = '%'.toUInt8 then .ok .atcPosition
  else if value = '!'.toUInt8 then .ok .ivaoSpecific
  else if value = '&'.toUInt8 then .ok .ivaoData
  else if value = '-'.toUInt8 then .ok .ivaoOther
  else .error (.unknownPrefix value)

/-- The prefix byte of this packet family. -/
def prefixByte : RawPacketKind → UInt8
  | .request => '$'.toUInt8
  | .client => '#'.toUInt8
  | .pilotPosition => '@'.toUInt8
  | .atcPosition => '%'.toUInt8
  | .ivaoSpecific => '!'.toUInt8
  | .ivaoData => '&'.toUInt8
  | .ivaoOther => '-'.toUInt8

theorem prefixByte_undelimited (kind : RawPacketKind) :
    Text.isDelimiter kind.prefixByte = false := by
  cases kind <;> decide

end RawPacketKind

/-- Tokenized representation of a classic FSD frame. -/
structure RawPacket where
  kind : RawPacketKind
  command : String
  source : String
  destination : String
  fields : List String
  deriving DecidableEq

namespace RawPacket

/-! ## Reading -/

/-- A pilot position: the mode and the callsign, together or in two fields. -/
def parsePilot (body : String) : Except CodecError RawPacket :=
  match Text.split ':' body with
  | [] => .error (.missing "pilot mode")
  | modeAndCallsign :: fields =>
      match modeAndCallsign.toList with
      | [] => .error (.missing "pilot mode")
      | mode :: compactCallsign =>
          if ¬ (mode = 'N' ∨ mode = 'S' ∨ mode = 'Y') then .error .invalidCommand
          else if compactCallsign ≠ [] then
            .ok ⟨.pilotPosition, String.singleton mode, String.ofList compactCallsign, "", fields⟩
          else
            match fields with
            | [] => .error (.missing "pilot callsign")
            | source :: fields =>
                if source.isEmpty then .error (.missing "pilot callsign")
                else .ok ⟨.pilotPosition, String.singleton mode, source, "", fields⟩

def parseAtc (body : String) : Except CodecError RawPacket :=
  match Text.split ':' body with
  | [] => .error (.missing "ATC callsign")
  | source :: fields =>
      if source.isEmpty then .error (.missing "ATC callsign")
      else .ok ⟨.atcPosition, "", source, "", fields⟩

/-- A command packet; the identifiers of `DI` come in the other order. -/
def parseCommand (kind : RawPacketKind) (body : String) : Except CodecError RawPacket :=
  match Text.splitOnce ':' body with
  | none => .error (.missing "destination separator")
  | some (head, rest) =>
      if head.utf8ByteSize < 2 || !isAscii head then .error .invalidCommand
      else
        let command := String.ofList (head.toList.take 2)
        let firstIdentifier := String.ofList (head.toList.drop 2)
        match Text.split ':' rest with
        | [] => .error (.missing "destination")
        | secondIdentifier :: fields =>
            let (source, destination) :=
              if command = "DI" then (secondIdentifier, firstIdentifier)
              else (firstIdentifier, secondIdentifier)
            .ok ⟨kind, command, source, destination, fields⟩

/-- Tokenizes one complete frame without its delimiter. -/
def parse : List UInt8 → Except CodecError RawPacket
  | [] => .error .empty
  | first :: rest => do
      let kind ← RawPacketKind.fromPrefix first
      match Text.ofBytes rest with
      | none => .error .invalidUtf8
      | some body =>
          match kind with
          | .pilotPosition => parsePilot body
          | .atcPosition => parseAtc body
          | _ => parseCommand kind body

/-! ## Writing -/

/-- The bytes before the fields. -/
def head (packet : RawPacket) : List UInt8 :=
  match packet.kind with
  | .pilotPosition =>
      Text.bytes packet.command ++ ':'.toUInt8 :: Text.bytes packet.source
  | .atcPosition => Text.bytes packet.source
  | _ =>
      if packet.command = "DI" then
        Text.bytes packet.command ++ Text.bytes packet.destination ++
          ':'.toUInt8 :: Text.bytes packet.source
      else
        Text.bytes packet.command ++ Text.bytes packet.source ++
          ':'.toUInt8 :: Text.bytes packet.destination

def output (packet : RawPacket) : List UInt8 :=
  packet.kind.prefixByte :: (packet.head ++
    packet.fields.flatMap fun field => ':'.toUInt8 :: Text.bytes field)

/-- Reassembles the packet without adding a line delimiter. -/
def encode (packet : RawPacket) (maxFrameBytes : Nat) : Except CodecError (List UInt8) :=
  if maxFrameBytes < packet.output.length then .error (.frameTooLong maxFrameBytes)
  else if packet.output.any Text.isDelimiter then .error .embeddedDelimiter
  else .ok packet.output

/-- The bytes that the tokens take, each with one separator. -/
def lineSize : List String → Nat
  | [] => 0
  | token :: tokens => 1 + token.utf8ByteSize + lineSize tokens

@[simp] theorem lineSize_nil : lineSize [] = 0 := rfl

@[simp] theorem lineSize_cons (token : String) (tokens : List String) :
    lineSize (token :: tokens) = 1 + token.utf8ByteSize + lineSize tokens := rfl

theorem lineSize_append (tokens others : List String) :
    lineSize (tokens ++ others) = lineSize tokens + lineSize others := by
  induction tokens with
  | nil => simp
  | cons token tokens ih =>
      simp only [List.cons_append, lineSize_cons, ih]
      omega

theorem encode_ok {packet : RawPacket} {maxFrameBytes : Nat} {bytes : List UInt8} :
    packet.encode maxFrameBytes = .ok bytes ↔
      packet.output.length ≤ maxFrameBytes ∧ packet.output.any Text.isDelimiter = false ∧
        bytes = packet.output := by
  unfold encode
  by_cases long : maxFrameBytes < packet.output.length
  · rw [if_pos long]
    exact ⟨fun encoded => (nomatch encoded), fun ⟨short, _⟩ => absurd long (by omega)⟩
  · rw [if_neg long]
    cases packet.output.any Text.isDelimiter with
    | true => simp
    | false => simp [eq_comm, Nat.not_lt.mp long]

private theorem length_fields (fields : List String) :
    (fields.flatMap fun field => ':'.toUInt8 :: Text.bytes field).length = lineSize fields := by
  induction fields with
  | nil => rfl
  | cons field fields ih =>
      rw [List.flatMap_cons, List.length_append, ih, lineSize_cons, List.length_cons,
        Text.length_bytes]
      omega

private theorem any_fields (fields : List String) :
    (fields.flatMap fun field => ':'.toUInt8 :: Text.bytes field).any Text.isDelimiter = false ↔
      ∀ field ∈ fields, Text.Unbroken field := by
  have colon : Text.isDelimiter ':'.toUInt8 = false := by decide
  induction fields with
  | nil => simp
  | cons field fields ih =>
      simp only [List.flatMap_cons, List.any_append, List.any_cons, colon, Bool.false_or,
        Bool.or_eq_false_iff, ih, Text.any_delimiter_bytes, List.mem_cons, forall_eq_or_imp]

theorem length_output_head (packet : RawPacket) :
    packet.output.length = 1 + packet.head.length + lineSize packet.fields := by
  simp only [output, List.length_cons, List.length_append, length_fields]
  omega

theorem any_output_head {packet : RawPacket} : packet.output.any Text.isDelimiter = false ↔
    packet.head.any Text.isDelimiter = false ∧ ∀ field ∈ packet.fields, Text.Unbroken field := by
  simp only [output, List.any_cons, List.any_append, Bool.or_eq_false_iff, any_fields,
    RawPacketKind.prefixByte_undelimited, true_and]

/-- The source of a packet of one line is of one line. -/
theorem unbroken_source {packet : RawPacket} (clean : packet.output.any Text.isDelimiter = false) :
    Text.Unbroken packet.source := by
  obtain ⟨head, -⟩ := any_output_head.mp clean
  rw [← Text.any_delimiter_bytes]
  unfold RawPacket.head at head
  split at head
  · simp only [List.any_append, List.any_cons, Bool.or_eq_false_iff] at head
    exact head.2.2
  · exact head
  · split at head <;> simp only [List.any_append, List.any_cons, Bool.or_eq_false_iff] at head
    · exact head.2.2
    · exact head.1.2

private theorem head_command {packet : RawPacket}
    (command : packet.kind ≠ .pilotPosition ∧ packet.kind ≠ .atcPosition)
    (straight : packet.command ≠ "DI") :
    packet.head = Text.bytes packet.command ++ Text.bytes packet.source ++
      ':'.toUInt8 :: Text.bytes packet.destination := by
  unfold RawPacket.head
  split
  · exact absurd ‹_› command.1
  · exact absurd ‹_› command.2
  · exact if_neg straight

private theorem notPosition {kind : RawPacketKind} (command : kind = .request ∨ kind = .client) :
    kind ≠ .pilotPosition ∧ kind ≠ .atcPosition := by
  obtain rfl | rfl := command <;> decide

/-- A packet that is written within a limit becomes a frame, whatever a failure is reported as. -/
theorem frame_isOk {packet : RawPacket} {maxFrameBytes : Nat} (report : CodecError → ProtocolError) :
    (∃ frame, ((match packet.encode maxFrameBytes with
      | .error error => .error (report error)
      | .ok bytes => WireFrame.new bytes) : Except ProtocolError WireFrame) = .ok frame) ↔
      packet.output.length ≤ maxFrameBytes ∧ packet.output.any Text.isDelimiter = false := by
  cases encoded : packet.encode maxFrameBytes with
  | error error =>
      have refused : ¬ ∃ bytes, packet.encode maxFrameBytes = .ok bytes := by
        intro ⟨bytes, same⟩
        cases encoded.symm.trans same
      simp only [encode_ok] at refused
      refine ⟨fun ⟨_, same⟩ => (nomatch same), fun ⟨short, clean⟩ => ?_⟩
      exact absurd ⟨_, short, clean, rfl⟩ refused
  | ok bytes =>
      obtain ⟨short, clean, rfl⟩ := encode_ok.mp encoded
      exact ⟨fun _ => ⟨short, clean⟩, fun _ => ⟨_, WireFrame.new_ok clean⟩⟩

/-- A command packet takes its command and its tokens, each with one more byte. -/
theorem length_command {packet : RawPacket}
    (command : packet.kind ≠ .pilotPosition ∧ packet.kind ≠ .atcPosition)
    (straight : packet.command ≠ "DI") :
    packet.output.length = packet.command.utf8ByteSize +
      lineSize (packet.source :: packet.destination :: packet.fields) := by
  rw [length_output_head, head_command command straight]
  simp only [List.length_cons, List.length_append, Text.length_bytes, lineSize_cons]
  omega

theorem any_command {packet : RawPacket}
    (command : packet.kind ≠ .pilotPosition ∧ packet.kind ≠ .atcPosition)
    (straight : packet.command ≠ "DI") :
    packet.output.any Text.isDelimiter = false ↔
      Text.Unbroken packet.command ∧
        ∀ token ∈ packet.source :: packet.destination :: packet.fields, Text.Unbroken token := by
  have colon : Text.isDelimiter ':'.toUInt8 = false := by decide
  rw [any_output_head, head_command command straight]
  simp only [List.any_append, List.any_cons, Bool.or_eq_false_iff, Text.any_delimiter_bytes, colon,
    List.mem_cons, forall_eq_or_imp, true_and, and_assoc]

theorem length_output {packet : RawPacket} (command : packet.kind = .request ∨ packet.kind = .client)
    (straight : packet.command ≠ "DI") :
    packet.output.length = packet.command.utf8ByteSize +
      lineSize (packet.source :: packet.destination :: packet.fields) :=
  length_command (notPosition command) straight

theorem any_output {packet : RawPacket} (command : packet.kind = .request ∨ packet.kind = .client)
    (straight : packet.command ≠ "DI") :
    packet.output.any Text.isDelimiter = false ↔
      Text.Unbroken packet.command ∧
        ∀ token ∈ packet.source :: packet.destination :: packet.fields, Text.Unbroken token :=
  any_command (notPosition command) straight

end RawPacket

end AsterFsd
