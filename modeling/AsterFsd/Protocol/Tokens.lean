import AsterFsd.Protocol.Packet

/-! # Reading what was written

The tokens that reading can produce, the characters that they stand for, and the two directions between
them: a packet with such tokens is read back from its output, and what was read is written again as it
was, up to the colon that a compact pilot position leaves out.
-/

namespace AsterFsd.RawPacket

/-! ## Tokens -/

/-- The identifier that follows the command on the wire. -/
def firstIdentifier (packet : RawPacket) : String :=
  if packet.command = "DI" then packet.destination else packet.source

/-- The identifier that follows the first colon. -/
def secondIdentifier (packet : RawPacket) : String :=
  if packet.command = "DI" then packet.source else packet.destination

/-- What reading guarantees about the tokens of a position. -/
structure PositionTokens (packet : RawPacket) : Prop where
  command : match packet.kind with
    | .pilotPosition => packet.command = "N" ∨ packet.command = "S" ∨ packet.command = "Y"
    | _ => packet.command = ""
  source : packet.source ≠ ""
  destination : packet.destination = ""

/-- What reading guarantees about the tokens before the first colon of a command packet. -/
structure CommandTokens (packet : RawPacket) : Prop where
  length : packet.command.toList.length = 2
  colonless : ':' ∉ packet.command.toList
  ascii : isAscii (packet.command ++ packet.firstIdentifier) = true

/-- The tokens that reading can produce. -/
structure Tokenized (packet : RawPacket) : Prop where
  shape : match packet.kind with
    | .pilotPosition | .atcPosition => packet.PositionTokens
    | _ => packet.CommandTokens
  source : ':' ∉ packet.source.toList
  destination : ':' ∉ packet.destination.toList
  fields : ∀ field ∈ packet.fields, ':' ∉ field.toList

/-- A packet with a word of two letters is not a position. -/
theorem Tokenized.notPosition {packet : RawPacket} (tokens : packet.Tokenized)
    (letters : packet.command.toList.length = 2) :
    packet.kind ≠ .pilotPosition ∧ packet.kind ≠ .atcPosition := by
  have shape := tokens.shape
  cases kind : packet.kind with
  | pilotPosition =>
      rw [kind] at shape
      have mode := shape.command
      rw [kind] at mode
      obtain mode | mode | mode := mode <;>
        (rw [mode] at letters; cases letters)
  | atcPosition =>
      rw [kind] at shape
      have mode := shape.command
      rw [kind] at mode
      rw [mode] at letters
      cases letters
  | _ => decide

/-- The characters of a packet after its prefix, as they are written. -/
def text (packet : RawPacket) : List Char :=
  match packet.kind with
  | .pilotPosition =>
      packet.command.toList ++ ':' :: (packet.source.toList ++ Text.joinList ':' packet.fields)
  | .atcPosition => packet.source.toList ++ Text.joinList ':' packet.fields
  | _ =>
      packet.command.toList ++ packet.firstIdentifier.toList ++
        ':' :: (packet.secondIdentifier.toList ++ Text.joinList ':' packet.fields)

/-- The characters of a pilot position whose callsign follows the mode at once. -/
def compactText (packet : RawPacket) : List Char :=
  packet.command.toList ++ packet.source.toList ++ Text.joinList ':' packet.fields

/-! ## Positions -/

private theorem parseAtc_ok {body : String} {packet : RawPacket} :
    parseAtc body = .ok packet ↔
      packet.kind = .atcPosition ∧ packet.Tokenized ∧ body.toList = packet.text := by
  constructor
  · intro parsed
    obtain ⟨source, fields, pieces⟩ := Text.exists_split ':' body
    simp only [parseAtc, pieces] at parsed
    split at parsed
    · cases parsed
    · rename_i nonempty
      obtain rfl := Except.ok.inj parsed
      obtain ⟨joined, clean, others⟩ := Text.split_eq_cons.mp pieces
      have filled : source ≠ "" := by simpa using nonempty
      exact ⟨rfl, ⟨⟨rfl, filled, rfl⟩, clean, by simp, others⟩, joined⟩
  · intro ⟨kind, tokens, spelled⟩
    cases packet with
    | mk k command source destination fields =>
        obtain rfl : k = .atcPosition := kind
        obtain ⟨shape, clean, -, others⟩ := tokens
        obtain ⟨none, filled, nowhere⟩ := shape
        obtain rfl : command = "" := none
        obtain rfl : destination = "" := nowhere
        have pieces := Text.split_eq_cons.mpr ⟨spelled, clean, others⟩
        have nonempty : source.isEmpty = false := by simpa using filled
        simp [parseAtc, pieces, nonempty]

private theorem singleton_mode {mode : Char} :
    (String.singleton mode = "N" ∨ String.singleton mode = "S" ∨ String.singleton mode = "Y") ↔
      mode = 'N' ∨ mode = 'S' ∨ mode = 'Y' := by
  have single : ∀ c : Char, String.singleton mode = String.singleton c ↔ mode = c := by
    intro c
    rw [← String.toList_inj, String.toList_singleton, String.toList_singleton]
    simp
  exact or_congr (single 'N') (or_congr (single 'S') (single 'Y'))

private theorem mode_of_command {command : String}
    (mode : command = "N" ∨ command = "S" ∨ command = "Y") :
    ∃ c, command = String.singleton c ∧ (c = 'N' ∨ c = 'S' ∨ c = 'Y') := by
  rcases mode with rfl | rfl | rfl
  · exact ⟨'N', rfl, by decide⟩
  · exact ⟨'S', rfl, by decide⟩
  · exact ⟨'Y', rfl, by decide⟩

private theorem mode_colonless {mode : Char} (known : mode = 'N' ∨ mode = 'S' ∨ mode = 'Y') :
    ':' ∉ [mode] := by
  rcases known with rfl | rfl | rfl <;> decide

private theorem parsePilot_sound {body : String} {packet : RawPacket}
    (parsed : parsePilot body = .ok packet) :
    packet.kind = .pilotPosition ∧ packet.Tokenized ∧
      (body.toList = packet.text ∨ body.toList = packet.compactText) := by
  obtain ⟨first, fields, pieces⟩ := Text.exists_split ':' body
  obtain ⟨joined, clean, others⟩ := Text.split_eq_cons.mp pieces
  simp only [parsePilot, pieces] at parsed
  split at parsed
  · cases parsed
  · rename_i mode compact characters
    split at parsed
    · cases parsed
    · rename_i known
      have known := Decidable.of_not_not known
      rw [characters] at joined clean
      split at parsed
      · rename_i filled
        obtain rfl := Except.ok.inj parsed
        have source : String.ofList compact ≠ "" := by
          intro nothing
          exact filled (by simpa using congrArg String.toList nothing)
        have colonless : ':' ∉ (String.ofList compact).toList := by
          rw [String.toList_ofList]
          exact fun member => clean (List.mem_cons_of_mem _ member)
        refine ⟨rfl, ⟨⟨singleton_mode.mpr known, source, rfl⟩, colonless, by simp, others⟩, .inr ?_⟩
        simpa [compactText] using joined
      · rename_i nothing
        have nothing := Decidable.of_not_not nothing
        subst nothing
        split at parsed
        · cases parsed
        · rename_i source fields
          split at parsed
          · cases parsed
          · rename_i filled
            obtain rfl := Except.ok.inj parsed
            obtain ⟨colonless, others⟩ := List.forall_mem_cons.mp others
            have filled : source ≠ "" := by simpa using filled
            refine ⟨rfl, ⟨⟨singleton_mode.mpr known, filled, rfl⟩, colonless, by simp, others⟩, .inl ?_⟩
            simpa [text, Text.joinList] using joined

private theorem parsePilot_complete {body : String} {packet : RawPacket}
    (kind : packet.kind = .pilotPosition) (tokens : packet.Tokenized)
    (spelled : body.toList = packet.text ∨ body.toList = packet.compactText) :
    parsePilot body = .ok packet := by
  cases packet with
  | mk k command source destination fields =>
      obtain rfl : k = .pilotPosition := kind
      obtain ⟨shape, clean, -, others⟩ := tokens
      obtain ⟨mode, filled, nowhere⟩ := shape
      obtain ⟨c, rfl, known⟩ := mode_of_command mode
      obtain rfl : destination = "" := nowhere
      have colonless := mode_colonless known
      cases spelled with
      | inl standard =>
          have pieces : Text.split ':' body = String.singleton c :: source :: fields := by
            refine Text.split_eq_cons.mpr ⟨?_, by simpa using colonless,
              List.forall_mem_cons.mpr ⟨clean, others⟩⟩
            simpa [text, Text.joinList] using standard
          have nonempty : source.isEmpty = false := by simpa using filled
          simp [parsePilot, pieces, known, nonempty]
      | inr compact =>
          have pieces : Text.split ':' body = String.ofList (c :: source.toList) :: fields := by
            refine Text.split_eq_cons.mpr ⟨by simpa [compactText] using compact, ?_, others⟩
            rw [String.toList_ofList]
            exact fun member => (List.mem_cons.mp member).elim
              (fun here => colonless (List.mem_singleton.mpr here)) clean
          have nonempty : source.toList ≠ [] := by
            intro nothing
            exact filled (String.toList_inj.mp (by simpa using nothing))
          simp [parsePilot, pieces, known, nonempty]

/-! ## Command packets -/

private theorem size_ascii {value : String} (ascii : isAscii value = true) :
    value.utf8ByteSize = value.toList.length := by
  simp only [isAscii, List.all_eq_true, decide_eq_true_eq] at ascii
  rw [Text.utf8ByteSize_eq, Text.byteSize_ascii ascii]

private theorem shape_command {packet : RawPacket}
    (command : packet.kind ≠ .pilotPosition ∧ packet.kind ≠ .atcPosition) :
    (match packet.kind with
      | .pilotPosition | .atcPosition => packet.PositionTokens
      | _ => packet.CommandTokens) ↔ packet.CommandTokens := by
  split
  · exact absurd ‹_› command.1
  · exact absurd ‹_› command.2
  · rfl

theorem CommandTokens.tokenized {packet : RawPacket} (tokens : packet.CommandTokens)
    (command : packet.kind ≠ .pilotPosition ∧ packet.kind ≠ .atcPosition)
    (source : ':' ∉ packet.source.toList) (destination : ':' ∉ packet.destination.toList)
    (fields : ∀ field ∈ packet.fields, ':' ∉ field.toList) : packet.Tokenized :=
  ⟨(shape_command command).mpr tokens, source, destination, fields⟩

private theorem text_command {packet : RawPacket}
    (command : packet.kind ≠ .pilotPosition ∧ packet.kind ≠ .atcPosition) :
    packet.text = packet.command.toList ++ packet.firstIdentifier.toList ++
      ':' :: (packet.secondIdentifier.toList ++ Text.joinList ':' packet.fields) := by
  unfold text
  split
  · exact absurd ‹_› command.1
  · exact absurd ‹_› command.2
  · rfl

private theorem identifiers_colonless {packet : RawPacket} :
    (':' ∉ packet.firstIdentifier.toList ∧ ':' ∉ packet.secondIdentifier.toList) ↔
      ':' ∉ packet.source.toList ∧ ':' ∉ packet.destination.toList := by
  unfold firstIdentifier secondIdentifier
  split
  · exact and_comm
  · rfl

private theorem parseCommand_sound {kind : RawPacketKind} {body : String} {packet : RawPacket}
    (command : kind ≠ .pilotPosition ∧ kind ≠ .atcPosition)
    (parsed : parseCommand kind body = .ok packet) :
    packet.kind = kind ∧ packet.Tokenized ∧ body.toList = packet.text := by
  unfold parseCommand at parsed
  split at parsed
  · cases parsed
  · rename_i head rest found
    obtain ⟨joined, clean⟩ := Text.splitOnce_eq_some.mp found
    obtain ⟨second, fields, pieces⟩ := Text.exists_split ':' rest
    obtain ⟨tail, colonless, others⟩ := Text.split_eq_cons.mp pieces
    split at parsed
    · cases parsed
    · rename_i accepted
      simp only [Bool.or_eq_true, decide_eq_true_eq, Bool.not_eq_true', not_or, Nat.not_lt,
        Bool.not_eq_false] at accepted
      obtain ⟨long, ascii⟩ := accepted
      rw [size_ascii ascii] at long
      have cut := List.take_append_drop 2 head.toList
      have whole : String.ofList (head.toList.take 2) ++ String.ofList (head.toList.drop 2) =
          head := by
        rw [← String.ofList_append, cut, String.ofList_toList]
      simp only [pieces] at parsed
      have built : packet.kind = kind ∧ packet.command = String.ofList (head.toList.take 2) ∧
          packet.firstIdentifier = String.ofList (head.toList.drop 2) ∧
          packet.secondIdentifier = second ∧ packet.fields = fields := by
        obtain rfl := Except.ok.inj parsed
        unfold firstIdentifier secondIdentifier
        by_cases swapped : String.ofList (head.toList.take 2) = "DI" <;> simp [swapped]
      obtain ⟨sameKind, word, first, rfl, rfl⟩ := built
      rw [← sameKind] at command
      have identifiers := identifiers_colonless.mp ⟨by
        rw [first, String.toList_ofList]
        exact fun member => clean (List.mem_of_mem_drop member), colonless⟩
      refine ⟨sameKind,
        CommandTokens.tokenized ?_ command identifiers.1 identifiers.2 others, ?_⟩
      · refine ⟨?_, ?_, ?_⟩
        · rw [word, String.toList_ofList, List.length_take]
          omega
        · rw [word, String.toList_ofList]
          exact fun member => clean (List.mem_of_mem_take member)
        · rw [word, first, whole]
          exact ascii
      · rw [text_command command, joined, tail, word, first, String.toList_ofList,
          String.toList_ofList, cut]

private theorem parseCommand_complete {body : String} {packet : RawPacket}
    (command : packet.kind ≠ .pilotPosition ∧ packet.kind ≠ .atcPosition) (tokens : packet.Tokenized)
    (spelled : body.toList = packet.text) : parseCommand packet.kind body = .ok packet := by
  obtain ⟨shape, source, destination, others⟩ := tokens
  rw [shape_command command] at shape
  rw [text_command command] at spelled
  obtain ⟨first, second⟩ := identifiers_colonless.mpr ⟨source, destination⟩
  have found : Text.splitOnce ':' body = some (packet.command ++ packet.firstIdentifier,
      String.ofList (packet.secondIdentifier.toList ++ Text.joinList ':' packet.fields)) := by
    refine Text.splitOnce_eq_some.mpr ⟨by simpa using spelled, ?_⟩
    rw [String.toList_append, List.mem_append, not_or]
    exact ⟨shape.colonless, first⟩
  have pieces : Text.split ':' (String.ofList (packet.secondIdentifier.toList ++
      Text.joinList ':' packet.fields)) = packet.secondIdentifier :: packet.fields :=
    Text.split_eq_cons.mpr ⟨String.toList_ofList, second, others⟩
  have long : ¬ (packet.command ++ packet.firstIdentifier).utf8ByteSize < 2 := by
    rw [size_ascii shape.ascii, String.toList_append, List.length_append, shape.length]
    omega
  have word : String.ofList ((packet.command ++ packet.firstIdentifier).toList.take 2) =
      packet.command := by
    rw [String.toList_append, List.take_left' shape.length, String.ofList_toList]
  have rest : String.ofList ((packet.command ++ packet.firstIdentifier).toList.drop 2) =
      packet.firstIdentifier := by
    rw [String.toList_append, List.drop_left' shape.length, String.ofList_toList]
  simp only [parseCommand, found, shape.ascii, long, pieces, word, rest]
  unfold firstIdentifier secondIdentifier
  by_cases swapped : packet.command = "DI"
  · simp only [swapped, ↓reduceIte, Bool.not_true, decide_false, Bool.or_self, Bool.false_eq_true]
    rw [← swapped]
  · simp [swapped]

/-! ## Frames -/

theorem output_text (packet : RawPacket) :
    packet.output = packet.kind.prefixByte :: Text.bytes (String.ofList packet.text) := by
  have colon : String.utf8EncodeChar ':' = [':'.toUInt8] := by decide
  have fields : (packet.fields.flatMap fun field => ':'.toUInt8 :: Text.bytes field) =
      (Text.joinList ':' packet.fields).flatMap String.utf8EncodeChar := by
    simp [Text.joinList, Text.bytes, List.flatMap_assoc, colon]
  have written : packet.head ++ (Text.joinList ':' packet.fields).flatMap String.utf8EncodeChar =
      Text.bytes (String.ofList packet.text) := by
    cases packet with
    | mk kind command source destination fields =>
        cases kind with
        | pilotPosition => simp [head, text, Text.bytes, colon]
        | atcPosition => simp [head, text, Text.bytes]
        | _ =>
            by_cases swapped : command = "DI" <;>
              simp [head, text, firstIdentifier, secondIdentifier, Text.bytes, colon, swapped]
  rw [output, fields, written]

/-- A pilot position whose callsign follows the mode byte at once. -/
def compactPilot : List UInt8 → Bool
  | first :: _ :: next :: _ => first == '@'.toUInt8 && next != ':'.toUInt8
  | _ => false

/-- The frame with a colon after its mode byte. -/
def expanded : List UInt8 → List UInt8
  | first :: mode :: rest => first :: mode :: ':'.toUInt8 :: rest
  | frame => frame

/-- The output of a pilot position, with the colon after its mode left out. -/
def compactOutput (packet : RawPacket) : List UInt8 :=
  packet.kind.prefixByte :: Text.bytes (String.ofList packet.compactText)

theorem fromPrefix_ok {value : UInt8} {kind : RawPacketKind} :
    RawPacketKind.fromPrefix value = .ok kind ↔ value = kind.prefixByte := by
  constructor
  · intro read
    unfold RawPacketKind.fromPrefix at read
    repeat' split at read
    all_goals cases read
    all_goals assumption
  · intro same
    subst same
    cases kind <;> rfl

/-- What reading accepts: the output of a packet with tokens, or the compact form of one. -/
theorem parse_ok {frame : List UInt8} {packet : RawPacket} :
    parse frame = .ok packet ↔
      packet.Tokenized ∧
        (frame = packet.output ∨
          packet.kind = .pilotPosition ∧ frame = packet.compactOutput) := by
  constructor
  · intro parsed
    cases frame with
    | nil => cases parsed
    | cons first rest =>
        cases family : RawPacketKind.fromPrefix first with
        | error error => simp [parse, family, bind, Except.bind] at parsed
        | ok kind =>
            cases read : Text.ofBytes rest with
            | none => simp [parse, family, read, bind, Except.bind] at parsed
            | some body =>
                obtain rfl := fromPrefix_ok.mp family
                have same := Text.ofBytes_eq_some.mp read
                subst same
                simp only [parse, family, read, bind, Except.bind] at parsed
                split at parsed
                · obtain ⟨kind, tokens, spelled⟩ := parsePilot_sound parsed
                  refine ⟨tokens, spelled.imp (fun standard => ?_) (fun compact => ⟨kind, ?_⟩)⟩
                  · rw [output_text, kind, ← standard, String.ofList_toList]
                  · rw [compactOutput, kind, ← compact, String.ofList_toList]
                · obtain ⟨kind, tokens, spelled⟩ := parseAtc_ok.mp parsed
                  refine ⟨tokens, .inl ?_⟩
                  rw [output_text, kind, ← spelled, String.ofList_toList]
                · rename_i noPilot noAtc
                  obtain ⟨rfl, tokens, spelled⟩ := parseCommand_sound ⟨noPilot, noAtc⟩ parsed
                  refine ⟨tokens, .inl ?_⟩
                  rw [output_text, ← spelled, String.ofList_toList]
  · intro ⟨tokens, written⟩
    have family := fromPrefix_ok.mpr (rfl : packet.kind.prefixByte = packet.kind.prefixByte)
    cases written with
    | inl standard =>
        subst standard
        rw [output_text]
        simp only [parse, family, Text.ofBytes_bytes, bind, Except.bind]
        have spelled : (String.ofList packet.text).toList = packet.text := String.toList_ofList
        split
        · exact parsePilot_complete ‹_› tokens (.inl spelled)
        · exact parseAtc_ok.mpr ⟨‹_›, tokens, spelled⟩
        · rename_i noPilot noAtc
          exact parseCommand_complete ⟨noPilot, noAtc⟩ tokens spelled
    | inr compact =>
        obtain ⟨kind, rfl⟩ := compact
        simp only [compactOutput, parse, Text.ofBytes_bytes, bind, Except.bind, kind]
        exact parsePilot_complete kind tokens (.inr String.toList_ofList)

theorem parse_output {packet : RawPacket} (tokens : packet.Tokenized) :
    parse packet.output = .ok packet := parse_ok.mpr ⟨tokens, .inl rfl⟩

/-- A command packet whose head has a character outside ASCII is refused. -/
theorem parse_foreign {packet : RawPacket}
    (command : packet.kind ≠ .pilotPosition ∧ packet.kind ≠ .atcPosition)
    (clean : ':' ∉ (packet.command ++ packet.firstIdentifier).toList)
    (foreign : isAscii (packet.command ++ packet.firstIdentifier) = false) :
    parse packet.output = .error .invalidCommand := by
  have family := fromPrefix_ok.mpr (rfl : packet.kind.prefixByte = packet.kind.prefixByte)
  have found : Text.splitOnce ':' (String.ofList packet.text) =
      some (packet.command ++ packet.firstIdentifier,
        String.ofList (packet.secondIdentifier.toList ++ Text.joinList ':' packet.fields)) := by
    refine Text.splitOnce_eq_some.mpr ⟨?_, clean⟩
    rw [text_command command, String.toList_ofList, String.toList_ofList, String.toList_append]
  rw [output_text]
  simp only [parse, family, Text.ofBytes_bytes, bind, Except.bind]
  split
  · exact absurd ‹_› command.1
  · exact absurd ‹_› command.2
  · simp [parseCommand, found, foreign]

/-! ## Losslessness -/

private theorem mode_bytes {packet : RawPacket} (kind : packet.kind = .pilotPosition)
    (tokens : packet.Tokenized) :
    ∃ mode, Text.bytes packet.command = [mode] ∧ packet.source ≠ "" := by
  have shape := tokens.shape
  rw [kind] at shape
  obtain ⟨known, filled, -⟩ := (shape : packet.PositionTokens)
  rw [kind] at known
  obtain ⟨c, single, modes⟩ := mode_of_command known
  rw [single]
  rcases modes with rfl | rfl | rfl
  · exact ⟨78, by decide, filled⟩
  · exact ⟨83, by decide, filled⟩
  · exact ⟨89, by decide, filled⟩

private theorem first_byte {source : String} (filled : source ≠ "") (clean : ':' ∉ source.toList) :
    ∃ next rest, Text.bytes source = next :: rest ∧ next ≠ ':'.toUInt8 := by
  cases encoded : Text.bytes source with
  | nil =>
      have same := Text.ofBytes_bytes source
      rw [encoded] at same
      exact absurd (Option.some.inj same).symm filled
  | cons next rest =>
      refine ⟨next, rest, rfl, ?_⟩
      intro colon
      have member : ':'.toUInt8 ∈ Text.bytes source := by
        rw [encoded, colon]
        exact List.mem_cons_self
      obtain ⟨c, inside, same⟩ := (Text.mem_bytes_ascii (by decide)).mp member
      exact clean ((Char.toNat_inj.mp same : c = ':') ▸ inside)

private theorem compactPilot_output {packet : RawPacket} (tokens : packet.Tokenized) :
    compactPilot packet.output = false := by
  by_cases kind : packet.kind = .pilotPosition
  · obtain ⟨mode, single, -⟩ := mode_bytes kind tokens
    simp [output, head, kind, single, compactPilot]
  · have other : packet.kind.prefixByte ≠ '@'.toUInt8 := by
      generalize packet.kind = k at kind
      cases k <;> first | decide | exact absurd rfl kind
    rw [output]
    unfold compactPilot
    split
    · rename_i same
      rw [← (List.cons.inj same).1, beq_eq_false_iff_ne.mpr other, Bool.false_and]
    · rfl

private theorem compactOutput_spec {packet : RawPacket} (kind : packet.kind = .pilotPosition)
    (tokens : packet.Tokenized) :
    compactPilot packet.compactOutput = true ∧ expanded packet.compactOutput = packet.output ∧
      packet.output.length = packet.compactOutput.length + 1 := by
  obtain ⟨mode, single, filled⟩ := mode_bytes kind tokens
  obtain ⟨next, rest, source, other⟩ := first_byte filled tokens.source
  have colon : String.utf8EncodeChar ':' = [':'.toUInt8] := by decide
  have compact : packet.compactOutput = '@'.toUInt8 :: mode :: next :: (rest ++
      Text.bytes (String.ofList (Text.joinList ':' packet.fields))) := by
    have bytes := congrArg₂ (· ++ ·) single source
    simp only [Text.bytes] at bytes
    simp only [compactOutput, kind, compactText, Text.bytes, String.toList_ofList,
      List.flatMap_append, bytes]
    rfl
  have standard : packet.output = '@'.toUInt8 :: mode :: ':'.toUInt8 :: next :: (rest ++
      Text.bytes (String.ofList (Text.joinList ':' packet.fields))) := by
    have modeBytes := single
    have sourceBytes := source
    simp only [Text.bytes] at modeBytes sourceBytes
    simp only [output_text, kind, text, Text.bytes, String.toList_ofList, List.flatMap_append,
      List.flatMap_cons, modeBytes, sourceBytes, colon]
    rfl
  rw [compact, standard]
  refine ⟨by simp [compactPilot, other], rfl, rfl⟩

private theorem any_expanded (frame : List UInt8) :
    (expanded frame).any Text.isDelimiter = frame.any Text.isDelimiter := by
  have colon : Text.isDelimiter ':'.toUInt8 = false := by decide
  unfold expanded
  split
  · simp [colon]
  · rfl

/-- What is read of a frame of one line is written as one line. -/
theorem parse_clean {frame : List UInt8} {packet : RawPacket}
    (clean : frame.any Text.isDelimiter = false) (parsed : parse frame = .ok packet) :
    packet.output.any Text.isDelimiter = false := by
  obtain ⟨tokens, rfl | ⟨kind, rfl⟩⟩ := parse_ok.mp parsed
  · exact clean
  · obtain ⟨-, same, -⟩ := compactOutput_spec kind tokens
    rw [← same, any_expanded]
    exact clean

/-- A frame that was read is written again as it was, with one colon more if it was the compact form of
    a pilot position, and what is written is read as the same packet. -/
theorem parse_lossless {frame : List UInt8} {packet : RawPacket}
    (clean : frame.any Text.isDelimiter = false) (parsed : parse frame = .ok packet) :
    (∀ limit, frame.length + 1 ≤ limit →
      packet.encode limit = .ok (if compactPilot frame then expanded frame else frame)) ∧
    parse (if compactPilot frame then expanded frame else frame) = .ok packet ∧
    ((∃ error, packet.encode frame.length = .error error) ↔ compactPilot frame = true) := by
  obtain ⟨tokens, written⟩ := parse_ok.mp parsed
  cases written with
  | inl standard =>
      subst standard
      rw [compactPilot_output tokens]
      have encodes : ∀ limit, packet.output.length ≤ limit →
          packet.encode limit = .ok packet.output :=
        fun limit room => encode_ok.mpr ⟨room, clean, rfl⟩
      refine ⟨fun limit room => encodes limit (by omega), parsed, ?_⟩
      simp [encodes packet.output.length le_rfl]
  | inr compact =>
      obtain ⟨kind, rfl⟩ := compact
      obtain ⟨isCompact, same, longer⟩ := compactOutput_spec kind tokens
      rw [isCompact, if_pos rfl, same]
      have clean : packet.output.any Text.isDelimiter = false := parse_clean clean parsed
      refine ⟨fun limit room => encode_ok.mpr ⟨by omega, clean, rfl⟩, parse_output tokens, ?_⟩
      refine ⟨fun _ => rfl, fun _ => ⟨.frameTooLong packet.compactOutput.length, ?_⟩⟩
      rw [encode, if_pos (by omega)]

theorem parse_lossless_compact :
    (∀ limit, (Text.bytes "@SECP1:1200:1:").length + 1 ≤ limit →
      RawPacket.encode ⟨.pilotPosition, "S", "ECP1", "", ["1200", "1", ""]⟩ limit =
        .ok (Text.bytes "@S:ECP1:1200:1:")) ∧
    parse (Text.bytes "@S:ECP1:1200:1:") =
      .ok ⟨.pilotPosition, "S", "ECP1", "", ["1200", "1", ""]⟩ ∧
    ((∃ error, RawPacket.encode ⟨.pilotPosition, "S", "ECP1", "", ["1200", "1", ""]⟩
        (Text.bytes "@SECP1:1200:1:").length = .error error) ↔ True) := by
  have lossless := @parse_lossless (Text.bytes "@SECP1:1200:1:")
    ⟨.pilotPosition, "S", "ECP1", "", ["1200", "1", ""]⟩ (by decide) (by decide)
  have compact : compactPilot (Text.bytes "@SECP1:1200:1:") = true := by decide
  have written : expanded (Text.bytes "@SECP1:1200:1:") = Text.bytes "@S:ECP1:1200:1:" := by decide
  rw [compact, if_pos rfl, written] at lossless
  simpa using lossless

end AsterFsd.RawPacket
