import AsterFsd.Protocol.Relay
import AsterFsd.Protocol.Vatsim

/-! # Packet families

The first byte of a frame says which family its packet belongs to. Decoding asks for the family of a
position only; it tells the other commands apart by their word, whatever stands before it.
-/

namespace AsterFsd

open ClassicProtocol

/-! ## Pairs of prefix and word -/

/-- The words of the clients' `#` packets. -/
def clientWords : List String := ["AA", "AP", "DA", "DP", "TM", "SB", "PC", "WX"]

/-- The words of the clients' `$` packets, the VATSIM identification last. -/
def requestWords : List String :=
  ["CQ", "CR", "AX", "HO", "HA", "C?", "CI", "FP", "PI", "PO", "!!", "ID"]

def wordFamily (word : String) : Option RawPacketKind :=
  if word ∈ clientWords then some .client
  else if word ∈ requestWords then some .request
  else none

/-- What the frames of classic clients begin with. -/
def clientPairs : List String :=
  ["#AA", "#AP", "#DA", "#DP", "#TM", "#SB", "#PC", "#WX", "$CQ", "$CR", "$AX", "$HO", "$HA", "$C?",
    "$CI", "$FP", "$PI", "$PO", "$!!", "@", "%"]

def vatsimPairs : List String := "$ID" :: clientPairs

/-- A prefix that no client uses, and the prefix of one family before a word of the other. -/
def strayPairs : List String :=
  ["!", "&", "-", "$AA", "$AP", "$DA", "$DP", "$TM", "$SB", "$PC", "$WX", "#CQ", "#CR", "#AX", "#HO",
    "#HA", "#C?", "#CI", "#FP", "#PI", "#PO", "#!!", "#ID"]

def Opens (pairs : List String) (frame : List UInt8) : Prop := ∃ pair ∈ pairs, Text.bytes pair <+: frame

/-- Classic clients that are told the command hear it under the prefix of the frame. -/
def Command.KeepsPrefix (command : Command) (frame : List UInt8) : Prop :=
  ∀ context event frames, command.Relays event → ClassicProtocol.encode context event = .ok frames →
    ∀ out ∈ frames, out.bytes.head? = frame.head?

theorem opens_append {pairs : List String} {start rest : List UInt8}
    (short : ∀ pair ∈ pairs, (Text.bytes pair).length ≤ start.length) :
    Opens pairs (start ++ rest) ↔ Opens pairs start := by
  constructor
  · rintro ⟨pair, member, opens⟩
    exact ⟨pair, member, List.prefix_of_prefix_length_le opens (List.prefix_append start rest)
      (short pair member)⟩
  · rintro ⟨pair, member, opens⟩
    exact ⟨pair, member, opens.trans (List.prefix_append start rest)⟩

instance (pairs : List String) (frame : List UInt8) : Decidable (Opens pairs frame) :=
  inferInstanceAs (Decidable (∃ pair ∈ pairs, Text.bytes pair <+: frame))

/-- A word under a prefix of a command family. -/
theorem opens_word {word : String} (known : word ∈ clientWords ++ requestWords) {kind : RawPacketKind}
    (command : kind ≠ .pilotPosition ∧ kind ≠ .atcPosition) (rest : List UInt8) :
    (Opens vatsimPairs (kind.prefixByte :: Text.bytes word ++ rest) ↔ wordFamily word = some kind) ∧
    (word ≠ "ID" → (Opens clientPairs (kind.prefixByte :: Text.bytes word ++ rest) ↔
      wordFamily word = some kind)) ∧
    (Opens strayPairs (kind.prefixByte :: Text.bytes word ++ rest) ↔ wordFamily word ≠ some kind) := by
  have table : ∀ word ∈ clientWords ++ requestWords, ∀ kind ∈ [RawPacketKind.request, .client,
      .ivaoSpecific, .ivaoData, .ivaoOther],
      (kind.prefixByte :: Text.bytes word).length = 3 ∧
      (Opens vatsimPairs (kind.prefixByte :: Text.bytes word) ↔ wordFamily word = some kind) ∧
      (word ≠ "ID" → (Opens clientPairs (kind.prefixByte :: Text.bytes word) ↔
        wordFamily word = some kind)) ∧
      (Opens strayPairs (kind.prefixByte :: Text.bytes word) ↔ wordFamily word ≠ some kind) := by
    decide +kernel
  have listed : kind ∈ [RawPacketKind.request, .client, .ivaoSpecific, .ivaoData, .ivaoOther] := by
    cases kind with
    | pilotPosition => exact absurd rfl command.1
    | atcPosition => exact absurd rfl command.2
    | _ => decide
  obtain ⟨three, vatsim, classic, stray⟩ := table word known kind listed
  rw [opens_append (by rw [three]; decide), opens_append (by rw [three]; decide),
    opens_append (by rw [three]; decide)]
  exact ⟨vatsim, classic, stray⟩

/-! ## Commands under their word -/

section Words

variable {packet : RawPacket} {command : Command}

theorem decodePacket_known (family : packet.kind ≠ .pilotPosition ∧ packet.kind ≠ .atcPosition)
    (decoded : decodePacket packet = .ok command) :
    packet.command ∈ clientWords ++ requestWords ∧ packet.command ≠ "ID" := by
  unfold decodePacket at decoded
  rw [if_neg (by tauto)] at decoded
  have among {words : List String} (word : packet.command ∈ words)
      (known : ∀ word ∈ words, word ∈ clientWords ++ requestWords ∧ word ≠ "ID") :
      packet.command ∈ clientWords ++ requestWords ∧ packet.command ≠ "ID" := known _ word
  split at decoded
  · exact among ‹_› (by decide)
  split at decoded
  · exact among ‹_› (by decide)
  split at decoded
  · exact among ‹_› (by decide)
  split at decoded
  · exact among ‹_› (by decide)
  split at decoded
  · exact among ‹_› (by decide)
  split at decoded
  · exact among (List.mem_singleton.mpr ‹_›) (by decide)
  split at decoded
  · exact among (List.mem_singleton.mpr ‹_›) (by decide)
  split at decoded
  · exact among ‹_› (by decide)
  split at decoded
  · exact among (List.mem_singleton.mpr ‹_›) (by decide)
  · cases decoded

theorem RawPacket.Reads.told_family {told : RawPacket} (reads : packet.Reads command)
    (named : command.packet = some told) : wordFamily packet.command = some told.kind := by
  cases reads with
  | @handoff source target kind word => cases named; rw [word]; cases kind <;> rfl
  | @clientData source target kind word => cases named; rw [word]; cases kind <;> rfl
  | text word | flightPlan word | query word | response word | ping word | pong word =>
      cases named
      rw [word]
      rfl

/-! ## What the others are told -/

/-- A command that was not read from a position is told under the prefix of the family of its word. -/
theorem told_prefix (family : packet.kind ≠ .pilotPosition ∧ packet.kind ≠ .atcPosition)
    (decoded : decodePacket packet = .ok command) {kind : RawPacketKind}
    (word : wordFamily packet.command = some kind) {context : EncodeContext} {event : Event}
    {frames : List WireFrame} (relays : command.Relays event)
    (encoded : ClassicProtocol.encode context event = .ok frames) :
    ∀ out ∈ frames, out.bytes.head? = some kind.prefixByte := by
  have shared : command.packet ≠ none := by
    intro untold
    cases relays with
    | routed routes => cases command with
      | text | response | pong | handoff | clientData => cases untold
      | _ => cases routes
    | query | ping | flightPlan => cases untold
    | position => exact absurd (decodePacket_position decoded).1 (by tauto)
  obtain ⟨told, named⟩ := Option.ne_none_iff_exists'.mp shared
  have reads := decodePacket_reads decoded (.inl shared)
  rw [encode_packet relays named] at encoded
  cases framed : frame told with
  | error error => rw [framed] at encoded; cases encoded
  | ok out =>
      rw [framed] at encoded
      obtain rfl := Except.ok.inj encoded
      intro other member
      rw [List.mem_singleton.mp member, (frame_ok.mp framed).2.2, RawPacket.output]
      rw [reads.told_family named] at word
      rw [Option.some.inj word]
      rfl

/-- A position is told under the prefix under which it came. -/
theorem position_prefix (decoded : decodePosition packet = .ok command) {context : EncodeContext}
    {event : Event} {frames : List WireFrame} (relays : command.Relays event)
    (encoded : ClassicProtocol.encode context event = .ok frames) :
    ∀ out ∈ frames, out.bytes.head? = some packet.kind.prefixByte := by
  obtain ⟨position, rfl, kind⟩ : ∃ position, command = .position position ∧
      ∀ out, encodePosition position = .ok out → out.bytes.head? = some packet.kind.prefixByte := by
    obtain ⟨kind, pilot, rfl⟩ | ⟨kind, atc, rfl⟩ := decodePosition_kind decoded
    all_goals
      refine ⟨_, rfl, fun out framed => ?_⟩
      rw [kind, (frame_ok.mp framed).2.2]
      rfl
  rw [relays.of_position, ClassicProtocol.encode] at encoded
  cases framed : encodePosition position with
  | error error => rw [framed] at encoded; cases encoded
  | ok out =>
      rw [framed] at encoded
      obtain rfl := Except.ok.inj encoded
      intro other member
      rw [List.mem_singleton.mp member]
      exact kind out framed

end Words

/-! ## Frames -/

theorem opens_position {frame : List UInt8} {kind : RawPacketKind}
    (position : kind = .pilotPosition ∨ kind = .atcPosition)
    (starts : frame.head? = some kind.prefixByte) :
    Opens clientPairs frame ∧ Opens vatsimPairs frame ∧ ¬ Opens strayPairs frame := by
  obtain ⟨rest, rfl⟩ : ∃ rest, frame = [kind.prefixByte] ++ rest := by
    cases frame with
    | nil => cases starts
    | cons b rest => exact ⟨rest, by rw [Option.some.inj starts]; rfl⟩
  have opens : ∃ pair ∈ ["@", "%"], Text.bytes pair = [kind.prefixByte] := by
    obtain rfl | rfl := position <;> decide
  obtain ⟨pair, member, same⟩ := opens
  have begins : Text.bytes pair <+: [kind.prefixByte] ++ rest := same ▸ List.prefix_append _ _
  have listed : pair ∈ clientPairs :=
    (show ∀ pair ∈ ["@", "%"], pair ∈ clientPairs by decide) pair member
  refine ⟨⟨pair, listed, begins⟩, ⟨pair, List.mem_cons_of_mem _ listed, begins⟩, ?_⟩
  rintro ⟨stray, inside, after, spelled⟩
  have heads : ∀ stray ∈ strayPairs, (Text.bytes stray).head? ≠ none ∧
      (Text.bytes stray).head? ≠ some RawPacketKind.pilotPosition.prefixByte ∧
      (Text.bytes stray).head? ≠ some RawPacketKind.atcPosition.prefixByte := by decide
  obtain ⟨filled, noPilot, noAtc⟩ := heads stray inside
  have first := congrArg List.head? spelled
  rw [List.head?_append_of_ne_nil _ (by simpa using filled)] at first
  cases position with
  | inl pilot => exact noPilot (by rw [first, pilot]; rfl)
  | inr atc => exact noAtc (by rw [first, atc]; rfl)

theorem parse_head {frame : List UInt8} {packet : RawPacket}
    (parsed : RawPacket.parse frame = .ok packet) : frame.head? = some packet.kind.prefixByte := by
  obtain ⟨-, rfl | ⟨-, rfl⟩⟩ := RawPacket.parse_ok.mp parsed <;> rfl

/-- The frame of a command packet begins with the prefix and the word. -/
theorem parse_word {frame : List UInt8} {packet : RawPacket}
    (parsed : RawPacket.parse frame = .ok packet)
    (family : packet.kind ≠ .pilotPosition ∧ packet.kind ≠ .atcPosition) :
    ∃ rest, frame = packet.kind.prefixByte :: Text.bytes packet.command ++ rest := by
  obtain ⟨-, rfl | ⟨pilot, -⟩⟩ := RawPacket.parse_ok.mp parsed
  · have head : ∃ rest, packet.head = Text.bytes packet.command ++ rest := by
      unfold RawPacket.head
      split
      · exact absurd ‹_› family.1
      · exact absurd ‹_› family.2
      · split <;> exact ⟨_, List.append_assoc ..⟩
    obtain ⟨rest, head⟩ := head
    exact ⟨_, by rw [RawPacket.output, head, List.append_assoc]; rfl⟩
  · exact absurd pilot family.1

theorem packet_family_iff {frame : List UInt8} {packet : RawPacket} {command : Command}
    (parsed : RawPacket.parse frame = .ok packet) (decoded : decodePacket packet = .ok command) :
    ((Opens clientPairs frame ∧ command.KeepsPrefix frame) ↔ ¬ Opens strayPairs frame) ∧
      ((Opens vatsimPairs frame ∧ command.KeepsPrefix frame) ↔ ¬ Opens strayPairs frame) := by
  have starts := parse_head parsed
  by_cases position : packet.kind = .pilotPosition ∨ packet.kind = .atcPosition
  · obtain ⟨client, vatsim, stray⟩ := opens_position position starts
    have keeps : command.KeepsPrefix frame := by
      intro context event frames relays encoded
      rw [decodePacket, if_pos position] at decoded
      rw [starts]
      exact position_prefix decoded relays encoded
    exact ⟨iff_of_true ⟨client, keeps⟩ stray, iff_of_true ⟨vatsim, keeps⟩ stray⟩
  · have family : packet.kind ≠ .pilotPosition ∧ packet.kind ≠ .atcPosition := by tauto
    obtain ⟨known, plain⟩ := decodePacket_known family decoded
    obtain ⟨rest, spelled⟩ := parse_word parsed family
    obtain ⟨vatsim, client, stray⟩ := opens_word known family rest
    rw [← spelled] at vatsim client stray
    have keeps : wordFamily packet.command = some packet.kind → command.KeepsPrefix frame := by
      intro word context event frames relays encoded
      rw [starts]
      exact told_prefix family decoded word relays encoded
    rw [stray, not_not, client plain, vatsim]
    exact ⟨and_iff_left_of_imp keeps, and_iff_left_of_imp keeps⟩

theorem identification_family_iff {frame : List UInt8} {packet : RawPacket} {command : Command}
    (parsed : RawPacket.parse frame = .ok packet) (word : packet.command = "ID")
    (decoded : VatsimProtocol.decodeIdentification packet = .ok command) :
    (Opens vatsimPairs frame ∧ command.KeepsPrefix frame) ↔ ¬ Opens strayPairs frame := by
  have family := (RawPacket.parse_ok.mp parsed).1.notPosition (by rw [word]; rfl)
  obtain ⟨rest, spelled⟩ := parse_word parsed family
  have known : packet.command ∈ clientWords ++ requestWords := by rw [word]; decide
  obtain ⟨vatsim, -, stray⟩ := opens_word known family rest
  rw [← spelled] at vatsim stray
  have keeps : command.KeepsPrefix frame := by
    intro context event frames relays encoded
    obtain ⟨identification, rfl⟩ := VatsimProtocol.decodeIdentification_ok decoded
    cases relays with
    | routed routes => cases routes
  rw [stray, not_not, vatsim]
  exact and_iff_left keeps

/-- What is decoded from a frame belongs to its pair, and is told under its prefix, unless a stray pair
    opens the frame. -/
theorem decode_family_iff (frame : List UInt8) :
    (∀ command, ClassicProtocol.decode frame = .ok command →
      ((Opens clientPairs frame ∧ command.KeepsPrefix frame) ↔ ¬ Opens strayPairs frame)) ∧
    ∀ command, VatsimProtocol.decode frame = .ok command →
      ((Opens vatsimPairs frame ∧ command.KeepsPrefix frame) ↔ ¬ Opens strayPairs frame) := by
  refine ⟨fun command decoded => ?classic, fun command decoded => ?vatsim⟩
  case classic =>
    unfold ClassicProtocol.decode at decoded
    split at decoded
    · cases decoded
    · exact (packet_family_iff ‹_› decoded).1
  case vatsim =>
    unfold VatsimProtocol.decode at decoded
    split at decoded
    · cases decoded
    · rename_i packet parsed
      split at decoded
      · rw [ClassicProtocol.decode, parsed] at decoded
        exact (packet_family_iff parsed decoded).2
      · exact identification_family_iff parsed (not_not.mp ‹_›) decoded

theorem decode_family_iff_query :
    (Opens clientPairs (Text.bytes "$CQAFR12:*:RN") ∧
      (Command.query Sample.callsign .all .realName []).KeepsPrefix (Text.bytes "$CQAFR12:*:RN")) ∧
    Opens vatsimPairs (Text.bytes "$CQAFR12:*:RN") := by
  have plain : ¬ Opens strayPairs (Text.bytes "$CQAFR12:*:RN") := by decide
  obtain ⟨classic, vatsim⟩ := decode_family_iff (Text.bytes "$CQAFR12:*:RN")
  exact ⟨(classic _ (by decide)).mpr plain,
    ((vatsim (.query Sample.callsign .all .realName []) (by decide)).mpr plain).1⟩

/-- A query under the prefix of the other family is accepted. -/
theorem strayQuery_accepted :
    ClassicProtocol.decode (Text.bytes "#CQAFR12:*:RN") =
        .ok (.query Sample.callsign .all .realName []) ∧
      ¬ Opens clientPairs (Text.bytes "#CQAFR12:*:RN") := by
  decide

end AsterFsd
