import AsterFsd.Core.Redaction
import AsterFsd.Protocol.Backend
import AsterFsd.Protocol.Tokens

/-! # Frames that differ in a password

A login frame has its password in one field, or in one member of its object. Two login frames that
differ only there decode to commands that differ only in the password, or are both refused.
-/

namespace AsterFsd

/-- What decoding a frame tells, without a password and without the words of an error. -/
def redactDecoded (decoded : Except ProtocolError Command) :
    Except (ProtocolErrorKind × Option ErrorCode) Command :=
  (decoded.map Command.redact).mapError fun error => (error.kind, error.errorCode)

theorem redactDecoded_bind {α : Type} (x : Except ProtocolError α)
    {f g : α → Except ProtocolError Command}
    (same : ∀ a, redactDecoded (f a) = redactDecoded (g a)) :
    redactDecoded (x >>= f) = redactDecoded (x >>= g) := by
  cases x with
  | error error => rfl
  | ok a => exact same a

/-! ## Classic login frames -/

namespace RawPacket

/-- The packet of a login, colons only between its tokens. -/
structure Login (packet : RawPacket) : Prop where
  command : packet.kind ≠ .pilotPosition ∧ packet.kind ≠ .atcPosition
  role : packet.command = "AA" ∨ packet.command = "AP"
  source : ':' ∉ packet.source.toList
  destination : ':' ∉ packet.destination.toList
  fields : ∀ field ∈ packet.fields, ':' ∉ field.toList

/-- The field of the password: a controller states the name first. -/
def passwordField (packet : RawPacket) : Nat := if packet.command = "AA" then 2 else 1

def withPassword (packet : RawPacket) (password : String) : RawPacket :=
  { packet with fields := packet.fields.set packet.passwordField password }

theorem Login.withPassword {packet : RawPacket} (login : packet.Login) {password : String}
    (colonless : ':' ∉ password.toList) : (packet.withPassword password).Login where
  command := login.command
  role := login.role
  source := login.source
  destination := login.destination
  fields := by
    intro field member
    cases List.mem_or_eq_of_mem_set member with
    | inl other => exact login.fields field other
    | inr same =>
        subst same
        exact colonless

/-- A login packet is read from its output, unless its callsign has a character outside ASCII. -/
theorem Login.parse {packet : RawPacket} (login : packet.Login) :
    RawPacket.parse packet.output =
      if isAscii (packet.command ++ packet.source) then .ok packet else .error .invalidCommand := by
  have straight : packet.command ≠ "DI" := by
    cases login.role with
    | inl atc => rw [atc]; decide
    | inr pilot => rw [pilot]; decide
  have first : packet.firstIdentifier = packet.source := if_neg straight
  have letters : packet.command.toList.length = 2 ∧ ':' ∉ packet.command.toList := by
    cases login.role with
    | inl atc => rw [atc]; decide
    | inr pilot => rw [pilot]; decide
  split
  · rename_i ascii
    have tokens : packet.CommandTokens := ⟨letters.1, letters.2, by rw [first]; exact ascii⟩
    exact parse_output (tokens.tokenized login.command login.source login.destination login.fields)
  · rename_i foreign
    refine parse_foreign login.command ?_ (by rw [first]; exact Bool.eq_false_iff.mpr foreign)
    rw [first, String.toList_append, List.mem_append, not_or]
    exact ⟨letters.2, login.source⟩

end RawPacket

/-- Two classic login frames, alike but for the password. -/
inductive LoginFrames : List UInt8 → List UInt8 → Prop where
  | intro {packet : RawPacket} {password password' : String} (login : packet.Login)
      (colonless : ':' ∉ password.toList) (colonless' : ':' ∉ password'.toList) :
      LoginFrames (packet.withPassword password).output (packet.withPassword password').output

/-- Both frames are read as the packet with their password, or neither is read. -/
theorem LoginFrames.parse {frame frame' : List UInt8} (frames : LoginFrames frame frame') :
    (RawPacket.parse frame = .error .invalidCommand ∧
      RawPacket.parse frame' = .error .invalidCommand) ∨
    ∃ packet : RawPacket, ∃ password password', packet.Login ∧
      RawPacket.parse frame = .ok (packet.withPassword password) ∧
      RawPacket.parse frame' = .ok (packet.withPassword password') := by
  cases frames with
  | @intro packet password password' login colonless colonless' =>
      have first := (login.withPassword colonless).parse
      have second := (login.withPassword colonless').parse
      by_cases ascii : isAscii (packet.command ++ packet.source) = true
      · exact .inr ⟨packet, password, password', login, first.trans (if_pos ascii),
          second.trans (if_pos ascii)⟩
      · exact .inl ⟨first.trans (if_neg ascii), second.trans (if_neg ascii)⟩

namespace ClassicProtocol

private theorem field_set {fields : List String} {i j : Nat} (other : i ≠ j) (value name : String) :
    field (fields.set i value) j name = field fields j name := by
  simp [field, List.getElem?_set_ne other]

private theorem field_set_bind {fields : List String} {i : Nat} (long : i < fields.length)
    (value name : String) (f : String → Except ProtocolError Command) :
    (field (fields.set i value) i name >>= f) = f value := by
  have found : field (fields.set i value) i name = .ok value := by simp [field, unwrap, long]
  rw [found]
  rfl

/-- The password of a login packet becomes the password of the command and nothing else. -/
theorem decodeLogin_withPassword (packet : RawPacket) (password password' : String) :
    redactDecoded (decodeLogin (packet.withPassword password)) =
      redactDecoded (decodeLogin (packet.withPassword password')) := by
  unfold decodeLogin
  simp only [RawPacket.withPassword, List.length_set]
  split
  · rename_i atc
    split
    · rfl
    · rename_i enough
      have place : packet.passwordField = 2 := if_pos atc
      have long : 2 < packet.fields.length := by omega
      rw [place]
      simp only [field_set (show 2 ≠ 0 by decide), field_set (show 2 ≠ 1 by decide),
        field_set (show 2 ≠ 3 by decide), field_set (show 2 ≠ 4 by decide), field_set_bind long]
      refine redactDecoded_bind _ fun callsign => ?_
      refine redactDecoded_bind _ fun realName => ?_
      refine redactDecoded_bind _ fun networkId => ?_
      refine redactDecoded_bind _ fun rating => ?_
      refine redactDecoded_bind _ fun requestedRating => ?_
      refine redactDecoded_bind _ fun revision => ?_
      exact redactDecoded_bind _ fun protocolRevision => rfl
  · rename_i other
    split
    · split
      · rfl
      · rename_i enough
        have place : packet.passwordField = 1 := if_neg other
        have long : 1 < packet.fields.length := by omega
        rw [place]
        simp only [field_set (show 1 ≠ 0 by decide), field_set (show 1 ≠ 2 by decide),
          field_set (show 1 ≠ 3 by decide), field_set (show 1 ≠ 4 by decide),
          field_set (show 1 ≠ 5 by decide), field_set_bind long]
        refine redactDecoded_bind _ fun callsign => ?_
        refine redactDecoded_bind _ fun networkId => ?_
        refine redactDecoded_bind _ fun rating => ?_
        refine redactDecoded_bind _ fun requestedRating => ?_
        refine redactDecoded_bind _ fun revision => ?_
        refine redactDecoded_bind _ fun protocolRevision => ?_
        refine redactDecoded_bind _ fun simulator => ?_
        refine redactDecoded_bind _ fun simulatorType => ?_
        exact redactDecoded_bind _ fun realName => rfl
    · rfl

/-- A login packet goes to the login decoder. -/
theorem decodePacket_login {packet : RawPacket} (login : packet.Login) (password : String) :
    decodePacket (packet.withPassword password) = decodeLogin (packet.withPassword password) := by
  have words : packet.command ∉ ["CQ", "CR"] ∧ packet.command ∉ ["WX", "AX"] ∧
      packet.command ∉ ["HO", "HA", "SB", "PC", "C?", "CI"] ∧ packet.command ∈ ["AA", "AP"] := by
    cases login.role with
    | inl atc => rw [atc]; decide
    | inr pilot => rw [pilot]; decide
  have command : ¬ (packet.kind = .pilotPosition ∨ packet.kind = .atcPosition) :=
    fun position => position.elim login.command.1 login.command.2
  exact (if_neg command).trans <| (if_neg words.1).trans <| (if_neg words.2.1).trans <|
    (if_neg words.2.2.1).trans (if_pos words.2.2.2)

theorem decode_loginFrames {frame frame' : List UInt8} (frames : LoginFrames frame frame') :
    redactDecoded (decode frame) = redactDecoded (decode frame') := by
  unfold decode
  obtain ⟨first, second⟩ | ⟨packet, password, password', login, first, second⟩ := frames.parse
  · rw [first, second]
  · rw [first, second]
    simp only [decodePacket_login login]
    exact decodeLogin_withPassword packet password password'

end ClassicProtocol

theorem VatsimProtocol.decode_loginFrames {frame frame' : List UInt8}
    (frames : LoginFrames frame frame') :
    redactDecoded (VatsimProtocol.decode frame) = redactDecoded (VatsimProtocol.decode frame') := by
  have classic := ClassicProtocol.decode_loginFrames frames
  unfold VatsimProtocol.decode
  obtain ⟨first, second⟩ | ⟨packet, password, password', login, first, second⟩ := frames.parse
  · rw [first, second]
  · have word : packet.command ≠ "ID" := by
      cases login.role with
      | inl atc => rw [atc]; decide
      | inr pilot => rw [pilot]; decide
    rw [first, second]
    simp only [RawPacket.withPassword, ne_eq, word, not_false_eq_true, ↓reduceIte]
    exact classic

/-! ## Login objects -/

namespace AsterProtocolV1

def Incoming.redact : Incoming → Incoming
  | .login v callsign clientType networkId _ requestedRating realName simulatorType =>
      .login v callsign clientType networkId "" requestedRating realName simulatorType
  | incoming => incoming

/-- Two lines that the library reads as objects alike but for the password, or refuses both. -/
inductive LoginLines (json : SerdeJson) (line line' : List UInt8) : Prop where
  | read {incoming incoming' : Incoming} (first : json.fromSlice line = .ok incoming)
      (second : json.fromSlice line' = .ok incoming') (same : incoming.redact = incoming'.redact)
  | refused {error error' : String} (first : json.fromSlice line = .error error)
      (second : json.fromSlice line' = .error error')

/-- The password of an object becomes the password of the command and nothing else. -/
theorem intoCommand_redact (incoming : Incoming) :
    redactDecoded incoming.redact.intoCommand = redactDecoded incoming.intoCommand := by
  cases incoming with
  | login v callsign clientType networkId password requestedRating realName simulatorType =>
      by_cases spoken : v = VERSION
      · simp only [Incoming.redact, Incoming.intoCommand, Incoming.version, spoken, ne_eq,
          not_true_eq_false, ↓reduceIte]
        exact redactDecoded_bind _ fun callsign => rfl
      · simp [Incoming.redact, Incoming.intoCommand, Incoming.version, spoken]
  | _ => rfl

theorem decode_loginLines {json : SerdeJson} {line line' : List UInt8}
    (lines : LoginLines json line line') :
    redactDecoded (decode json line) = redactDecoded (decode json line') := by
  unfold decode
  cases lines with
  | refused first second =>
      rw [first, second]
      rfl
  | @read incoming incoming' first second same =>
      rw [first, second]
      calc redactDecoded incoming.intoCommand
          = redactDecoded incoming.redact.intoCommand := (intoCommand_redact incoming).symm
        _ = redactDecoded incoming'.redact.intoCommand := by rw [same]
        _ = redactDecoded incoming'.intoCommand := intoCommand_redact incoming'

end AsterProtocolV1

/-! ## Frames of a backend -/

namespace ProtocolBackend

/-- Two login frames of the dialect that differ only in the password. -/
def SameLogin (json : SerdeJson) (frame frame' : List UInt8) : ProtocolBackend → Prop
  | .classic | .vatsim => LoginFrames frame frame'
  | .asterV1 => AsterProtocolV1.LoginLines json frame frame'

theorem decode_sameLogin {json : SerdeJson} {backend : ProtocolBackend} {frame frame' : List UInt8}
    (same : backend.SameLogin json frame frame') (context : DecodeContext) :
    redactDecoded (backend.decode json context frame) =
      redactDecoded (backend.decode json context frame') := by
  cases backend with
  | classic => exact ClassicProtocol.decode_loginFrames same
  | vatsim => exact VatsimProtocol.decode_loginFrames same
  | asterV1 => exact AsterProtocolV1.decode_loginLines same

end ProtocolBackend

end AsterFsd
