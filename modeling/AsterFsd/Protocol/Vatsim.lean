import AsterFsd.Protocol.ClassicDecode
import AsterFsd.Protocol.ClassicEncode

/-! # The VATSIM-compatible dialect

The server speaks first with `$DI` and the client identifies with `$ID`; presence is announced with the
VATSIM revision. Everything else is classic, the classic frame limit included.
-/

namespace AsterFsd.VatsimProtocol

def frame (packet : RawPacket) : Except ProtocolError WireFrame :=
  match packet.encode 4096 with
  | .error error => .error ⟨.encoding, toString error, none⟩
  | .ok bytes => WireFrame.new bytes

def invalidIdentification (field reason : String) : ProtocolError :=
  ⟨.invalidField, "VATSIM identification field " ++ field ++ " " ++ reason, none⟩

/-- A nine-digit number with an optional sign. -/
def validUniqueNumber (value : String) : Bool :=
  let digits :=
    match value.toList with
    | '+' :: digits => digits
    | '-' :: digits => digits
    | digits => digits
  digits.length = 9 && digits.all Char.isDigit

def isAsciiHexdigit (c : Char) : Bool :=
  c.isDigit || ('a' ≤ c && c ≤ 'f') || ('A' ≤ c && c ≤ 'F')

def encodePresence (event : Event) : Except ProtocolError WireFrame :=
  match event with
  | .clientAdded client =>
      match client.clientType with
      | .atc =>
          frame
            { kind := .client
              command := "AA"
              source := toString client.callsign
              destination := "SERVER"
              fields :=
                [client.realName, client.networkId, "", toString client.rating,
                  toString VATSIM_PROTOCOL_REVISION] }
      | .pilot | .observer =>
          frame
            { kind := .client
              command := "AP"
              source := toString client.callsign
              destination := "SERVER"
              fields :=
                [client.networkId, "", toString client.rating, toString VATSIM_PROTOCOL_REVISION,
                  toString (client.simulatorType.getD 0), client.realName] }
  | _ => .error ⟨.encoding, "VATSIM presence encoder received an unrelated event", none⟩

def initialFrames (context : HandshakeContext) : Except ProtocolError (List WireFrame) :=
  (frame
    { kind := .request
      command := "DI"
      source := "CLIENT"
      destination := "SERVER"
      fields := ["VATSIM FSD V3.13", context.challenge] }).map ([·])

def decodeIdentification (packet : RawPacket) : Except ProtocolError Command :=
  if toAsciiUppercase packet.destination ≠ "SERVER" then
    .error (invalidIdentification "destination" "must be SERVER")
  else
    match packet.fields with
    | [clientId, clientName, major, minor, networkId, uniqueNumber] =>
        if clientId.utf8ByteSize ≠ 4 || !clientId.toList.all isAsciiHexdigit then
          .error (invalidIdentification "client id" "must be four hexadecimal characters")
        else if major ≠ "3" ∨ minor ≠ "2" then
          .error (invalidIdentification "version" "must be 3:2")
        else if networkId.isEmpty then
          .error (invalidIdentification "network id" "must not be empty")
        else if !validUniqueNumber uniqueNumber then
          .error (invalidIdentification "unique number" "must be a signed nine-digit number")
        else
          match Callsign.parse packet.source with
          | .error error =>
              .error (ProtocolError.withErrorCode ⟨.invalidField, toString error, none⟩
                .invalidCallsign)
          | .ok callsign =>
              .ok (.identify { callsign, clientId, clientName, networkId := some networkId })
    | _ => .error ⟨.syntaxError, "$ID requires eight fields", none⟩

theorem decodeIdentification_ok {packet : RawPacket} {command : Command}
    (decoded : decodeIdentification packet = .ok command) :
    ∃ identification, command = .identify identification := by
  unfold decodeIdentification at decoded
  grind

def decode (frame : List UInt8) : Except ProtocolError Command :=
  match RawPacket.parse frame with
  | .error error => .error ⟨.syntaxError, toString error, none⟩
  | .ok packet =>
      if packet.command ≠ "ID" then ClassicProtocol.decode frame else decodeIdentification packet

def encode (context : EncodeContext) (event : Event) : Except ProtocolError (List WireFrame) :=
  match event with
  | .clientAdded _ => (encodePresence event).map ([·])
  | _ => ClassicProtocol.encode context event

/-! ## Which frames encode -/

theorem presenceFrame_isOk {command source destination : String} {fields : List String}
    (straight : command ≠ "DI") (letters : command.utf8ByteSize = 2)
    (plain : Text.Unbroken command) :
    (∃ out, frame ⟨.client, command, source, destination, fields⟩ = .ok out) ↔
      ClassicProtocol.Carries 4096 (source :: destination :: fields) := by
  have written : (∃ out, frame ⟨.client, command, source, destination, fields⟩ = .ok out) ↔ _ :=
    RawPacket.frame_isOk fun error => ⟨.encoding, toString error, none⟩
  rw [written, RawPacket.length_output (.inr rfl) straight,
    RawPacket.any_output (.inr rfl) straight, letters]
  exact ⟨fun ⟨fits, _, unbroken⟩ => ⟨fits, unbroken⟩,
    fun carries => ⟨carries.fits, plain, carries.unbroken⟩⟩

end AsterFsd.VatsimProtocol
