import AsterFsd.Protocol.Wire

/-! # The Aster JSON dialect, version 1

What the dialect makes of a JSON object is here; reading and printing JSON is the work of a library,
which is a parameter.
-/

namespace AsterFsd

/-- A JSON value. -/
inductive Json where
  | null
  | bool (value : Bool)
  | number (value : Int)
  | float (value : Float)
  | string (value : String)
  | array (items : List Json)
  | object (fields : List (String × Json))

/-- Set the value of a key of an object. -/
def Json.insert (fields : List (String × Json)) (key : String) (value : Json) :
    List (String × Json) :=
  fields.filter (fun entry => entry.1 ≠ key) ++ [(key, value)]

namespace AsterProtocolV1

def VERSION : UInt16 := 1

/-- What a client may send, tagged by `type`; every object states the version it speaks. -/
inductive Incoming where
  | identify (v : UInt16) (callsign clientId clientName : String) (networkId : Option String)
  | login (v : UInt16) (callsign : String) (clientType : ClientType) (networkId password : String)
      (requestedRating : Int32) (realName : String) (simulatorType : Option Int32)
  | logoff (v : UInt16) (source : String)
  | position (v : UInt16) (position : Position)
  | text (v : UInt16) (source : String) (destination : Destination) (message : String)
  | flightPlan (v : UInt16) (plan : FlightPlan)
  | query (v : UInt16) (source : String) (destination : Destination) (kind : QueryKind)
      (arguments : List String)
  | response (v : UInt16) (source : String) (destination : Destination) (kind : QueryKind)
      (arguments : List String)
  | ping (v : UInt16) (source : String) (destination : Destination) (payload : String)
  | handoff (v : UInt16) (source target : String) (kind : HandoffKind) (fields : List String)
  | clientData (v : UInt16) (source target : String) (kind : ClientDataKind) (fields : List String)
  | weatherRequest (v : UInt16) (source station : String) (parsed : Bool)
  | kill (v : UInt16) (source target reason : String)

end AsterProtocolV1

open AsterProtocolV1 in
/-- The JSON library with the (de)serializers derived for it: an object a client sent, an event as a
    JSON value, and a value as compact text. -/
structure SerdeJson where
  fromSlice : List UInt8 → Except String Incoming
  toValue : Event → Except String Json
  toVec : Json → Except String (List UInt8)

/-- What the library documents: an event is an object tagged by its kind, every value prints, and
    compact text escapes the control characters of strings and has no line breaks of its own. -/
structure SerdeJson.Documented (json : SerdeJson) : Prop where
  toValue_object : ∀ event, ∃ fields, json.toValue event = .ok (.object fields)
  toVec_line : ∀ value, ∃ bytes, json.toVec value = .ok bytes ∧ bytes.any Text.isDelimiter = false

namespace AsterProtocolV1

namespace Incoming

def version : Incoming → UInt16
  | identify v .. => v
  | login v .. => v
  | logoff v _ => v
  | position v _ => v
  | text v .. => v
  | flightPlan v _ => v
  | query v .. => v
  | response v .. => v
  | ping v .. => v
  | handoff v .. => v
  | clientData v .. => v
  | weatherRequest v .. => v
  | kill v .. => v

def parseCallsign (value : String) : Except ProtocolError Callsign :=
  (Callsign.parse value).mapError fun error => ⟨.invalidField, toString error, none⟩

def intoCommand (incoming : Incoming) : Except ProtocolError Command :=
  if incoming.version ≠ VERSION then
    .error ⟨.version, "unsupported Aster protocol version", none⟩
  else
    match incoming with
    | identify _ callsign clientId clientName networkId => do
        return .identify { callsign := ← parseCallsign callsign, clientId, clientName, networkId }
    | login _ callsign clientType networkId password requestedRating realName simulatorType => do
        return .login
          { callsign := ← parseCallsign callsign, clientType, networkId, password, requestedRating
            protocolRevision := VERSION, realName, simulatorType }
    | logoff _ source => do return .logoff (← parseCallsign source)
    | position _ update => .ok (.position update)
    | text _ source destination message => do
        return .text (← parseCallsign source) destination message
    | flightPlan _ plan => .ok (.flightPlan plan)
    | query _ source destination kind arguments => do
        return .query (← parseCallsign source) destination kind arguments
    | response _ source destination kind arguments => do
        return .response (← parseCallsign source) destination kind arguments
    | ping _ source destination payload => do
        return .ping (← parseCallsign source) destination payload
    | handoff _ source target kind fields => do
        let source ← parseCallsign source
        let target ← parseCallsign target
        return .handoff source target kind fields
    | clientData _ source target kind fields => do
        let source ← parseCallsign source
        let target ← parseCallsign target
        return .clientData source target kind fields
    | weatherRequest _ source station parsed => do
        return .weatherRequest (← parseCallsign source) station parsed
    | kill _ source target reason => do
        let source ← parseCallsign source
        let target ← parseCallsign target
        return .kill source target reason

end Incoming

def encodingError (message : String) : ProtocolError := ⟨.encoding, message, none⟩

def line (json : SerdeJson) (value : Json) : Except ProtocolError (List WireFrame) :=
  match json.toVec value with
  | .error error => .error (encodingError error)
  | .ok bytes => (WireFrame.new bytes).map ([·])

def initialFrames (json : SerdeJson) (context : HandshakeContext) :
    Except ProtocolError (List WireFrame) :=
  line json (.object
    [("v", .number VERSION.toNat), ("type", .string "hello"),
      ("server", .string context.serverName), ("server_version", .string context.serverVersion),
      ("connection_id", .number context.connectionId.value.toNat)])

def decode (json : SerdeJson) (frame : List UInt8) : Except ProtocolError Command :=
  match json.fromSlice frame with
  | .error error => .error ⟨.syntaxError, error, none⟩
  | .ok incoming => incoming.intoCommand

def encode (json : SerdeJson) (_context : EncodeContext) (event : Event) :
    Except ProtocolError (List WireFrame) :=
  match json.toValue event with
  | .error error => .error (encodingError error)
  | .ok (.object fields) => line json (.object (Json.insert fields "v" (.number VERSION.toNat)))
  | .ok _ => .error (encodingError "event did not serialize as an object")

/-- Every event encodes. -/
theorem encode_isOk {json : SerdeJson} (documented : json.Documented) (context : EncodeContext)
    (event : Event) : ∃ frames, encode json context event = .ok frames := by
  obtain ⟨fields, value⟩ := documented.toValue_object event
  obtain ⟨bytes, printed, undelimited⟩ :=
    documented.toVec_line (.object (Json.insert fields "v" (.number VERSION.toNat)))
  refine ⟨[⟨bytes, undelimited⟩], ?_⟩
  simp only [encode, value, line, printed, WireFrame.new_ok undelimited]
  rfl

end AsterProtocolV1

end AsterFsd
