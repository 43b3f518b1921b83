import AsterFsd.Protocol.Aster
import AsterFsd.Protocol.Vatsim

/-! # The protocol backends

The three implementations of the backend contract, one for each dialect. A listener selects its backend
by its configured dialect.
-/

namespace AsterFsd

/-- An implementation of the backend contract. -/
inductive ProtocolBackend where
  | classic
  | vatsim
  | asterV1
  deriving DecidableEq, Repr

/-- The backend registered for the dialect. -/
def BackendRegistry.get : ProtocolDialect → ProtocolBackend
  | .classic => .classic
  | .vatsim => .vatsim
  | .asterV1 => .asterV1

namespace ProtocolBackend

def dialect : ProtocolBackend → ProtocolDialect
  | .classic => .classic
  | .vatsim => .vatsim
  | .asterV1 => .asterV1

def initialFrames (json : SerdeJson) (context : HandshakeContext) :
    ProtocolBackend → Except ProtocolError (List WireFrame)
  | .classic => .ok []
  | .vatsim => VatsimProtocol.initialFrames context
  | .asterV1 => AsterProtocolV1.initialFrames json context

def decode (json : SerdeJson) (_context : DecodeContext) (frame : List UInt8) :
    ProtocolBackend → Except ProtocolError Command
  | .classic => ClassicProtocol.decode frame
  | .vatsim => VatsimProtocol.decode frame
  | .asterV1 => AsterProtocolV1.decode json frame

def encode (json : SerdeJson) (context : EncodeContext) (event : Event) :
    ProtocolBackend → Except ProtocolError (List WireFrame)
  | .classic => ClassicProtocol.encode context event
  | .vatsim => VatsimProtocol.encode context event
  | .asterV1 => AsterProtocolV1.encode json context event

/-- Whether the event must be encoded for every recipient anew. -/
def encodingIsRecipientSpecific (_backend : ProtocolBackend) (_event : Event) : Bool := false

theorem dialect_injective {backend other : ProtocolBackend}
    (same : backend.dialect = other.dialect) : backend = other := by
  cases backend <;> cases other <;> first | rfl | cases same

/-- No backend looks at the recipient. -/
theorem encode_context (json : SerdeJson) (backend : ProtocolBackend) (event : Event)
    (context other : EncodeContext) :
    backend.encode json context event = backend.encode json other event := by
  cases backend with
  | classic => rfl
  | vatsim => cases event <;> rfl
  | asterV1 => rfl

end ProtocolBackend

end AsterFsd
