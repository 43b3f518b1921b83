import AsterFsd.Model.Message

/-! # Contracts of the protocol backends

A backend turns the frames of one dialect into commands and events into frames. It keeps no state: the
contexts say what it may know of the connection and its session.
-/

namespace AsterFsd

/-- Category of an adapter error. -/
inductive ProtocolErrorKind where
  | framing
  | syntaxError
  | unsupported
  | invalidField
  | encoding
  | version
  deriving DecidableEq, Repr

/-- Adapter error, optionally carrying a classic error code. -/
structure ProtocolError where
  kind : ProtocolErrorKind
  message : String
  errorCode : Option ErrorCode := none
  deriving DecidableEq

/-- Associates a classic-compatible error code with the error. -/
def ProtocolError.withErrorCode (error : ProtocolError) (errorCode : ErrorCode) : ProtocolError :=
  { error with errorCode := some errorCode }

theorem bind_ok {ε α β : Type} {x : Except ε α} {f : α → Except ε β} {b : β} :
    (x >>= f) = .ok b ↔ ∃ a, x = .ok a ∧ f a = .ok b := by
  cases x <;> simp [bind, Except.bind]

theorem pure_ok {ε α : Type} {a b : α} : (pure a : Except ε α) = .ok b ↔ a = b := by
  simp [pure, Except.pure]

/-- One immutable frame without its transport line delimiter. -/
structure WireFrame where
  bytes : List UInt8
  undelimited : bytes.any Text.isDelimiter = false
  deriving DecidableEq

/-- Creates a frame from owned bytes: framing belongs to the transport codec, so they may not contain
    CR or LF. -/
def WireFrame.new (bytes : List UInt8) : Except ProtocolError WireFrame :=
  if delimited : bytes.any Text.isDelimiter = true then
    .error ⟨.encoding, "wire frame contains a line delimiter", none⟩
  else .ok ⟨bytes, Bool.eq_false_iff.mpr delimited⟩

theorem WireFrame.new_ok {bytes : List UInt8} (undelimited : bytes.any Text.isDelimiter = false) :
    WireFrame.new bytes = .ok ⟨bytes, undelimited⟩ := by
  simp [WireFrame.new, undelimited]

/-- What is known while the frames sent before any command are built. -/
structure HandshakeContext where
  connectionId : ConnectionId
  serverName : String
  serverVersion : String
  challenge : String
  deriving DecidableEq

/-- What is known while an inbound frame is decoded. -/
structure DecodeContext where
  connectionId : ConnectionId
  phase : SessionPhase
  callsign : Option Callsign
  challenge : String
  deriving DecidableEq

/-- What is known while an outbound event is encoded. -/
structure EncodeContext where
  connectionId : ConnectionId
  recipient : Option ClientPresence
  serverName : String
  deriving DecidableEq

end AsterFsd
