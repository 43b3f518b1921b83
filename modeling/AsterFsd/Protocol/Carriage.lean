import AsterFsd.Core.Audience
import AsterFsd.Protocol.Backend

/-! # What a classic frame can carry

What a command tells other connections has to fit the wire of each of them. A JSON line carries every
event. The two classic dialects carry an event when the strings of the issuer in it make one line of the
classic frame limit; what the server and the authenticator add to it is short.
-/

namespace AsterFsd

open ClassicProtocol

/-- The strings of the issuer in what the command tells other connections, as classic tokens. -/
def Command.tokens : Command → List String
  | .login command => [toString command.callsign]
  | .logoff source => [toString source]
  | .position update => [toString update.callsign]
  | .kill _ target _ => [toString target]
  | .text source destination message => [toString source, destinationText destination, message]
  | .flightPlan plan => toString plan.callsign :: destinationText .atc :: flightPlanFields plan
  | .query source destination kind arguments =>
      toString source :: destinationText destination :: queryKindText kind :: arguments
  | .response source destination kind arguments =>
      toString source :: destinationText destination :: queryKindText kind :: arguments
  | .ping source destination payload => [toString source, destinationText destination, payload]
  | .pong source destination payload => [toString source, destinationText destination, payload]
  | .handoff source target _ fields => toString source :: toString target :: fields
  | .clientData source target _ fields => toString source :: toString target :: fields
  | .noop _ | .identify _ | .weatherRequest .. => []

/-- A classic frame can carry what the command tells other connections. -/
def Command.Carriable (command : Command) : Prop := Carries CLASSIC_MAX_FRAME_BYTES command.tokens

instance (command : Command) : Decidable command.Carriable := inferInstanceAs (Decidable (Carries ..))

/-! ## Short lines -/

theorem lineSize_le_of_short {token : String} {size bound : Nat} {tokens : List String}
    (short : Text.Short size token) (rest : RawPacket.lineSize tokens ≤ bound) :
    RawPacket.lineSize (token :: tokens) ≤ 1 + size + bound := by
  have fits := short.size
  simp only [RawPacket.lineSize_cons]
  omega

/-- With nothing but short lines after it, only the characters of a callsign matter. -/
theorem carries_callsign {callsign : Callsign} {tokens : List String} {limit : Nat}
    (room : 15 + RawPacket.lineSize tokens ≤ limit)
    (unbroken : ∀ token ∈ tokens, Text.Unbroken token) :
    Carries limit (toString callsign :: tokens) ↔ Text.Unbroken (toString callsign) := by
  have short : (toString callsign).utf8ByteSize ≤ 12 := callsign.valid.length.2
  constructor
  · exact fun carries => carries.unbroken _ List.mem_cons_self
  · intro clean
    refine ⟨?_, List.forall_mem_cons.mpr ⟨clean, unbroken⟩⟩
    simp only [RawPacket.lineSize_cons]
    omega

/-! ## Announcements and positions -/

/-- Short lines after a callsign, with a bound for each. -/
inductive ShortLines : Nat → List String → Prop where
  | nil : ShortLines 0 []
  | cons {token : String} {tokens : List String} {size bound : Nat} (short : Text.Short size token)
      (rest : ShortLines bound tokens) : ShortLines (1 + size + bound) (token :: tokens)

theorem ShortLines.spec {bound : Nat} {tokens : List String} (lines : ShortLines bound tokens) :
    RawPacket.lineSize tokens ≤ bound ∧ ∀ token ∈ tokens, Text.Unbroken token := by
  induction lines with
  | nil => exact ⟨Nat.le_refl 0, fun _ member => nomatch member⟩
  | cons short rest ih =>
      exact ⟨lineSize_le_of_short short ih.1, List.forall_mem_cons.mpr ⟨short.unbroken, ih.2⟩⟩

theorem ShortLines.carries {callsign : Callsign} {tokens : List String} {bound limit : Nat}
    (lines : ShortLines bound tokens) (room : 15 + bound ≤ limit) :
    Carries limit (toString callsign :: tokens) ↔ Text.Unbroken (toString callsign) :=
  carries_callsign (by have fits := lines.spec.1; omega) lines.spec.2

private theorem map_isOk {ε α β : Type} {x : Except ε α} {f : α → β} :
    (∃ b, x.map f = .ok b) ↔ ∃ a, x = .ok a := by
  cases x with
  | error error => simp [Except.map]
  | ok a => simp [Except.map]

private theorem clientAdded_isOk {presence : ClientPresence}
    (plain : PlainNames presence.networkId presence.realName) (context : EncodeContext) :
    (∃ frames, ClassicProtocol.encode context (.clientAdded presence) = .ok frames) ↔
      Text.Unbroken (toString presence.callsign) := by
  have server : Text.Short 6 "SERVER" := ⟨by decide, by decide⟩
  have empty : Text.Short 0 "" := ⟨by decide, by decide⟩
  have rating := Decimal.short_int32 presence.rating
  have revision := Decimal.short_uint16 CLASSIC_PROTOCOL_REVISION
  have simulator := Decimal.short_int32 (presence.simulatorType.getD 0)
  simp only [ClassicProtocol.encode, map_isOk, ClassicProtocol.encodePresence]
  cases presence.clientType with
  | atc =>
      rw [commandFrame_isOk (.inr rfl) (by decide) (by decide) (by decide)]
      exact (ShortLines.cons server (.cons plain.realName (.cons plain.networkId (.cons empty
        (.cons rating (.cons revision .nil)))))).carries (by decide)
  | pilot | observer =>
      rw [commandFrame_isOk (.inr rfl) (by decide) (by decide) (by decide)]
      exact (ShortLines.cons server (.cons plain.networkId (.cons empty (.cons rating
        (.cons revision (.cons simulator .nil)))))).carries (by decide)

private theorem vatsim_clientAdded_isOk {presence : ClientPresence}
    (plain : PlainNames presence.networkId presence.realName) (context : EncodeContext) :
    (∃ frames, VatsimProtocol.encode context (.clientAdded presence) = .ok frames) ↔
      Text.Unbroken (toString presence.callsign) := by
  have server : Text.Short 6 "SERVER" := ⟨by decide, by decide⟩
  have empty : Text.Short 0 "" := ⟨by decide, by decide⟩
  have rating := Decimal.short_int32 presence.rating
  have revision := Decimal.short_uint16 VATSIM_PROTOCOL_REVISION
  have simulator := Decimal.short_int32 (presence.simulatorType.getD 0)
  simp only [VatsimProtocol.encode, map_isOk, VatsimProtocol.encodePresence]
  cases presence.clientType with
  | atc =>
      rw [VatsimProtocol.presenceFrame_isOk (by decide) (by decide) (by decide)]
      exact (ShortLines.cons server (.cons plain.realName (.cons plain.networkId (.cons empty
        (.cons rating (.cons revision .nil)))))).carries (by decide)
  | pilot | observer =>
      rw [VatsimProtocol.presenceFrame_isOk (by decide) (by decide) (by decide)]
      exact (ShortLines.cons server (.cons plain.networkId (.cons empty (.cons rating
        (.cons revision (.cons simulator (.cons plain.realName .nil))))))).carries (by decide)

private theorem clientRemoved_isOk {callsign : Callsign} {clientType : ClientType}
    {networkId : String} (plain : Text.Short 200 networkId) (context : EncodeContext) :
    (∃ frames, ClassicProtocol.encode context (.clientRemoved callsign clientType networkId) =
        .ok frames) ↔ Text.Unbroken (toString callsign) := by
  simp only [ClassicProtocol.encode, map_isOk, ClassicProtocol.encodePresence]
  split
  all_goals
    rw [commandFrame_isOk (.inr rfl) (by decide) (by decide) (by decide)]
    exact (ShortLines.cons plain .nil).carries (by decide)

private theorem short_squawk {squawk : String} (valid : Position.validSquawk squawk = true) :
    Text.Short 4 squawk := by
  simp only [Position.validSquawk, Bool.and_eq_true, decide_eq_true_eq, List.all_eq_true] at valid
  refine ⟨valid.1.2, Text.unbroken_iff.mpr ?_⟩
  intro c member
  have octal := valid.2 c member
  constructor <;> (rintro rfl; revert octal; decide)

/-- A coordinate within a bound of three digits prints short. -/
private theorem short_coordinate (bound : Float) (m : Nat) (e : Int) {x : Float}
    (lower : ∃ p, (-bound).toModel.unpack = .finite .negative m e p)
    (upper : ∃ p, bound.toModel.unpack = .finite .positive m e p) (small : e ≤ -45)
    (valid : x.isFinite = true ∧ -bound ≤ x ∧ x ≤ bound) : Text.Short 10 (Decimal.fixed 5 x) := by
  obtain ⟨_, lower⟩ := lower
  obtain ⟨_, upper⟩ := upper
  obtain ⟨finite, low, high⟩ := valid
  exact Decimal.short_fixed (show 0 < 5 by decide) finite lower upper small low high

private theorem position_isOk {position : Position} (valid : position.validate = .ok ())
    (context : EncodeContext) :
    (∃ frames, ClassicProtocol.encode context (.position position) = .ok frames) ↔
      Text.Unbroken (toString position.callsign) := by
  have callsign : (toString position.callsign).utf8ByteSize ≤ 12 := position.callsign.valid.length.2
  obtain ⟨latitude, longitude, pilot⟩ := Position.validate_ok valid
  have latitude := short_coordinate 90.0 (90 * 2 ^ 46) (-46)
    ⟨by decide, by rfl⟩ ⟨by decide, by rfl⟩ (by decide) latitude
  have longitude := short_coordinate 180.0 (180 * 2 ^ 45) (-45)
    ⟨by decide, by rfl⟩ ⟨by decide, by rfl⟩ (by decide) longitude
  simp only [ClassicProtocol.encode, map_isOk, ClassicProtocol.encodePosition, frame_isOk,
    RawPacket.length_output_head, RawPacket.any_output_head]
  cases position with
  | pilot position =>
      change (toString position.callsign).utf8ByteSize ≤ 12 at callsign
      change Text.Short 10 (Decimal.fixed 5 position.latitude) at latitude
      change Text.Short 10 (Decimal.fixed 5 position.longitude) at longitude
      obtain ⟨mode, squawk⟩ := pilot position rfl
      have mode : Text.Short 1 (String.singleton position.mode) := by
        obtain mode | mode | mode := mode <;> rw [mode] <;> exact ⟨by decide, by decide⟩
      obtain ⟨fits, unbroken⟩ := (ShortLines.cons (short_squawk squawk)
        (.cons (Decimal.short_int32 position.rating) (.cons latitude (.cons longitude
          (.cons (Decimal.short_int32 position.altitude)
            (.cons (Decimal.short_int32 position.groundspeed)
              (.cons (Decimal.short_uint32 position.pbh)
                (.cons (Decimal.short_int32 position.flags) .nil)))))))).spec
      have size := mode.size
      have colon : Text.isDelimiter ':'.toUInt8 = false := by decide
      simp only [RawPacket.head, List.any_append, List.any_cons, Bool.or_eq_false_iff,
        Text.any_delimiter_bytes, List.length_append, List.length_cons, Text.length_bytes, colon,
        true_and]
      constructor
      · exact fun written => written.2.1.2
      · intro clean
        refine ⟨?_, ⟨mode.unbroken, clean⟩, unbroken⟩
        change _ ≤ 511
        omega
  | atc position =>
      change (toString position.callsign).utf8ByteSize ≤ 12 at callsign
      change Text.Short 10 (Decimal.fixed 5 position.latitude) at latitude
      change Text.Short 10 (Decimal.fixed 5 position.longitude) at longitude
      obtain ⟨fits, unbroken⟩ := (ShortLines.cons (Decimal.short_int32 position.frequency)
        (.cons (Decimal.short_int32 position.facilityType)
          (.cons (Decimal.short_int32 position.visualRange)
            (.cons (Decimal.short_int32 position.rating) (.cons latitude (.cons longitude
              (.cons (Decimal.short_int32 position.altitude) .nil))))))).spec
      simp only [RawPacket.head, Text.any_delimiter_bytes, Text.length_bytes]
      constructor
      · exact fun written => written.2.1
      · intro clean
        refine ⟨?_, clean, unbroken⟩
        change _ ≤ 511
        omega

/-! ## Commands -/

private theorem carries_single {callsign : Callsign} :
    Carries CLASSIC_MAX_FRAME_BYTES [toString callsign] ↔ Text.Unbroken (toString callsign) :=
  carries_callsign (by decide) fun _ member => nomatch member

private theorem relayed_isOk {command : Command} {destination : Destination}
    {policy : RangePolicy} {event : Event}
    (relayed : Network.routed command = some (destination, policy, event))
    (context : EncodeContext) :
    (∃ frames, ClassicProtocol.encode context event = .ok frames) ↔ command.Carriable := by
  cases command with
  | text | response | pong =>
      cases relayed
      simp only [ClassicProtocol.encode, map_isOk, encodeRouted, encodeQuery]
      exact commandFrame_isOk (by decide) (by decide) (by decide) (by decide)
  | handoff source target kind fields =>
      cases relayed
      simp only [ClassicProtocol.encode, map_isOk, encodeRouted]
      cases kind <;> exact commandFrame_isOk (by decide) (by decide) (by decide) (by decide)
  | clientData source target kind fields =>
      cases relayed
      simp only [ClassicProtocol.encode, map_isOk, encodeRouted]
      cases kind <;> exact commandFrame_isOk (by decide) (by decide) (by decide) (by decide)
  | _ => cases relayed

/-- A classic frame holds what a command tells others exactly when it can carry the command. -/
theorem classic_isOk {command : Command} {event : Event} (tells : command.Tells event)
    (context : EncodeContext) :
    (∃ frames, ClassicProtocol.encode context event = .ok frames) ↔ command.Carriable := by
  cases tells with
  | relayed relayed => exact relayed_isOk relayed context
  | query =>
      simp only [ClassicProtocol.encode, map_isOk, encodeQuery]
      exact commandFrame_isOk (by decide) (by decide) (by decide) (by decide)
  | ping =>
      simp only [ClassicProtocol.encode, map_isOk, encodeRouted]
      exact commandFrame_isOk (by decide) (by decide) (by decide) (by decide)
  | flightPlan =>
      simp only [ClassicProtocol.encode, map_isOk, encodeFlightPlan]
      exact commandFrame_isOk (by decide) (by decide) (by decide) (by decide)
  | position valid => exact (position_isOk valid context).trans carries_single.symm
  | login plain => exact (clientAdded_isOk plain context).trans carries_single.symm
  | logoff plain => exact (clientRemoved_isOk plain context).trans carries_single.symm
  | kill plain => exact (clientRemoved_isOk plain context).trans carries_single.symm

private theorem vatsim_isOk {command : Command} {event : Event} (tells : command.Tells event)
    (context : EncodeContext) :
    (∃ frames, VatsimProtocol.encode context event = .ok frames) ↔ command.Carriable := by
  cases tells with
  | relayed relayed =>
      rw [← relayed_isOk relayed context]
      cases command <;> first | cases relayed; rfl | cases relayed
  | login plain => exact (vatsim_clientAdded_isOk plain context).trans carries_single.symm
  | query => exact classic_isOk .query context
  | ping => exact classic_isOk .ping context
  | flightPlan => exact classic_isOk .flightPlan context
  | position valid => exact classic_isOk (.position valid) context
  | logoff plain => exact classic_isOk (.logoff plain) context
  | kill plain => exact classic_isOk (.kill plain) context

/-- The dialects of classic frames encode what a command tells others exactly when a classic frame can
    carry the command; the JSON dialect always does. -/
theorem tells_isOk {json : SerdeJson} (documented : json.Documented) {command : Command}
    {event : Event} (tells : command.Tells event) (backend : ProtocolBackend)
    (context : EncodeContext) :
    (∃ frames, backend.encode json context event = .ok frames) ↔
      backend = .asterV1 ∨ command.Carriable := by
  cases backend with
  | classic =>
      refine (classic_isOk tells context).trans ?_
      simp
  | vatsim =>
      refine (vatsim_isOk tells context).trans ?_
      simp
  | asterV1 => exact iff_of_true (AsterProtocolV1.encode_isOk documented context event) (.inl rfl)

/-! ## Notices -/

/-- The strings of the issuer in the notice to the target of a kill, as classic tokens. -/
def Command.notice : Command → List String
  | .kill _ target reason => ["SERVER", toString target, reason]
  | _ => []

/-- A classic frame can carry the strings that the issuer put into the event. -/
def Command.Fits (command : Command) (event : Event) : Prop :=
  Carries CLASSIC_MAX_FRAME_BYTES (if event.disconnects then command.notice else command.tokens)

theorem Command.Tells.undisturbing {command : Command} {event : Event} (tells : command.Tells event) :
    event.disconnects = false := by
  cases tells with
  | relayed routes => cases command <;> cases routes <;> rfl
  | _ => rfl

theorem disconnect_isOk (target : Callsign) (reason : String) (context : EncodeContext) :
    (∃ frames, ClassicProtocol.encode context (.disconnect target reason) = .ok frames) ↔
      Carries CLASSIC_MAX_FRAME_BYTES ["SERVER", toString target, reason] := by
  simp only [ClassicProtocol.encode, map_isOk, encodeRouted]
  exact commandFrame_isOk (by decide) (by decide) (by decide) (by decide)

/-- What a command makes the core address to another connection encodes for a classic dialect exactly
    when a classic frame can carry it, and always for the JSON dialect. -/
theorem Spoken.isOk {json : SerdeJson} (documented : json.Documented) {killed : ConnectionId → Prop}
    {issuer r : ConnectionId} {command : Command} {event : Event}
    (spoken : Spoken killed issuer command r event) (other : r ≠ issuer) (backend : ProtocolBackend)
    (context : EncodeContext) :
    (∃ frames, backend.encode json context event = .ok frames) ↔
      backend = .asterV1 ∨ command.Fits event := by
  cases spoken with
  | answer => exact absurd rfl other
  | said tells =>
      rw [tells_isOk documented tells backend context, Command.Fits, tells.undisturbing]
      rfl
  | @killed source target reason r accepted =>
      have written := disconnect_isOk target reason context
      cases backend with
      | classic =>
          refine written.trans ?_
          simp [Command.Fits, Event.disconnects, Command.notice]
      | vatsim =>
          refine written.trans ?_
          simp [Command.Fits, Event.disconnects, Command.notice]
      | asterV1 =>
          exact iff_of_true (AsterProtocolV1.encode_isOk documented context _) (.inl rfl)

end AsterFsd
