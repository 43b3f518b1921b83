import AsterFsd.Lib.Checked
import AsterFsd.Protocol.Vatsim

/-! # Indexing while decoding

The decoders once more, as far as they index or slice: each index and slice of the source panics when it
is out of range. The guards before them rule that out for every frame, and the results are those of the
decoders.
-/

namespace AsterFsd

open Checked

namespace RawPacket

def parseCommandChecked (kind : RawPacketKind) (body : String) : Checked CodecError RawPacket :=
  match Text.splitOnce ':' body with
  | none => throw (.missing "destination separator")
  | some (head, rest) =>
      if head.utf8ByteSize < 2 || !isAscii head then throw .invalidCommand
      else do
        let command ← textTo head 2
        let firstIdentifier ← textFrom head 2
        match Text.split ':' rest with
        | [] => throw (.missing "destination")
        | secondIdentifier :: fields =>
            let (source, destination) :=
              if command = "DI" then (secondIdentifier, firstIdentifier)
              else (firstIdentifier, secondIdentifier)
            return ⟨kind, command, source, destination, fields⟩

def parseChecked (frame : List UInt8) : Checked CodecError RawPacket :=
  if frame.isEmpty then throw .empty
  else do
    let kind ← lift (RawPacketKind.fromPrefix (← index frame 0))
    let rest ← sliceFrom frame 1
    match Text.ofBytes rest with
    | none => throw .invalidUtf8
    | some body =>
        match kind with
        | .pilotPosition => lift (parsePilot body)
        | .atcPosition => lift (parseAtc body)
        | _ => parseCommandChecked kind body

/-- The head of a command is ASCII, so its second byte ends a character. -/
theorem parseCommandChecked_gives (kind : RawPacketKind) (body : String) :
    Gives (parseCommandChecked kind body) (parseCommand kind body) := by
  unfold parseCommandChecked parseCommand
  cases Text.splitOnce ':' body with
  | none => exact gives_throw _
  | some pieces =>
      obtain ⟨head, rest⟩ := pieces
      dsimp only
      split
      · exact gives_throw _
      · rename_i guarded
        simp only [Bool.or_eq_true, decide_eq_true_eq, Bool.not_eq_true', not_or, Nat.not_lt,
          Bool.not_eq_false] at guarded
        obtain ⟨long, ascii⟩ := guarded
        have plain : ∀ c ∈ head.toList, c.toNat < 128 := by
          simpa [isAscii] using ascii
        have boundary : splitChars head.toList 2 = some (head.toList.take 2, head.toList.drop 2) := by
          refine splitChars_ascii plain ?_
          rwa [← Text.byteSize_ascii plain, ← Text.utf8ByteSize_eq]
        refine .orPanic_bind (congrArg (Option.map _) boundary)
          (.orPanic_bind (congrArg (Option.map _) boundary) ?_)
        cases Text.split ':' rest with
        | nil => exact gives_throw _
        | cons secondIdentifier fields => exact gives_pure _

theorem parseChecked_gives (frame : List UInt8) : Gives (parseChecked frame) (parse frame) := by
  cases frame with
  | nil => exact gives_throw _
  | cons first rest =>
      unfold parseChecked parse
      rw [if_neg (by simp)]
      refine .index_bind (by simp) (.lift_bind fun kind _ => ?_)
      refine .orPanic_bind (if_pos (by simp)) ?_
      rw [List.drop_succ_cons, List.drop_zero]
      cases Text.ofBytes rest with
      | none => exact gives_throw _
      | some body =>
          cases kind with
          | pilotPosition | atcPosition => exact gives_lift _
          | _ => exact parseCommandChecked_gives _ body

end RawPacket

namespace ClassicProtocol

def decodePositionChecked (packet : RawPacket) : Checked ProtocolError Command := do
  let callsign ← lift (callsign packet.source .invalidSource)
  match packet.kind with
  | .pilotPosition =>
      if packet.fields.length < 8 then throw (syntaxError "pilot position requires ten fields")
      else
        let mode ← lift (unwrap packet.command.toList.head? (syntaxError "missing mode"))
        let squawk ← lift (canonicalSquawk (← index packet.fields 0))
        let rating ← lift (parseI32 (← index packet.fields 1) "rating")
        let latitude ← lift (parseF64 (← index packet.fields 2) "latitude")
        let longitude ← lift (parseF64 (← index packet.fields 3) "longitude")
        let altitude ← lift (parseI32 (← index packet.fields 4) "altitude")
        let groundspeed ← lift (parseI32 (← index packet.fields 5) "groundspeed")
        let pbh ← lift (parseU32 (← index packet.fields 6) "PBH")
        let flags ← lift (parseI32 (← index packet.fields 7) "flags")
        return .position (.pilot
          { callsign, mode, squawk, rating, latitude, longitude, altitude, groundspeed, pbh, flags })
  | .atcPosition =>
      if packet.fields.length < 7 then throw (syntaxError "ATC position requires eight fields")
      else
        let frequency ← lift (parseI32 (← index packet.fields 0) "frequency")
        let facilityType ← lift (parseI32 (← index packet.fields 1) "facility type")
        let visualRange ← lift (parseI32 (← index packet.fields 2) "visual range")
        let rating ← lift (parseI32 (← index packet.fields 3) "rating")
        let latitude ← lift (parseF64 (← index packet.fields 4) "latitude")
        let longitude ← lift (parseF64 (← index packet.fields 5) "longitude")
        let altitude ← lift (parseI32 (← index packet.fields 6) "altitude")
        return .position (.atc
          { callsign, frequency, facilityType, visualRange, rating, latitude, longitude, altitude })
  | .request | .client | .ivaoSpecific | .ivaoData | .ivaoOther =>
      throw (syntaxError "not a position packet")

def decodeFlightPlanChecked (packet : RawPacket) : Checked ProtocolError Command :=
  if packet.fields.length < 15 then throw (syntaxError "$FP requires seventeen fields")
  else do
    let callsign ← lift (callsign packet.source .invalidSource)
    let flightRules ←
      lift (unwrap (← index packet.fields 0).toList.head? (syntaxError "missing flight rules"))
    let aircraft ← index packet.fields 1
    let cruiseSpeed ← lift (parseI32 (← index packet.fields 2) "cruise speed")
    let departure ← index packet.fields 3
    let estimatedDeparture ← lift (parseI32 (← index packet.fields 4) "estimated departure")
    let actualDeparture ← lift (parseI32 (← index packet.fields 5) "actual departure")
    let cruiseAltitude ← index packet.fields 6
    let destination ← index packet.fields 7
    let hoursEnroute ← lift (parseI32 (← index packet.fields 8) "hours enroute")
    let minutesEnroute ← lift (parseI32 (← index packet.fields 9) "minutes enroute")
    let hoursFuel ← lift (parseI32 (← index packet.fields 10) "hours fuel")
    let minutesFuel ← lift (parseI32 (← index packet.fields 11) "minutes fuel")
    let alternate ← index packet.fields 12
    let remarks ← index packet.fields 13
    let route ← index packet.fields 14
    return .flightPlan
      { callsign, flightRules, aircraft, cruiseSpeed, departure, estimatedDeparture, actualDeparture
        cruiseAltitude, destination, hoursEnroute, minutesEnroute, hoursFuel, minutesFuel, alternate
        remarks, route }

theorem decodePositionChecked_gives (packet : RawPacket) :
    Gives (decodePositionChecked packet) (decodePosition packet) := by
  unfold decodePositionChecked decodePosition
  refine .lift_bind fun callsign _ => ?_
  cases packet.kind with
  | pilotPosition =>
      dsimp only
      split
      · exact gives_throw _
      · rename_i long
        refine .lift_bind fun mode _ => .index_bind (by omega) (.lift_bind fun squawk _ => ?_)
        refine .index_bind (by omega) (.lift_bind fun rating _ => ?_)
        refine .index_bind (by omega) (.lift_bind fun latitude _ => ?_)
        refine .index_bind (by omega) (.lift_bind fun longitude _ => ?_)
        refine .index_bind (by omega) (.lift_bind fun altitude _ => ?_)
        refine .index_bind (by omega) (.lift_bind fun groundspeed _ => ?_)
        refine .index_bind (by omega) (.lift_bind fun pbh _ => ?_)
        refine .index_bind (by omega) (.lift_bind fun flags _ => ?_)
        exact gives_pure _
  | atcPosition =>
      dsimp only
      split
      · exact gives_throw _
      · rename_i long
        refine .index_bind (by omega) (.lift_bind fun frequency _ => ?_)
        refine .index_bind (by omega) (.lift_bind fun facilityType _ => ?_)
        refine .index_bind (by omega) (.lift_bind fun visualRange _ => ?_)
        refine .index_bind (by omega) (.lift_bind fun rating _ => ?_)
        refine .index_bind (by omega) (.lift_bind fun latitude _ => ?_)
        refine .index_bind (by omega) (.lift_bind fun longitude _ => ?_)
        refine .index_bind (by omega) (.lift_bind fun altitude _ => ?_)
        exact gives_pure _
  | _ => exact gives_throw _

theorem decodeFlightPlanChecked_gives (packet : RawPacket) :
    Gives (decodeFlightPlanChecked packet) (decodeFlightPlan packet) := by
  unfold decodeFlightPlanChecked decodeFlightPlan
  split
  · exact gives_throw _
  · rename_i long
    refine .lift_bind fun callsign _ => ?_
    refine .index_bind (by omega) (.lift_bind fun flightRules _ => ?_)
    refine .index_bind (by omega) (.index_bind (by omega) (.lift_bind fun cruiseSpeed _ => ?_))
    refine .index_bind (by omega) (.index_bind (by omega) (.lift_bind fun estimated _ => ?_))
    refine .index_bind (by omega) (.lift_bind fun actual _ => ?_)
    refine .index_bind (by omega) (.index_bind (by omega) ?_)
    refine .index_bind (by omega) (.lift_bind fun hoursEnroute _ => ?_)
    refine .index_bind (by omega) (.lift_bind fun minutesEnroute _ => ?_)
    refine .index_bind (by omega) (.lift_bind fun hoursFuel _ => ?_)
    refine .index_bind (by omega) (.lift_bind fun minutesFuel _ => ?_)
    refine .index_bind (by omega) (.index_bind (by omega) (.index_bind (by omega) ?_))
    exact gives_pure _

def decodePacketChecked (packet : RawPacket) : Checked ProtocolError Command :=
  if packet.kind = .pilotPosition ∨ packet.kind = .atcPosition then decodePositionChecked packet
  else if packet.command ∈ ["CQ", "CR"] then lift (decodeQueryResponse packet)
  else if packet.command ∈ ["WX", "AX"] then lift (decodeWeather packet)
  else if packet.command ∈ ["HO", "HA", "SB", "PC", "C?", "CI"] then
    lift (decodeDirectClientCommand packet)
  else if packet.command ∈ ["AA", "AP"] then lift (decodeLogin packet)
  else if packet.command ∈ ["DA", "DP"] then
    lift ((callsign packet.source .invalidSource).map .logoff)
  else if packet.command = "TM" then lift (decodeText packet)
  else if packet.command = "FP" then decodeFlightPlanChecked packet
  else if packet.command ∈ ["PI", "PO"] then lift (decodePingPong packet)
  else if packet.command = "!!" then lift (decodeKill packet)
  else throw ⟨.unsupported, "unsupported classic command " ++ packet.command, none⟩

def decodeChecked (frame : List UInt8) : Checked ProtocolError Command := do
  let packet ← mapError (fun error => syntaxError (toString error)) (RawPacket.parseChecked frame)
  decodePacketChecked packet

theorem decodePacketChecked_gives (packet : RawPacket) :
    Gives (decodePacketChecked packet) (decodePacket packet) := by
  unfold decodePacketChecked decodePacket
  refine gives_ite (decodePositionChecked_gives packet) (gives_ite (gives_lift _) ?_)
  refine gives_ite (gives_lift _) (gives_ite (gives_lift _) (gives_ite (gives_lift _) ?_))
  refine gives_ite (gives_lift _) (gives_ite (gives_lift _) ?_)
  refine gives_ite (decodeFlightPlanChecked_gives packet) (gives_ite (gives_lift _) ?_)
  exact gives_ite (gives_lift _) (gives_throw _)

theorem decodeChecked_gives (frame : List UInt8) : Gives (decodeChecked frame) (decode frame) := by
  have gives := ((RawPacket.parseChecked_gives frame).mapError fun error =>
    syntaxError (toString error)).bind fun packet _ => decodePacketChecked_gives packet
  have same : decode frame = ((RawPacket.parse frame).mapError fun error =>
      syntaxError (toString error)) >>= decodePacket := by
    unfold decode
    cases RawPacket.parse frame <;> rfl
  rwa [same]

end ClassicProtocol

namespace VatsimProtocol

def decodeChecked (frame : List UInt8) : Checked ProtocolError Command := do
  let packet ← mapError (fun error => ⟨.syntaxError, toString error, none⟩)
    (RawPacket.parseChecked frame)
  if packet.command ≠ "ID" then ClassicProtocol.decodeChecked frame
  else lift (decodeIdentification packet)

theorem decodeChecked_gives (frame : List UInt8) : Gives (decodeChecked frame) (decode frame) := by
  have gives := ((RawPacket.parseChecked_gives frame).mapError fun error =>
    (⟨.syntaxError, toString error, none⟩ : ProtocolError)).bind fun packet _ =>
      gives_ite (p := packet.command ≠ "ID") (ClassicProtocol.decodeChecked_gives frame)
        (gives_lift (decodeIdentification packet))
  have same : decode frame = ((RawPacket.parse frame).mapError fun error =>
      (⟨.syntaxError, toString error, none⟩ : ProtocolError)) >>= fun packet =>
        if packet.command ≠ "ID" then ClassicProtocol.decode frame else decodeIdentification packet := by
    unfold decode
    cases RawPacket.parse frame <;> rfl
  rwa [same]

end VatsimProtocol

/-- Whatever the frame, no decoder indexes out of range: its result is a command or an error. -/
theorem decode_inBounds (frame : List UInt8) :
    Gives (ClassicProtocol.decodeChecked frame) (ClassicProtocol.decode frame) ∧
      Gives (VatsimProtocol.decodeChecked frame) (VatsimProtocol.decode frame) :=
  ⟨ClassicProtocol.decodeChecked_gives frame, VatsimProtocol.decodeChecked_gives frame⟩

end AsterFsd
