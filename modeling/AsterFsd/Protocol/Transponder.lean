import AsterFsd.Protocol.Framable
import AsterFsd.Protocol.Vatsim

/-! # Transponder codes on the wire

A transponder code is an integer on the wire. Decoding a classic position spells the code anew; a
position of a JSON client keeps the spelling of the client.
-/

namespace AsterFsd

open ClassicProtocol

/-! ## Reading -/

theorem canonicalSquawk_ok {value squawk : String} (read : canonicalSquawk value = .ok squawk) :
    ∃ n : Nat, squawk = toString n := by
  unfold canonicalSquawk at read
  split at read
  · cases read
  · split at read
    · rename_i n _
      exact ⟨n.toNat, (Except.ok.inj read).symm⟩
    · cases read

theorem digits_of_validSquawk {value : String} (valid : Position.validSquawk value = true) :
    value ≠ "" ∧ value.utf8ByteSize ≤ 4 ∧ ∀ c ∈ value.toList, c.isDigit = true := by
  simp only [Position.validSquawk, Bool.and_eq_true, Bool.not_eq_true', String.isEmpty_eq_false_iff,
    decide_eq_true_eq, List.all_eq_true] at valid
  obtain ⟨⟨filled, short⟩, octal⟩ := valid
  refine ⟨filled, short, ?_⟩
  intro c member
  obtain ⟨low, high⟩ := octal c member
  exact Char.isDigit_iff_toNat.mpr ⟨UInt32.le_iff_toNat_le.mp low,
    (UInt32.le_iff_toNat_le.mp high).trans (by decide)⟩

/-- A valid code is read as the spelling of its number. -/
theorem canonicalSquawk_valid {value : String} (valid : Position.validSquawk value = true) :
    ∃ n : Nat, canonicalSquawk value = .ok (toString n) ∧
      (toString n = value ↔ Decimal.Canonical value) := by
  obtain ⟨filled, short, digits⟩ := digits_of_validSquawk valid
  have bound : Nat.ofDigitChars 10 value.toList 0 < 2 ^ 16 := by
    have length := (Text.length_le_utf8ByteSize value).trans short
    have below := Decimal.ofDigitChars_lt digits
    have power : 10 ^ value.toList.length ≤ 10 ^ 4 := Nat.pow_le_pow_right (by decide) length
    omega
  refine ⟨Nat.ofDigitChars 10 value.toList 0, ?_, Decimal.toString_ofDigitChars filled digits⟩
  simp only [canonicalSquawk, valid, Decimal.parseUInt16, Decimal.parseUnsigned_digits filled digits bound,
    Option.map_some]
  rw [if_neg (by decide), show toString (UInt16.ofNat (Nat.ofDigitChars 10 value.toList 0)) =
    toString (UInt16.ofNat (Nat.ofDigitChars 10 value.toList 0)).toNat from rfl,
    UInt16.toNat_ofNat_of_lt' bound]

/-- The code of a position that was read from a classic frame is spelled canonically. -/
theorem decode_squawk_canonical {frame : List UInt8} {pilot : PilotPosition}
    (decoded : ClassicProtocol.decode frame = .ok (.position (.pilot pilot)) ∨
      VatsimProtocol.decode frame = .ok (.position (.pilot pilot))) :
    Decimal.Canonical pilot.squawk := by
  have classic : ClassicProtocol.decode frame = .ok (.position (.pilot pilot)) := by
    cases decoded with
    | inl classic => exact classic
    | inr vatsim =>
        unfold VatsimProtocol.decode at vatsim
        split at vatsim
        · cases vatsim
        · split at vatsim
          · exact vatsim
          · obtain ⟨_, identifies⟩ := VatsimProtocol.decodeIdentification_ok vatsim
            cases identifies
  unfold ClassicProtocol.decode at classic
  split at classic
  · cases classic
  obtain ⟨-, position⟩ := decodePacket_position classic
  simp only [decodePosition, bind_ok] at position
  obtain ⟨_, _, position⟩ := position
  split at position
  · split at position
    · cases position
    · simp only [bind_ok, pure_ok] at position
      obtain ⟨_, _, _, code, _, _, _, _, _, _, _, _, _, _, _, _, _, _, same⟩ := position
      obtain ⟨n, spelled⟩ := canonicalSquawk_ok code
      cases same
      rw [spelled]
      exact Decimal.canonical_toString n
  · split at position
    · cases position
    · simp only [bind_ok, pure_ok] at position
      obtain ⟨_, _, _, _, _, _, _, _, _, _, _, _, _, _, same⟩ := position
      cases same
  all_goals cases position

/-! ## Writing -/

/-- The packet in which a pilot's position is told. -/
def PilotPosition.packet (pilot : PilotPosition) : RawPacket where
  kind := .pilotPosition
  command := String.singleton pilot.mode
  source := toString pilot.callsign
  destination := ""
  fields :=
    [pilot.squawk, toString pilot.rating, Decimal.fixed 5 pilot.latitude,
      Decimal.fixed 5 pilot.longitude, toString pilot.altitude, toString pilot.groundspeed,
      toString pilot.pbh, toString pilot.flags]

/-- The token of the transponder code is the spelling of a number. -/
def TokenCanonical (frames : List WireFrame) : Prop :=
  ∃ out packet, ∃ n : Nat, frames = [out] ∧ RawPacket.parse out.bytes = .ok packet ∧
    packet.fields[0]? = some (toString n)

/-- A peer that decodes the frame gets the same report, apart from the printed coordinates. -/
def PilotPosition.HeardIn (pilot : PilotPosition) (frames : List WireFrame) : Prop :=
  ∃ out heard, frames = [out] ∧ ClassicProtocol.decode out.bytes = .ok (.position (.pilot heard)) ∧
    heard.callsign = pilot.callsign ∧ heard.squawk = pilot.squawk ∧ heard.mode = pilot.mode ∧
    heard.rating = pilot.rating ∧ heard.altitude = pilot.altitude ∧
    heard.groundspeed = pilot.groundspeed ∧ heard.pbh = pilot.pbh ∧ heard.flags = pilot.flags

section Valid

variable {pilot : PilotPosition}

theorem PilotPosition.tokenized (valid : (Position.pilot pilot).validate = .ok ()) :
    pilot.packet.Tokenized := by
  obtain ⟨latitude, longitude, shape⟩ := Position.validate_ok valid
  obtain ⟨mode, squawk⟩ := shape pilot rfl
  have digits := (digits_of_validSquawk squawk).2.2
  have command : pilot.packet.command = "N" ∨ pilot.packet.command = "S" ∨ pilot.packet.command = "Y" := by
    change String.singleton pilot.mode = _ ∨ String.singleton pilot.mode = _ ∨
      String.singleton pilot.mode = _
    obtain mode | mode | mode := mode <;> rw [mode] <;> decide
  have named : pilot.packet.source ≠ "" := by
    intro empty
    have size := pilot.callsign.valid.length.1
    rw [show pilot.callsign.text = "" from empty] at size
    exact absurd size (by decide)
  refine ⟨⟨command, named, rfl⟩, pilot.callsign.colonless, by simp [PilotPosition.packet], ?_⟩
  change ∀ field ∈ [pilot.squawk, _, _, _, _, _, _, _], ':' ∉ field.toList
  have code : ':' ∉ pilot.squawk.toList := by
    intro member
    cases digits ':' member
  simp only [List.forall_mem_cons]
  exact ⟨code, Decimal.colonless_toString _,
    Decimal.colonless_fixed latitude.1 5, Decimal.colonless_fixed longitude.1 5,
    Decimal.colonless_toString _, Decimal.colonless_toString _, Decimal.colonless_nat _,
    Decimal.colonless_toString _, List.forall_mem_nil _⟩

/-- A peer reads the report with the code spelled anew. -/
theorem decode_pilot (valid : (Position.pilot pilot).validate = .ok ()) {squawk : String}
    (canonical : canonicalSquawk pilot.squawk = .ok squawk) :
    ∃ latitude longitude, ClassicProtocol.decode pilot.packet.output =
      .ok (.position (.pilot { pilot with squawk, latitude, longitude })) := by
  obtain ⟨latitude, longitude, -⟩ := Position.validate_ok valid
  obtain ⟨north, readNorth⟩ := Decimal.parseFloat_fixed latitude.1 5
  obtain ⟨east, readEast⟩ := Decimal.parseFloat_fixed longitude.1 5
  have speaker : callsign (toString pilot.callsign) .invalidSource = .ok pilot.callsign :=
    callsign_ok.mpr (Callsign.parse_toString _)
  have integer (i : Int32) (name : String) : parseI32 (toString i) name = .ok i :=
    parseI32_ok.mpr (Decimal.parseInt32_toString i)
  have unsigned : parseU32 (toString pilot.pbh) "PBH" = .ok pilot.pbh :=
    unwrap_ok.mpr (Decimal.parseUInt32_toString _)
  have north' : parseF64 (Decimal.fixed 5 pilot.latitude) "latitude" = .ok north := unwrap_ok.mpr readNorth
  have east' : parseF64 (Decimal.fixed 5 pilot.longitude) "longitude" = .ok east := unwrap_ok.mpr readEast
  refine ⟨north, east, ?_⟩
  rw [ClassicProtocol.decode, RawPacket.parse_output (PilotPosition.tokenized valid)]
  change decodePosition pilot.packet = _
  have mode : unwrap (String.singleton pilot.mode).toList.head? (syntaxError "missing mode") =
      .ok pilot.mode := by
    rw [String.toList_singleton]
    rfl
  simp only [decodePosition, PilotPosition.packet, speaker, mode, canonical, integer, unsigned, north', east',
    List.getElem_cons_zero, List.getElem_cons_succ, List.length_cons, List.length_nil, bind, Except.bind]
  rfl

/-- A pilot's position becomes one frame, whose code is as in the position. -/
theorem encode_pilot {context : EncodeContext} {frames : List WireFrame}
    (encoded : ClassicProtocol.encode context (.position (.pilot pilot)) = .ok frames) :
    ∃ out, frames = [out] ∧ out.bytes = pilot.packet.output := by
  rw [ClassicProtocol.encode, show encodePosition (.pilot pilot) = frame pilot.packet from rfl] at encoded
  cases framed : frame pilot.packet with
  | error error => rw [framed] at encoded; cases encoded
  | ok out =>
      rw [framed] at encoded
      exact ⟨out, (Except.ok.inj encoded).symm, (frame_ok.mp framed).2.2⟩

theorem tokenCanonical_iff (valid : (Position.pilot pilot).validate = .ok ()) {frames : List WireFrame}
    {context : EncodeContext}
    (encoded : ClassicProtocol.encode context (.position (.pilot pilot)) = .ok frames) :
    TokenCanonical frames ↔ Decimal.Canonical pilot.squawk := by
  obtain ⟨out, rfl, bytes⟩ := encode_pilot encoded
  have parsed := RawPacket.parse_output (PilotPosition.tokenized valid)
  constructor
  · rintro ⟨_, packet, n, same, read, token⟩
    obtain rfl := (List.cons.inj same).1
    rw [bytes, parsed] at read
    obtain rfl := Except.ok.inj read
    rw [show pilot.squawk = toString n from Option.some.inj token]
    exact Decimal.canonical_toString n
  · intro canonical
    obtain ⟨_, squawk⟩ := (Position.validate_ok valid).2.2 pilot rfl
    obtain ⟨n, -, spelled⟩ := canonicalSquawk_valid squawk
    exact ⟨out, pilot.packet, n, rfl, by rw [bytes, parsed], by rw [spelled.mpr canonical]; rfl⟩

theorem heardIn_iff (valid : (Position.pilot pilot).validate = .ok ()) {frames : List WireFrame}
    {context : EncodeContext}
    (encoded : ClassicProtocol.encode context (.position (.pilot pilot)) = .ok frames) :
    pilot.HeardIn frames ↔ Decimal.Canonical pilot.squawk := by
  obtain ⟨out, rfl, bytes⟩ := encode_pilot encoded
  obtain ⟨_, squawk⟩ := (Position.validate_ok valid).2.2 pilot rfl
  obtain ⟨n, code, spelled⟩ := canonicalSquawk_valid squawk
  obtain ⟨latitude, longitude, decoded⟩ := decode_pilot valid code
  rw [← spelled]
  constructor
  · rintro ⟨_, heard, same, read, -, report⟩
    obtain rfl := (List.cons.inj same).1
    rw [bytes, decoded] at read
    cases read
    exact report.1
  · intro same
    exact ⟨out, { pilot with squawk := toString n, latitude, longitude }, rfl, by rw [bytes, decoded],
      rfl, same, rfl, rfl, rfl, rfl, rfl, rfl⟩

end Valid

/-! ## Positions of any client -/

/-- A pilot's position is told to the others as it came, and the code in its frame is spelled canonically
    exactly when the client spelled it so. -/
theorem transponder_canonical_iff (config : CoreConfig) (w w' : World)
    (reach : (machine config).Reachable w) (action : Action) (c : ConnectionId) (pilot : PilotPosition)
    (step : w.step config action = some w')
    (operation : w.operation action = some (c, some (.position (.pilot pilot)))) :
    (∀ delivery ∈ (w.committed config action).deliveries, ∀ r ∈ delivery.recipients, r ≠ c →
      delivery.event = .position (.pilot pilot)) ∧
    ((Position.pilot pilot).validate = .ok () → ∀ context frames,
      ClassicProtocol.encode context (.position (.pilot pilot)) = .ok frames ∨
        VatsimProtocol.encode context (.position (.pilot pilot)) = .ok frames →
      (TokenCanonical frames ↔ Decimal.Canonical pilot.squawk) ∧
        (pilot.HeardIn frames ↔ Decimal.Canonical pilot.squawk)) := by
  constructor
  · intro delivery member r named other
    obtain ⟨_, _, same, sends⟩ | ⟨_, _, rfl, -⟩ := World.step_sends reach step member
    · obtain ⟨rfl, rfl⟩ := Prod.mk.inj (Option.some.inj (operation.symm.trans same))
      have shared : ¬ (Command.position (.pilot pilot)).Unshared := fun unshared => unshared.2 _ rfl
      exact (sends.relays shared named other).of_position
    · cases operation
  · intro valid context frames encoded
    have classic : ClassicProtocol.encode context (.position (.pilot pilot)) = .ok frames :=
      encoded.elim id id
    exact ⟨tokenCanonical_iff valid classic, heardIn_iff valid classic⟩

namespace Sample

/-- The Aster pilot of two reports its position. -/
def report (squawk : String) : PilotPosition where
  callsign := callsign
  mode := 'N'
  squawk := squawk
  rating := 1
  latitude := 47.5
  longitude := 8.5
  altitude := 1000
  groundspeed := 120
  pbh := 0
  flags := 0

def reports (squawk : String) : List Action :=
  mixedPilots ++ [.call 2 ⟨1⟩ (.position (.pilot (report squawk)))]

def paddedFrame : WireFrame :=
  ⟨Text.bytes "@N:AFR12:0007:1:47.50000:8.50000:1000:120:0:0", by decide⟩

def spelledFrame : WireFrame :=
  ⟨Text.bytes "@N:AFR12:700:1:47.50000:8.50000:1000:120:0:0", by decide⟩

end Sample

set_option maxRecDepth 4000 in
/-- A JSON client whose code has zeros before it: the position is accepted and its frame keeps them. -/
theorem json_squawk_unspelled :
    ¬ ∀ (config : CoreConfig) (w w' : World) (action : Action) (c : ConnectionId)
      (incoming : AsterProtocolV1.Incoming) (pilot : PilotPosition), (machine config).Reachable w →
      w.step config action = some w' →
      w.operation action = some (c, some (.position (.pilot pilot))) →
      incoming.intoCommand = .ok (.position (.pilot pilot)) →
      (w'.state.sessions.lookup c).bind (·.position) = some (.pilot pilot) →
      ∀ context frames, ClassicProtocol.encode context (.position (.pilot pilot)) = .ok frames →
        TokenCanonical frames := by
  intro all
  have trace := (machine Sample.config).trace_final (Sample.reports "0007") (by decide)
  have accepted : (((machine Sample.config).final (Sample.reports "0007") (by decide)).step
      Sample.config (.lock 2)).bind (fun w => (w.state.sessions.lookup ⟨1⟩).bind (·.position)) =
      some (.pilot (Sample.report "0007")) := by decide
  obtain ⟨w', step, stored⟩ := Option.bind_eq_some_iff.mp accepted
  have encoded : ClassicProtocol.encode ⟨⟨2⟩, none, ""⟩ (.position (.pilot (Sample.report "0007"))) =
      .ok [Sample.paddedFrame] := by decide
  have token := all Sample.config _ w' (.lock 2) ⟨1⟩ (.position 1 (.pilot (Sample.report "0007"))) _
    trace.reachable step (by decide) (by decide) stored ⟨⟨2⟩, none, ""⟩ _ encoded
  have canonical := (tokenCanonical_iff (by decide) encoded).mp token
  revert canonical
  decide

set_option maxRecDepth 4000 in
theorem transponder_canonical_iff_spelled :
    ∃ w w', (machine Sample.config).Trace (Sample.reports "700") w ∧
      w.step Sample.config (.lock 2) = some w' ∧
      ClassicProtocol.encode ⟨⟨2⟩, none, ""⟩ (.position (.pilot (Sample.report "700"))) =
        .ok [Sample.spelledFrame] ∧
      TokenCanonical [Sample.spelledFrame] ∧ (Sample.report "700").HeardIn [Sample.spelledFrame] := by
  have trace := (machine Sample.config).trace_final (Sample.reports "700") (by decide)
  have stepped : (((machine Sample.config).final (Sample.reports "700") (by decide)).step Sample.config
      (.lock 2)).isSome = true := by decide
  have encoded : ClassicProtocol.encode ⟨⟨2⟩, none, ""⟩ (.position (.pilot (Sample.report "700"))) =
      .ok [Sample.spelledFrame] := by decide
  obtain ⟨-, told⟩ := transponder_canonical_iff Sample.config _ _ trace.reachable (.lock 2) ⟨1⟩
    (Sample.report "700") (Option.some_get stepped).symm (by decide)
  obtain ⟨token, heard⟩ := told (by decide) ⟨⟨2⟩, none, ""⟩ _ (.inl encoded)
  exact ⟨_, _, trace, (Option.some_get stepped).symm, encoded, token.mpr (by decide),
    heard.mpr (by decide)⟩

end AsterFsd
