import AsterFsd.Core.Weather
import AsterFsd.Protocol.Backend
import AsterFsd.Protocol.Framable

/-! # Weather on the wire

A classic client is told a weather profile in three frames: temperatures, winds and clouds. They say all
there is to the profile but what its visibility has beyond two decimals, and only a visibility of some
three hundred digits makes a frame too long.
-/

namespace AsterFsd

open ClassicProtocol

/-- Lists of one length agree if they are made of the same pieces, and the pieces are of one length. -/
theorem eq_of_flatMap {α β : Type*} {pieces : α → List β} {n : Nat}
    (injective : Function.Injective pieces) (length : ∀ a, (pieces a).length = n) {l l' : List α}
    (lengths : l.length = l'.length) (same : l.flatMap pieces = l'.flatMap pieces) : l = l' := by
  induction l generalizing l' with
  | nil => exact (List.length_eq_zero_iff.mp lengths.symm).symm
  | cons a l ih =>
      cases l' with
      | nil => cases lengths
      | cons b l' =>
          simp only [List.flatMap_cons] at same
          obtain ⟨first, rest⟩ := List.append_inj same ((length a).trans (length b).symm)
          rw [injective first, ih (Nat.succ.inj lengths) rest]

/-! ## The numbers of a profile -/

def TemperatureLayer.numbers (layer : TemperatureLayer) : List Int32 :=
  [layer.ceiling, layer.temperature]

def WindLayer.numbers (layer : WindLayer) : List Int32 :=
  [layer.ceiling, layer.floor, layer.direction, layer.speed, layer.gusting, layer.turbulence]

def CloudLayer.numbers (layer : CloudLayer) : List Int32 :=
  [layer.ceiling, layer.floor, layer.coverage, layer.icing, layer.turbulence]

@[simp] theorem TemperatureLayer.length_numbers (layer : TemperatureLayer) :
    layer.numbers.length = 2 := rfl

theorem TemperatureLayer.numbers_injective : Function.Injective TemperatureLayer.numbers := by
  rintro ⟨_, _⟩ ⟨_, _⟩ same
  simpa [numbers] using same

@[simp] theorem WindLayer.length_numbers (layer : WindLayer) : layer.numbers.length = 6 := rfl

theorem WindLayer.numbers_injective : Function.Injective WindLayer.numbers := by
  rintro ⟨_, _, _, _, _, _⟩ ⟨_, _, _, _, _, _⟩ same
  simpa [numbers] using same

@[simp] theorem CloudLayer.length_numbers (layer : CloudLayer) : layer.numbers.length = 5 := rfl

theorem CloudLayer.numbers_injective : Function.Injective CloudLayer.numbers := by
  rintro ⟨_, _, _, _, _⟩ ⟨_, _, _, _, _⟩ same
  simpa [numbers] using same

namespace WeatherProfile

def temperatureNumbers (profile : WeatherProfile) : List Int32 :=
  profile.temperatures.toList.flatMap TemperatureLayer.numbers ++ [profile.barometer]

def windNumbers (profile : WeatherProfile) : List Int32 :=
  profile.winds.toList.flatMap WindLayer.numbers

def cloudNumbers (profile : WeatherProfile) : List Int32 :=
  (profile.clouds.toList ++ [profile.thunderstorm]).flatMap CloudLayer.numbers

/-- The profiles differ at most in what the visibility has beyond two decimals. -/
structure Agrees (profile other : WeatherProfile) : Prop where
  temperatures : profile.temperatures = other.temperatures
  winds : profile.winds = other.winds
  clouds : profile.clouds = other.clouds
  thunderstorm : profile.thunderstorm = other.thunderstorm
  barometer : profile.barometer = other.barometer
  visibility : Decimal.fixed 2 profile.visibility = Decimal.fixed 2 other.visibility

theorem length_temperatureNumbers (profile : WeatherProfile) :
    profile.temperatureNumbers.length = 9 := by
  simp [temperatureNumbers, List.length_flatMap]

theorem length_windNumbers (profile : WeatherProfile) : profile.windNumbers.length = 24 := by
  simp [windNumbers, List.length_flatMap]

theorem length_cloudNumbers (profile : WeatherProfile) : profile.cloudNumbers.length = 15 := by
  simp [cloudNumbers, List.length_flatMap]

/-- The numbers and the printed visibility are all there is to a profile. -/
theorem agrees_of_numbers {profile other : WeatherProfile}
    (temperature : profile.temperatureNumbers = other.temperatureNumbers)
    (wind : profile.windNumbers = other.windNumbers) (cloud : profile.cloudNumbers = other.cloudNumbers)
    (visibility : Decimal.fixed 2 profile.visibility = Decimal.fixed 2 other.visibility) :
    profile.Agrees other := by
  obtain ⟨temperature, barometer⟩ := List.append_inj' temperature rfl
  have layers := eq_of_flatMap TemperatureLayer.numbers_injective TemperatureLayer.length_numbers
    (by simp) temperature
  have winds := eq_of_flatMap WindLayer.numbers_injective WindLayer.length_numbers (by simp) wind
  have clouds := eq_of_flatMap CloudLayer.numbers_injective CloudLayer.length_numbers (by simp) cloud
  obtain ⟨clouds, thunderstorm⟩ := List.append_inj' clouds rfl
  exact ⟨Vector.toList_inj.mp layers, Vector.toList_inj.mp winds, Vector.toList_inj.mp clouds,
    (List.cons.inj thunderstorm).1, (List.cons.inj barometer).1, visibility⟩

/-! ## Packets -/

def temperaturePacket (profile : WeatherProfile) (destination : Callsign) : RawPacket :=
  ⟨.client, "TD", "server", toString destination, profile.temperatureNumbers.map toString⟩

def windPacket (profile : WeatherProfile) (destination : Callsign) : RawPacket :=
  ⟨.client, "WD", "server", toString destination, profile.windNumbers.map toString⟩

def cloudPacket (profile : WeatherProfile) (destination : Callsign) : RawPacket :=
  ⟨.client, "CD", "server", toString destination,
    profile.cloudNumbers.map toString ++ [Decimal.fixed 2 profile.visibility]⟩

/-- The packets in which a client is told the profile. -/
def packets (profile : WeatherProfile) (destination : Callsign) : List RawPacket :=
  [profile.temperaturePacket destination, profile.windPacket destination,
    profile.cloudPacket destination]

theorem agrees_of_packets {profile other : WeatherProfile} {destination destination' : Callsign}
    (same : profile.packets destination = other.packets destination') :
    destination = destination' ∧ profile.Agrees other := by
  simp only [packets, temperaturePacket, windPacket, cloudPacket, List.cons.injEq, RawPacket.mk.injEq,
    true_and, and_true] at same
  obtain ⟨⟨named, temperature⟩, ⟨-, wind⟩, -, cloud⟩ := same
  obtain ⟨cloud, visibility⟩ := List.append_inj' cloud rfl
  have printed := List.map_injective_iff.mpr Decimal.toString_int32_injective
  exact ⟨Callsign.ext named, agrees_of_numbers (printed temperature) (printed wind) (printed cloud)
    (List.cons.inj visibility).1⟩

/-! ## Printed numbers -/

/-- Printed numbers take twelve bytes each at most, with their separators. -/
theorem lineSize_numbers (numbers : List Int32) :
    RawPacket.lineSize (numbers.map toString) ≤ 12 * numbers.length := by
  induction numbers with
  | nil => exact Nat.le_refl 0
  | cons number numbers ih =>
      have short := (Decimal.short_int32 number).size
      simp only [List.map_cons, RawPacket.lineSize_cons, List.length_cons]
      omega

/-- Printed numbers are fields of one line. -/
theorem printed_numbers (numbers : List Int32) :
    ∀ field ∈ numbers.map toString, Colonless field ∧ Text.Unbroken field := by
  simp only [List.forall_mem_map]
  exact fun number _ => ⟨Decimal.colonless_toString number, (Decimal.short_int32 number).unbroken⟩

/-! ## Frames -/

variable {profile : WeatherProfile} {destination : Callsign}

theorem encodeProfile_ok {frames : List WireFrame} :
    encodeProfile destination profile = .ok frames ↔
      profile.validate = .ok () ∧ ∃ temperature wind cloud,
        frame (profile.temperaturePacket destination) = .ok temperature ∧
          frame (profile.windPacket destination) = .ok wind ∧
            frame (profile.cloudPacket destination) = .ok cloud ∧ frames = [temperature, wind, cloud] := by
  have temperatures : ((profile.temperatures.toList.flatMap fun layer =>
      [toString layer.ceiling, toString layer.temperature]) ++ [toString profile.barometer]) =
        profile.temperatureNumbers.map toString := by
    simp [temperatureNumbers, TemperatureLayer.numbers, List.map_flatMap]
  have winds : profile.winds.toList.flatMap windFields = profile.windNumbers.map toString := by
    rw [windNumbers, List.map_flatMap]
    rfl
  have clouds : (profile.clouds.toList ++ [profile.thunderstorm]).flatMap cloudFields =
      profile.cloudNumbers.map toString := by
    rw [cloudNumbers, List.map_flatMap]
    rfl
  unfold encodeProfile commandFrame
  rw [temperatures, winds, clouds]
  split
  · rename_i invalid
    simp [invalid]
  · rename_i valid
    simp only [bind_ok, pure_ok]
    constructor
    · rintro ⟨temperature, first, wind, second, cloud, third, rfl⟩
      exact ⟨valid, temperature, wind, cloud, first, second, third, rfl⟩
    · rintro ⟨-, temperature, wind, cloud, first, second, third, rfl⟩
      exact ⟨temperature, first, wind, second, cloud, third, rfl⟩

/-- The fields of the three packets are printed without colons and without line ends. -/
theorem packets_fields (valid : profile.validate = .ok ()) {packet : RawPacket}
    (member : packet ∈ profile.packets destination) :
    ∀ field ∈ packet.fields, Colonless field ∧ Text.Unbroken field := by
  have finite := finite_of_validate valid
  simp only [packets, List.mem_cons, List.not_mem_nil, or_false] at member
  obtain rfl | rfl | rfl := member
  · exact printed_numbers _
  · exact printed_numbers _
  · refine List.forall_mem_append.mpr ⟨printed_numbers _, List.forall_mem_singleton.mpr ?_⟩
    exact ⟨Decimal.colonless_fixed finite 2, Decimal.unbroken_fixed finite 2⟩

theorem words_worded : ∀ word ∈ ["TD", "WD", "CD"],
    RawPacket.Worded .client word ∧ Text.Unbroken word ∧ word.utf8ByteSize = 2 := by
  have known : ∀ word ∈ ["TD", "WD", "CD"], word.toList.length = 2 ∧ word ≠ "DI" ∧
      ':' ∉ word.toList ∧ isAscii word = true ∧ Text.Unbroken word ∧ word.utf8ByteSize = 2 := by
    decide
  intro word member
  obtain ⟨letters, straight, colonless, ascii, plain, size⟩ := known word member
  exact ⟨⟨.inr rfl, letters, straight, colonless, ascii⟩, plain, size⟩

/-- The three packets are client packets of a word of two letters, from the server. -/
theorem packets_worded {packet : RawPacket} (member : packet ∈ profile.packets destination) :
    RawPacket.Worded packet.kind packet.command ∧ Text.Unbroken packet.command ∧
      packet.command.utf8ByteSize = 2 ∧ packet.source = "server" ∧
        packet.destination = toString destination := by
  simp only [packets, List.mem_cons, List.not_mem_nil, or_false] at member
  obtain rfl | rfl | rfl := member
  · obtain ⟨worded, plain, size⟩ := words_worded "TD" (.head _)
    exact ⟨worded, plain, size, rfl, rfl⟩
  · obtain ⟨worded, plain, size⟩ := words_worded "WD" (.tail _ (.head _))
    exact ⟨worded, plain, size, rfl, rfl⟩
  · obtain ⟨worded, plain, size⟩ := words_worded "CD" (.tail _ (.tail _ (.head _)))
    exact ⟨worded, plain, size, rfl, rfl⟩

theorem packets_tokenized (valid : profile.validate = .ok ()) {packet : RawPacket}
    (member : packet ∈ profile.packets destination) : packet.Tokenized := by
  obtain ⟨worded, -, -, source, named⟩ := packets_worded member
  refine worded.tokenized_of_ascii (source ▸ by decide) (source ▸ by decide)
    (named ▸ destination.colonless) ?_
  exact fun field written => (packets_fields valid member field written).1

/-- A packet of the three is framed if its bytes are within the limit and the callsign is of one line. -/
theorem packets_framed (valid : profile.validate = .ok ()) {packet : RawPacket}
    (member : packet ∈ profile.packets destination) :
    (∃ out, frame packet = .ok out) ↔ Text.Unbroken (toString destination) ∧
      packet.output.length ≤ CLASSIC_MAX_FRAME_BYTES := by
  obtain ⟨worded, plain, -, source, named⟩ := packets_worded member
  have fields : ∀ field ∈ packet.fields, Text.Unbroken field :=
    fun field written => (packets_fields valid member field written).2
  rw [frame_isOk, RawPacket.any_output worded.family worded.straight, source, named]
  simp only [List.forall_mem_cons]
  exact ⟨fun ⟨fits, _, _, clean, _⟩ => ⟨clean, fits⟩,
    fun ⟨clean, fits⟩ => ⟨fits, plain, by decide, clean, fields⟩⟩

theorem length_packet {packet : RawPacket} (member : packet ∈ profile.packets destination) :
    packet.output.length ≤ 22 + RawPacket.lineSize packet.fields := by
  obtain ⟨worded, -, letters, source, named⟩ := packets_worded member
  have short : (toString destination).utf8ByteSize ≤ 12 := destination.valid.length.2
  have server : "server".utf8ByteSize = 6 := by decide
  rw [RawPacket.length_output worded.family worded.straight, letters, source, named]
  simp only [RawPacket.lineSize_cons]
  omega

/-- The numbers always fit, and so does a visibility of three hundred digits. -/
theorem cloudPacket_fits (short : (Decimal.fixed 2 profile.visibility).utf8ByteSize ≤ 308) :
    (profile.cloudPacket destination).output.length ≤ CLASSIC_MAX_FRAME_BYTES := by
  have told : profile.cloudPacket destination ∈ profile.packets destination := by simp [packets]
  have bytes := length_packet told
  have numbers := lineSize_numbers profile.cloudNumbers
  rw [length_cloudNumbers] at numbers
  simp only [cloudPacket, RawPacket.lineSize_append, RawPacket.lineSize_cons,
    RawPacket.lineSize_nil] at bytes ⊢
  change _ ≤ 511
  omega

/-- A profile encodes if it is valid, the callsign is of one line, and the clouds are within the limit. -/
theorem encodeProfile_isOk :
    (∃ frames, encodeProfile destination profile = .ok frames) ↔
      profile.validate = .ok () ∧ Text.Unbroken (toString destination) ∧
        (profile.cloudPacket destination).output.length ≤ CLASSIC_MAX_FRAME_BYTES := by
  constructor
  · intro ⟨frames, encoded⟩
    obtain ⟨valid, _, _, cloud, -, -, framed, -⟩ := encodeProfile_ok.mp encoded
    exact ⟨valid, (packets_framed valid (by simp [packets])).mp ⟨cloud, framed⟩⟩
  · intro ⟨valid, clean, fits⟩
    have numbered {packet : RawPacket} (member : packet ∈ profile.packets destination)
        {numbers : List Int32} (fields : packet.fields = numbers.map toString)
        (few : numbers.length ≤ 24) : ∃ out, frame packet = .ok out := by
      have bytes := length_packet member
      have size := lineSize_numbers numbers
      rw [fields] at bytes
      refine (packets_framed valid member).mpr ⟨clean, ?_⟩
      change _ ≤ 511
      omega
    have warm : profile.temperaturePacket destination ∈ profile.packets destination := by
      simp [packets]
    have windy : profile.windPacket destination ∈ profile.packets destination := by simp [packets]
    obtain ⟨temperature, first⟩ := numbered warm rfl (by simp [length_temperatureNumbers])
    obtain ⟨wind, second⟩ := numbered windy rfl (by simp [length_windNumbers])
    obtain ⟨cloud, third⟩ := (packets_framed valid (by simp [packets])).mpr ⟨clean, fits⟩
    exact ⟨_, encodeProfile_ok.mpr ⟨valid, temperature, wind, cloud, first, second, third, rfl⟩⟩

/-- The frames of a profile are read as its packets. -/
theorem encodeProfile_parsed {frames : List WireFrame}
    (encoded : encodeProfile destination profile = .ok frames) :
    frames.map (fun out => RawPacket.parse out.bytes) = (profile.packets destination).map .ok := by
  obtain ⟨valid, temperature, wind, cloud, first, second, third, rfl⟩ := encodeProfile_ok.mp encoded
  have parsed {packet : RawPacket} {out : WireFrame} (member : packet ∈ profile.packets destination)
      (framed : frame packet = .ok out) : RawPacket.parse out.bytes = .ok packet := by
    rw [(frame_ok.mp framed).2.2]
    exact RawPacket.parse_output (packets_tokenized valid member)
  simp only [packets, List.map_cons, List.map_nil]
  rw [parsed (by simp [packets]) first, parsed (by simp [packets]) second,
    parsed (by simp [packets]) third]

theorem encodeProfile_agrees {other : WeatherProfile} {destination' : Callsign}
    {frames : List WireFrame} (encoded : encodeProfile destination profile = .ok frames)
    (encoded' : encodeProfile destination' other = .ok frames) :
    destination = destination' ∧ profile.Agrees other := by
  have same := (encodeProfile_parsed encoded).symm.trans (encodeProfile_parsed encoded')
  refine agrees_of_packets (List.map_injective_iff.mpr ?_ same)
  exact fun _ _ => Except.ok.inj

end WeatherProfile

/-! ## Weather that is told -/

open WeatherProfile

variable {profile : WeatherProfile} {destination : Callsign}

theorem encode_weatherProfile {json : SerdeJson} {context : EncodeContext} {protocol : ProtocolDialect}
    {station : String} (classic : protocol ≠ .asterV1) :
    (BackendRegistry.get protocol).encode json context (.weatherProfile destination station profile) =
      encodeProfile destination profile := by
  cases protocol with
  | classic | vatsim => rfl
  | asterV1 => exact absurd rfl classic

/-- A profile that the core tells is valid. -/
theorem World.step_profile {config : CoreConfig} {as : List Action} {w w' : World} {action : Action}
    (trace : (machine config).Trace as w) (step : w.step config action = some w') {delivery : Delivery}
    (member : delivery ∈ (w.committed config action).deliveries) {station : String}
    (told : delivery.event = .weatherProfile destination station profile) :
    profile.validate = .ok () := by
  obtain ⟨id, lookup, answer, rfl⟩ := World.step_weather step member (by rw [told]; rfl)
  obtain ⟨c, source, parsed, event, -, reply, committed⟩ := World.step_observed trace step
  rw [committed] at member
  obtain rfl := List.mem_singleton.mp member
  obtain rfl : event = _ := told
  cases reply with
  | profile observed valid => exact valid

/-- In every run, a weather profile that the core tells is encoded for the classic dialects exactly if the
    callsign of the client is of one line and the clouds are within the limit, which takes a visibility of
    more than three hundred digits to exceed. The frames are read as its packets, and frames of another
    profile are the same only if the client is the same and the profile differs at most in what its
    visibility has beyond two decimals. -/
theorem weather_legible (config : CoreConfig) (as : List Action) (w w' : World) (action : Action)
    (trace : (machine config).Trace as w) (step : w.step config action = some w') (delivery : Delivery)
    (member : delivery ∈ (w.committed config action).deliveries) (destination : Callsign)
    (station : String) (profile : WeatherProfile)
    (told : delivery.event = .weatherProfile destination station profile) (json : SerdeJson)
    (protocol : ProtocolDialect) (classic : protocol ≠ .asterV1) (context : EncodeContext) :
    ((∃ frames, (BackendRegistry.get protocol).encode json context delivery.event = .ok frames) ↔
      Text.Unbroken (toString destination) ∧
        (profile.cloudPacket destination).output.length ≤ CLASSIC_MAX_FRAME_BYTES) ∧
    ((Decimal.fixed 2 profile.visibility).utf8ByteSize ≤ 308 →
      (profile.cloudPacket destination).output.length ≤ CLASSIC_MAX_FRAME_BYTES) ∧
    ∀ frames, (BackendRegistry.get protocol).encode json context delivery.event = .ok frames →
      frames.map (fun out => RawPacket.parse out.bytes) = (profile.packets destination).map .ok ∧
      ∀ context' destination' station' other,
        (BackendRegistry.get protocol).encode json context'
            (.weatherProfile destination' station' other) = .ok frames →
          destination = destination' ∧ profile.Agrees other := by
  have valid := World.step_profile trace step member told
  simp only [told, encode_weatherProfile classic]
  refine ⟨?_, cloudPacket_fits, ?_⟩
  · rw [encodeProfile_isOk]
    exact and_iff_right valid
  · intro frames encoded
    exact ⟨encodeProfile_parsed encoded,
      fun _ _ _ _ encoded' => encodeProfile_agrees encoded encoded'⟩

namespace Sample

/-- A pilot asks for the weather at a station. -/
def profileRun : List Action :=
  loginRun ++ [.call 1 ⟨1⟩ (.weatherRequest callsign "EDDF" true), .lock 1]

def clouds : CloudLayer := ⟨10000, 5000, 3, 0, 1⟩

def weatherProfile : WeatherProfile :=
  { temperatures := .replicate 4 ⟨1000, 15⟩
    winds := .replicate 4 ⟨1000, 0, 240, 8, 0, 1⟩
    clouds := .replicate 2 clouds
    thunderstorm := clouds
    barometer := 2992
    visibility := 12.5 }

def answers : Action :=
  .answered 1 (.observed ⟨"EDDF", none⟩ (.ok (some ⟨none, some weatherProfile⟩)))

end Sample

/-- The pilot is told the weather in frames that are read as its packets. -/
theorem weather_legible_pilot : ∃ w w', (machine Sample.config).Trace Sample.profileRun w ∧
    w.step Sample.config Sample.answers = some w' ∧
    ∀ json, ∃ frames, (BackendRegistry.get .classic).encode json ⟨⟨1⟩, none, ""⟩
        (.weatherProfile Sample.callsign "EDDF" Sample.weatherProfile) = .ok frames ∧
      frames.map (fun out => RawPacket.parse out.bytes) =
        (Sample.weatherProfile.packets Sample.callsign).map .ok := by
  have trace := (machine Sample.config).trace_final Sample.profileRun (by decide)
  have stepped : (((machine Sample.config).final Sample.profileRun (by decide)).step Sample.config
      Sample.answers).isSome = true := by decide
  have told : ⟨[⟨1⟩], .weatherProfile Sample.callsign "EDDF" Sample.weatherProfile⟩ ∈
      (((machine Sample.config).final Sample.profileRun (by decide)).committed Sample.config
        Sample.answers).deliveries := by decide
  refine ⟨_, _, trace, (Option.some_get stepped).symm, fun json => ?_⟩
  obtain ⟨encodes, fits, read⟩ := weather_legible Sample.config _ _ _ Sample.answers trace
    (Option.some_get stepped).symm _ told Sample.callsign "EDDF" Sample.weatherProfile rfl json .classic
    (by decide) ⟨⟨1⟩, none, ""⟩
  obtain ⟨frames, encoded⟩ := encodes.mpr ⟨by decide, fits (by decide)⟩
  exact ⟨frames, encoded, (read frames encoded).1⟩

end AsterFsd
