import AsterFsd.Model.Identity

/-! # Positions, flight plans and weather

A Rust `f64` is a `Float`: both are IEEE binary64, and Lean's comparison, addition, multiplication,
division and square root reduce. The trigonometric functions have no fixed precision in Rust and are
opaque here.
-/

namespace AsterFsd

/-- Equality of floats as bit patterns, so that records with coordinates can be compared. -/
instance decidableEqFloat : DecidableEq Float := fun a b =>
  decidable_of_iff (a.toModel = b.toModel)
    ⟨fun same => by cases a; cases b; cases same; rfl, fun same => congrArg Float.toModel same⟩

/-- Authoritative pilot position decoded from a protocol adapter. -/
structure PilotPosition where
  callsign : Callsign
  mode : Char
  squawk : String
  rating : Int32
  latitude : Float
  longitude : Float
  altitude : Int32
  groundspeed : Int32
  pbh : UInt32
  flags : Int32
  deriving DecidableEq

/-- Authoritative controller position decoded from a protocol adapter. -/
structure AtcPosition where
  callsign : Callsign
  frequency : Int32
  facilityType : Int32
  visualRange : Int32
  rating : Int32
  latitude : Float
  longitude : Float
  altitude : Int32
  deriving DecidableEq

/-- Position update for either a pilot or controller session. -/
inductive Position where
  | pilot (position : PilotPosition)
  | atc (position : AtcPosition)
  deriving DecidableEq

namespace Position

/-- The callsign whose authoritative position is being updated. -/
def callsign : Position → Callsign
  | .pilot position => position.callsign
  | .atc position => position.callsign

/-- Latitude and longitude in decimal degrees. -/
def coordinates : Position → Float × Float
  | .pilot position => (position.latitude, position.longitude)
  | .atc position => (position.latitude, position.longitude)

/-- The reported altitude in feet. -/
def altitude : Position → Int32
  | .pilot position => position.altitude
  | .atc position => position.altitude

/-- A transponder code: one to four octal digits. -/
def validSquawk (squawk : String) : Bool :=
  !squawk.isEmpty && squawk.utf8ByteSize ≤ 4 && squawk.toList.all (fun c => '0' ≤ c && c ≤ '7')

/-- Validates protocol-independent position invariants. -/
def validate (position : Position) : Except ModelError Unit :=
  let (latitude, longitude) := position.coordinates
  if !latitude.isFinite || !(-90.0 ≤ latitude && latitude ≤ 90.0) then
    .error (.invalidField "latitude" "must be finite and between -90 and 90")
  else if !longitude.isFinite || !(-180.0 ≤ longitude && longitude ≤ 180.0) then
    .error (.invalidField "longitude" "must be finite and between -180 and 180")
  else
    match position with
    | .pilot position =>
        if !(position.mode == 'N' || position.mode == 'S' || position.mode == 'Y') then
          .error (.invalidField "mode" "must be N, S, or Y")
        else if !validSquawk position.squawk then
          .error (.invalidField "squawk" "must contain between one and four octal digits")
        else .ok ()
    | .atc position =>
        if position.visualRange < 0 then
          .error (.invalidField "visual_range" "must be non-negative")
        else .ok ()

/-- What a valid position guarantees of its coordinates, and a pilot's of its mode and squawk. -/
theorem validate_ok {position : Position} (valid : position.validate = .ok ()) :
    (position.coordinates.1.isFinite = true ∧ -90.0 ≤ position.coordinates.1 ∧
      position.coordinates.1 ≤ 90.0) ∧
    (position.coordinates.2.isFinite = true ∧ -180.0 ≤ position.coordinates.2 ∧
      position.coordinates.2 ≤ 180.0) ∧
    ∀ pilot, position = .pilot pilot →
      (pilot.mode = 'N' ∨ pilot.mode = 'S' ∨ pilot.mode = 'Y') ∧
        Position.validSquawk pilot.squawk = true := by
  unfold Position.validate at valid
  dsimp only at valid
  split at valid
  · cases valid
  rename_i latitude
  split at valid
  · cases valid
  rename_i longitude
  simp only [Bool.or_eq_true, Bool.not_eq_true', Bool.and_eq_false_imp, decide_eq_true_eq,
    decide_eq_false_iff_not, not_or, Bool.not_eq_false, Classical.not_imp, not_not] at latitude longitude
  refine ⟨⟨latitude.1, latitude.2.1, latitude.2.2⟩, ⟨longitude.1, longitude.2.1, longitude.2.2⟩, ?_⟩
  intro pilot same
  subst same
  dsimp only at valid
  split at valid
  · cases valid
  rename_i mode
  split at valid
  · cases valid
  rename_i squawk
  simp only [Bool.not_eq_true', Bool.or_eq_false_iff, beq_eq_false_iff_ne] at mode
  exact ⟨by tauto, by simpa using squawk⟩

end Position

/-- Filed flight plan stored as authoritative shared network state. -/
structure FlightPlan where
  callsign : Callsign
  flightRules : Char
  aircraft : String
  cruiseSpeed : Int32
  departure : String
  estimatedDeparture : Int32
  actualDeparture : Int32
  cruiseAltitude : String
  destination : String
  hoursEnroute : Int32
  minutesEnroute : Int32
  hoursFuel : Int32
  minutesFuel : Int32
  alternate : String
  remarks : String
  route : String
  deriving DecidableEq

/-! ## Weather profiles -/

structure TemperatureLayer where
  ceiling : Int32
  temperature : Int32
  deriving DecidableEq

structure WindLayer where
  ceiling : Int32
  floor : Int32
  direction : Int32
  speed : Int32
  gusting : Int32
  turbulence : Int32
  deriving DecidableEq

structure CloudLayer where
  ceiling : Int32
  floor : Int32
  coverage : Int32
  icing : Int32
  turbulence : Int32
  deriving DecidableEq

/-- Fixed-shape parsed weather. -/
structure WeatherProfile where
  temperatures : Vector TemperatureLayer 4
  winds : Vector WindLayer 4
  clouds : Vector CloudLayer 2
  thunderstorm : CloudLayer
  barometer : Int32
  visibility : Float
  deriving DecidableEq

/-- Validates values whose textual representation has a protocol-level invariant. -/
def WeatherProfile.validate (profile : WeatherProfile) : Except ModelError Unit :=
  if !profile.visibility.isFinite || profile.visibility < 0.0 then
    .error (.invalidField "weather visibility" "must be finite and non-negative")
  else .ok ()

theorem WeatherProfile.finite_of_validate {profile : WeatherProfile} (valid : profile.validate = .ok ()) :
    profile.visibility.isFinite = true := by
  unfold validate at valid
  split at valid
  · cases valid
  · rename_i sound
    simp only [Bool.or_eq_true, Bool.not_eq_true', not_or, Bool.not_eq_false] at sound
    exact sound.1

/-- Coordinates and request metadata supplied to an external weather source. -/
structure WeatherLookup where
  station : String
  coordinates : Option (Float × Float)
  deriving DecidableEq

/-- Raw and parsed forms returned by one weather-source lookup. -/
structure WeatherObservation where
  rawMetar : Option String
  profile : Option WeatherProfile
  deriving DecidableEq

/-- Weather-source failure kept behind the core port boundary. -/
structure WeatherProviderError where
  message : String
  deriving DecidableEq

end AsterFsd
