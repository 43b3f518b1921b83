import AsterFsd.Core.State

/-! # Recipients of a routed command

Range routing compares great-circle distances in nautical miles with ranges derived from altitude or
facility type, all in floating point as the source computes them.
-/

namespace AsterFsd

inductive RangePolicy where
  | source
  | message
  deriving DecidableEq, Repr

namespace Network

def pilotOrObserver (session : Session) : Bool :=
  session.presence.any fun presence =>
    presence.clientType = .pilot ∨ presence.clientType = .observer

def controller (session : Session) : Bool :=
  session.presence.any fun presence => presence.clientType = .atc

/-- `f64::to_radians`. -/
def toRadians (degrees : Float) : Float := degrees * (3.14159265358979323846264338327950288 / 180.0)

/-- `f64::trunc`. -/
def trunc (x : Float) : Float := if x < 0.0 then x.ceil else x.floor

def sessionRange (session : Session) : Float :=
  match session.presence, session.position with
  | some presence, some position =>
      if presence.clientType = .pilot ∨ presence.clientType = .observer then
        trunc (10.0 + 1.414 * (Float.ofInt (max position.altitude 0).toInt).sqrt)
      else facilityRange session.position
  | _, _ => facilityRange session.position
where
  /-- The arms of the source's match that look at the position alone. -/
  facilityRange : Option Position → Float
    | some (.atc position) =>
        if position.facilityType = 1 ∨ position.facilityType = 7 then 1500.0
        else if position.facilityType = 2 ∨ position.facilityType = 3 then 5.0
        else if position.facilityType = 4 then 30.0
        else if position.facilityType = 5 then 100.0
        else if position.facilityType = 6 then 400.0
        else 40.0
    | _ => 40.0

def distanceBetween (state : NetworkState) (source target : ConnectionId) : Option Float := do
  let source ← (← state.sessions.lookup source).position
  let target ← (← state.sessions.lookup target).position
  let (sourceLatitude, sourceLongitude) := source.coordinates
  let (targetLatitude, targetLongitude) := target.coordinates
  let sourceLatitude := toRadians sourceLatitude
  let targetLatitude := toRadians targetLatitude
  let latitudeDelta := targetLatitude - sourceLatitude
  let longitudeDelta := toRadians (targetLongitude - sourceLongitude)
  let latitudeSine := (latitudeDelta / 2.0).sin
  let longitudeSine := (longitudeDelta / 2.0).sin
  let a := latitudeSine * latitudeSine +
    sourceLatitude.cos * targetLatitude.cos * (longitudeSine * longitudeSine)
  return 3440.065 * 2.0 * Float.atan2 a.sqrt (1.0 - a).sqrt

def withinPositionRange (state : NetworkState) (sourceId targetId : ConnectionId) : Bool :=
  match state.sessions.lookup sourceId, state.sessions.lookup targetId,
      distanceBetween state sourceId targetId with
  | some source, some target, some distance =>
      let sourceRange := sessionRange source
      let targetRange := sessionRange target
      let permitted :=
        if controller target then
          match target.position with
          | some (.atc position) => Float.ofInt (max position.visualRange 0).toInt
          | _ => targetRange
        else if pilotOrObserver source then sourceRange + targetRange
        else max sourceRange targetRange
      distance ≤ permitted
  | _, _, _ => false

def withinMessageRange (state : NetworkState) (sourceId targetId : ConnectionId) : Bool :=
  match state.sessions.lookup sourceId, state.sessions.lookup targetId,
      distanceBetween state sourceId targetId with
  | some source, some target, some distance =>
      let sourceRange := sessionRange source
      let targetRange := sessionRange target
      distance ≤
        if pilotOrObserver source && pilotOrObserver target then sourceRange + targetRange
        else max sourceRange targetRange
  | _, _, _ => false

def withinSourceRange (state : NetworkState) (sourceId targetId : ConnectionId) : Bool :=
  match state.sessions.lookup sourceId, distanceBetween state sourceId targetId with
  | some source, some distance => distance ≤ sessionRange source
  | _, _ => false

/-- The active sessions other than the sender that satisfy `select`. -/
def activeOthers (state : NetworkState) (sender : ConnectionId) (select : Session → Bool) :
    List ConnectionId :=
  (state.sessions.values.filter fun session =>
    session.connectionId ≠ sender ∧ session.phase = .active ∧ select session).map (·.connectionId)

def resolveDestination (state : NetworkState) (sender : ConnectionId) (destination : Destination)
    (rangePolicy : RangePolicy) : List ConnectionId :=
  match destination with
  | .server => []
  | .direct callsign => (state.callsigns.lookup callsign).toList.filter (· ≠ sender)
  | .all => activeIds state (some sender)
  | .atc => activeOthers state sender controller
  | .pilots => activeOthers state sender pilotOrObserver
  | .range _ =>
      activeOthers state sender fun session =>
        match rangePolicy with
        | .source => withinSourceRange state sender session.connectionId
        | .message => withinMessageRange state sender session.connectionId

def positionRecipients (state : NetworkState) (source : ConnectionId) : List ConnectionId :=
  activeOthers state source fun target => withinPositionRange state source target.connectionId

def flightPlanRecipients (state : NetworkState) (source : ConnectionId) (range : Float) :
    List ConnectionId :=
  activeOthers state source fun target =>
    controller target &&
      (distanceBetween state source target.connectionId).any fun distance => distance ≤ range

end Network

end AsterFsd
