import AsterFsd.Core.Reach

/-! # Who hears a command

A destination stands for a part of the network: one client, the controllers, those who fly, everyone in
range or everyone. The recipients that the core computes for a command that it passes on are the active
clients that the command is meant for, each of them once.
-/

namespace AsterFsd

open Network

/-! ## Whom a command is meant for -/

/-- The destination takes in the client with this presence; `near` says that the client is in range. -/
def Destination.Covers (near : Bool) (presence : ClientPresence) : Destination → Prop
  | .server => False
  | .direct callsign => presence.callsign = callsign
  | .all => True
  | .atc => presence.clientType = .atc
  | .pilots => presence.clientType ≠ .atc
  | .range _ => near = true

/-- The command of `c` is meant for the client with this presence at `r`. -/
def Command.Covers (state : NetworkState) (c r : ConnectionId) (presence : ClientPresence) :
    Command → Prop
  | .text _ destination _ => destination.Covers (withinMessageRange state c r) presence
  | .query _ destination _ _ | .response _ destination _ _ | .ping _ destination _
  | .pong _ destination _ => destination.Covers (withinSourceRange state c r) presence
  | .handoff _ target _ _ | .clientData _ target _ _ => presence.callsign = target
  | .position _ => withinPositionRange state c r = true
  | .flightPlan _ =>
      presence.clientType = .atc ∧ (distanceBetween state c r).any (fun distance => distance ≤ 400.0) = true
  | .noop _ | .identify _ | .login _ | .logoff _ | .weatherRequest .. | .kill .. => False

/-- `r` is an active client other than `c`, and the command of `c` is meant for it. -/
def NetworkState.Hears (state : NetworkState) (c : ConnectionId) (command : Command)
    (r : ConnectionId) : Prop :=
  r ≠ c ∧ ∃ session presence, state.ActiveAs r session presence ∧ command.Covers state c r presence

/-- The command is one that a client with this presence may have passed on, in the form of the event. -/
structure ClientPresence.PassesOn (presence : ClientPresence) (command : Command) (event : Event) :
    Prop where
  own : command.source = some presence.callsign
  relays : command.Relays event
  fits : ∀ position, command = .position position → presence.clientType = expectedType position

/-- Everyone whom the deliveries tell the event, as often as they tell it. -/
def Effects.hearers (effects : Effects) (event : Event) : List ConnectionId :=
  (effects.deliveries.filter (·.event = event)).flatMap (·.recipients)

theorem Effects.mem_hearers {effects : Effects} {event : Event} {r : ConnectionId} :
    r ∈ effects.hearers event ↔
      ∃ delivery ∈ effects.deliveries, delivery.event = event ∧ r ∈ delivery.recipients := by
  simp [hearers, and_assoc]

theorem send_hearers (recipients : List ConnectionId) (event : Event) :
    (send recipients event).hearers event = recipients := by
  unfold Effects.hearers
  rw [send_deliveries]
  cases recipients <;> simp

theorem send_hearers_ne (recipients : List ConnectionId) {event other : Event} (ne : other ≠ event) :
    (send recipients other).hearers event = [] := by
  unfold Effects.hearers
  rw [send_deliveries]
  split <;> simp [ne]

/-! ## Ranges -/

/-- The great-circle distance between two positions in nautical miles. -/
def Position.milesTo (source target : Position) : Float :=
  let latitude := toRadians source.coordinates.1
  let latitude' := toRadians target.coordinates.1
  let halfLatitude := ((latitude' - latitude) / 2.0).sin
  let halfLongitude := (toRadians (target.coordinates.2 - source.coordinates.2) / 2.0).sin
  let haversine := halfLatitude * halfLatitude +
    latitude.cos * latitude'.cos * (halfLongitude * halfLongitude)
  3440.065 * 2.0 * Float.atan2 haversine.sqrt (1.0 - haversine).sqrt

/-- The ranges of the facility types in nautical miles. -/
def facilityRanges : List (Int32 × Float) :=
  [(1, 1500.0), (2, 5.0), (3, 5.0), (4, 30.0), (5, 100.0), (6, 400.0), (7, 1500.0)]

/-- How far the position carries: for those who fly by the altitude, else by the facility. -/
def ClientPresence.range (presence : ClientPresence) (position : Position) : Float :=
  if presence.clientType = .atc then
    match position with
    | .atc position => (facilityRanges.lookup position.facilityType).getD 40.0
    | .pilot _ => 40.0
  else trunc (10.0 + 1.414 * (Float.ofInt (max position.altitude 0).toInt).sqrt)

/-- How far apart two clients may be when one is to hear the other: the ranges of those who fly add up,
    else the longer one counts. -/
def ClientPresence.contact (presence other : ClientPresence) (position there : Position) : Float :=
  if presence.clientType ≠ .atc ∧ other.clientType ≠ .atc then
    presence.range position + other.range there
  else max (presence.range position) (other.range there)

/-- How far a controller wants to see, when its position says so. -/
def ClientPresence.sight (other : ClientPresence) (there : Position) : Float :=
  match there with
  | .atc there => Float.ofInt (max there.visualRange 0).toInt
  | .pilot _ => other.range there

/-- Both sessions have a position, and they are no further apart than the limit. -/
def Session.Within (session target : Session) (limit : Position → Position → Float) : Prop :=
  ∃ position there, session.position = some position ∧ target.position = some there ∧
    position.milesTo there ≤ limit position there

section Ranges

variable {state : NetworkState} {c r : ConnectionId} {session target : Session}
  {presence other : ClientPresence}

theorem NetworkState.ActiveAs.controller_iff {session : Session} {presence : ClientPresence}
    (active : state.ActiveAs r session presence) :
    controller session = true ↔ presence.clientType = .atc := by
  simp [controller, active.2.2]

theorem NetworkState.ActiveAs.pilotOrObserver_iff {session : Session} {presence : ClientPresence}
    (active : state.ActiveAs r session presence) :
    pilotOrObserver session = true ↔ presence.clientType ≠ .atc := by
  simp only [pilotOrObserver, active.2.2, Option.any_some, decide_eq_true_eq]
  cases presence.clientType <;> simp

theorem facilityRange_eq (position : AtcPosition) :
    sessionRange.facilityRange (some (.atc position)) =
      (facilityRanges.lookup position.facilityType).getD 40.0 := by
  simp only [sessionRange.facilityRange, facilityRanges, List.lookup_cons, List.lookup_nil]
  repeat' split
  all_goals simp_all

theorem NetworkState.ActiveAs.range (active : state.ActiveAs c session presence) {position : Position}
    (placed : session.position = some position) : sessionRange session = presence.range position := by
  unfold sessionRange ClientPresence.range
  rw [active.2.2, placed]
  cases kind : presence.clientType with
  | pilot | observer => simp [kind]
  | atc =>
      cases position with
      | pilot position => simp [kind, sessionRange.facilityRange]
      | atc position => simp [kind, facilityRange_eq]

theorem distanceBetween_eq (found : state.sessions.lookup c = some session)
    (stored : state.sessions.lookup r = some target) : distanceBetween state c r =
      session.position.bind fun position => target.position.map fun there => position.milesTo there := by
  cases placed : session.position with
  | none => simp [distanceBetween, found, placed]
  | some position =>
      cases located : target.position <;>
        simp [distanceBetween, found, stored, placed, located, Position.milesTo]

variable (active : state.ActiveAs c session presence) (others : state.ActiveAs r target other)

include active others

/-- Queries, responses, pings and pongs carry as far as the sender's own position. -/
theorem withinSourceRange_iff : withinSourceRange state c r = true ↔
    session.Within target fun position _ => presence.range position := by
  unfold withinSourceRange Session.Within
  rw [active.1, distanceBetween_eq active.1 others.1]
  cases placed : session.position with
  | none => simp
  | some position => cases located : target.position <;> simp [active.range placed]

/-- Texts carry as far as the sender and the receiver can make contact. -/
theorem withinMessageRange_iff : withinMessageRange state c r = true ↔
    session.Within target (presence.contact other) := by
  unfold withinMessageRange Session.Within
  rw [active.1, others.1, distanceBetween_eq active.1 others.1]
  cases placed : session.position with
  | none => simp
  | some position =>
      cases located : target.position with
      | none => simp
      | some there =>
          simp [active.range placed, others.range located, ClientPresence.contact,
            active.pilotOrObserver_iff, others.pilotOrObserver_iff]

/-- Positions carry as far, but a controller sees as far as it says. -/
theorem withinPositionRange_iff : withinPositionRange state c r = true ↔
    session.Within target fun position there =>
      if other.clientType = .atc then other.sight there
      else presence.contact other position there := by
  unfold withinPositionRange Session.Within
  rw [active.1, others.1, distanceBetween_eq active.1 others.1]
  cases placed : session.position with
  | none => simp
  | some position =>
      cases located : target.position with
      | none => simp
      | some there =>
          by_cases watches : other.clientType = .atc
          · cases there <;>
              simp [others.range located, ClientPresence.sight, others.controller_iff, watches, located]
          · by_cases flies : presence.clientType = .atc <;>
              simp [active.range placed, others.range located, ClientPresence.contact,
                others.controller_iff, active.pilotOrObserver_iff, watches, flies]

/-- A filed plan is for the controllers within four hundred miles. -/
theorem covers_flightPlan {plan : FlightPlan} :
    (Command.flightPlan plan).Covers state c r other ↔
      other.clientType = .atc ∧ session.Within target fun _ _ => 400.0 := by
  refine and_congr_right fun _ => ?_
  unfold Session.Within
  rw [distanceBetween_eq active.1 others.1]
  cases placed : session.position with
  | none => simp
  | some position => cases located : target.position <;> simp

end Ranges

/-! ## Recipients -/

section Recipients

variable {state : NetworkState} {c r : ConnectionId} {maxClients : Nat}

/-- An active session has a presence. -/
theorem NetworkState.Consistent.activeAs (consistent : state.Consistent maxClients) {session : Session}
    (found : state.sessions.lookup r = some session) (phase : session.phase = .active) :
    ∃ presence, state.ActiveAs r session presence := by
  obtain ⟨presence, present⟩ :=
    Option.isSome_iff_exists.mp ((consistent.wellFormed r session found).present.mpr phase)
  exact ⟨presence, found, phase, present⟩

theorem mem_activeOthers (consistent : state.Consistent maxClients) {select : Session → Bool} :
    r ∈ activeOthers state c select ↔
      r ≠ c ∧ ∃ session presence, state.ActiveAs r session presence ∧ select session = true := by
  unfold activeOthers
  rw [KeyedMap.mem_selected consistent.own]
  constructor
  · rintro ⟨session, found, selected⟩
    simp only [decide_eq_true_eq] at selected
    obtain ⟨other, phase, selected⟩ := selected
    rw [consistent.own r session found] at other
    obtain ⟨presence, active⟩ := consistent.activeAs found phase
    exact ⟨other, session, presence, active, selected⟩
  · rintro ⟨other, session, presence, active, selected⟩
    refine ⟨session, active.1, ?_⟩
    simp only [decide_eq_true_eq]
    exact ⟨by rwa [consistent.own r session active.1], active.2.1, selected⟩

/-- Whether `r` is in range of `c` under the policy. -/
def NetworkState.near (state : NetworkState) (c r : ConnectionId) : RangePolicy → Bool
  | .source => withinSourceRange state c r
  | .message => withinMessageRange state c r

theorem mem_resolveDestination (consistent : state.Consistent maxClients) {destination : Destination}
    {policy : RangePolicy} : r ∈ resolveDestination state c destination policy ↔
      r ≠ c ∧ ∃ session presence, state.ActiveAs r session presence ∧
        destination.Covers (state.near c r policy) presence := by
  cases destination with
  | server => simp [resolveDestination, Destination.Covers]
  | direct callsign =>
      simp only [resolveDestination, List.mem_filter, Option.mem_toList, decide_eq_true_eq,
        Destination.Covers]
      constructor
      · rintro ⟨listed, other⟩
        obtain ⟨session, presence, active, named⟩ := consistent.active_of_lookup listed
        exact ⟨other, session, presence, active, named⟩
      · rintro ⟨other, session, presence, active, rfl⟩
        exact ⟨consistent.lookup_callsign active, other⟩
  | all =>
      simp only [resolveDestination, Destination.Covers, mem_activeIds consistent, and_true]
      constructor
      · rintro ⟨active, other⟩
        obtain ⟨session, found, phase⟩ := isActive_iff.mp active
        obtain ⟨presence, active⟩ := consistent.activeAs found phase
        exact ⟨fun same => other (congrArg some same), session, presence, active⟩
      · rintro ⟨other, session, presence, active⟩
        exact ⟨active.isActive, fun same => other (Option.some.inj same)⟩
  | atc =>
      simp only [resolveDestination, mem_activeOthers consistent, Destination.Covers]
      refine and_congr_right fun _ => exists_congr fun session => exists_congr fun presence => ?_
      exact and_congr_right fun active => active.controller_iff
  | pilots =>
      simp only [resolveDestination, mem_activeOthers consistent, Destination.Covers]
      refine and_congr_right fun _ => exists_congr fun session => exists_congr fun presence => ?_
      exact and_congr_right fun active => active.pilotOrObserver_iff
  | range =>
      simp only [resolveDestination, mem_activeOthers consistent, Destination.Covers]
      refine and_congr_right fun _ => exists_congr fun session => exists_congr fun presence => ?_
      refine and_congr_right fun active => ?_
      rw [consistent.own r session active.1]
      cases policy <;> rfl

end Recipients

/-! ## Commands that are passed on -/

section Commands

variable {config : CoreConfig} {state : NetworkState} {c r : ConnectionId} {command : Command}
  {session : Session} {presence : ClientPresence} {event : Event}

/-- The recipients are the hearers of the command, each of them once. -/
def NetworkState.Audience (state : NetworkState) (c : ConnectionId) (command : Command)
    (recipients : List ConnectionId) : Prop :=
  recipients.Nodup ∧ ∀ r, r ∈ recipients ↔ state.Hears c command r

theorem executeActive_issuer (issuer : state.ActiveAs c session presence)
    (own : command.source = some presence.callsign) :
    executeActive state c command = handleCommand state c presence command := by
  simp [executeActive, issuer.1, issuer.2.1, issuer.2.2, own]

/-- A command that covers what a destination covers is heard by the recipients of the destination. -/
private theorem resolveDestination_audience (consistent : state.Consistent config.maxClients)
    {destination : Destination} {policy : RangePolicy}
    (covers : ∀ r presence, command.Covers state c r presence ↔
      destination.Covers (state.near c r policy) presence) :
    state.Audience c command (resolveDestination state c destination policy) := by
  refine ⟨(resolveDestination_others consistent destination policy).nodup, fun r => ?_⟩
  rw [mem_resolveDestination consistent]
  refine and_congr_right fun _ => exists_congr fun session => exists_congr fun presence => ?_
  exact and_congr_right fun _ => (covers r presence).symm

/-- Nobody hears a command to the server. -/
private theorem nobody_audience (deaf : ∀ r presence, ¬ command.Covers state c r presence) :
    state.Audience c command [] :=
  ⟨List.nodup_nil, fun r =>
    ⟨fun member => (nomatch member), fun ⟨_, _, presence, _, covers⟩ => (deaf r presence covers).elim⟩⟩

private theorem routed_audience (consistent : state.Consistent config.maxClients)
    {destination : Destination} {policy : RangePolicy}
    (routes : routed command = some (destination, policy, event)) :
    (handleCommand state c presence command).1.Audience c command
      ((handleCommand state c presence command).2.hearers event) := by
  have handled : handleCommand state c presence command =
      (state, send (resolveDestination state c destination policy) event) := by
    cases command <;> simp only [routed, reduceCtorEq] at routes <;>
      simp only [handleCommand, handleRoutedCommand, routed, Option.some.inj routes]
  rw [handled, send_hearers]
  refine resolveDestination_audience consistent fun r presence => ?_
  cases command <;> simp only [routed, reduceCtorEq] at routes <;> cases routes <;> rfl

private theorem query_audience (consistent : state.Consistent config.maxClients) {source : Callsign}
    {destination : Destination} {kind : QueryKind} {arguments : List String} :
    state.Audience c (.query source destination kind arguments)
      ((handleQuery state c source destination kind arguments).hearers
        (.query (toString source) destination kind arguments)) := by
  unfold handleQuery
  by_cases served : destination = .server
  · subst served
    have silent : (flightPlanQuery state c source arguments).hearers
        (.query (toString source) .server kind arguments) = [] := by
      unfold flightPlanQuery
      repeat' split
      all_goals exact send_hearers_ne _ (by simp)
    rw [if_neg (by simp)]
    cases kind <;> simp only [silent] <;> exact nobody_audience fun _ _ covers => covers
  · rw [if_pos served, send_hearers]
    exact resolveDestination_audience consistent fun _ _ => Iff.rfl

private theorem ping_audience (consistent : state.Consistent config.maxClients) {source : Callsign}
    {destination : Destination} {payload : String} :
    state.Audience c (.ping source destination payload)
      ((handlePing state c source destination payload).hearers (.ping source destination payload)) := by
  unfold handlePing
  by_cases served : destination = .server
  · subst served
    rw [if_pos rfl, send_hearers_ne _ (by simp)]
    exact nobody_audience fun _ _ covers => covers
  · rw [if_neg served, send_hearers]
    exact resolveDestination_audience consistent fun _ _ => Iff.rfl

/-- A position and a plan are heard by those whom the sender, once moved, has in range. -/
private theorem activeOthers_audience (consistent : state.Consistent config.maxClients)
    {select : Session → Bool} (covers : ∀ r session presence, state.ActiveAs r session presence →
      (command.Covers state c r presence ↔ select session = true)) :
    state.Audience c command (activeOthers state c select) := by
  refine ⟨(activeOthers_others consistent select).nodup, fun r => ?_⟩
  rw [mem_activeOthers consistent]
  refine and_congr_right fun _ => exists_congr fun session => exists_congr fun presence => ?_
  exact and_congr_right fun active => (covers r session presence active).symm

/-- An active client's command that is passed on is told to its hearers, each of them once. -/
theorem executeActive_audience (consistent : state.Consistent config.maxClients)
    (issuer : state.ActiveAs c session presence) (passes : presence.PassesOn command event) :
    (executeActive state c command).1.Audience c command
      ((executeActive state c command).2.hearers event) := by
  rw [executeActive_issuer issuer passes.own]
  have stored : c ∈ state.sessions := KeyedMap.mem_of_lookup issuer.1
  cases passes.relays with
  | routed routes => exact routed_audience consistent routes
  | query => exact query_audience consistent
  | ping => exact ping_audience consistent
  | @flightPlan plan =>
      have own : plan.callsign = presence.callsign := Option.some.inj passes.own
      have handled : handleCommand state c presence (.flightPlan plan) =
          ((Change.file c plan).apply state,
            send (flightPlanRecipients ((Change.file c plan).apply state) c 400.0)
              (.flightPlan plan .atc)) := by
        simp only [handleCommand, handleStateCommand, stored, not_true_eq_false, ↓reduceIte]
        rfl
      have filed : ((Change.file c plan).apply state).Consistent config.maxClients :=
        Change.consistent_apply consistent ⟨session, presence, issuer, own⟩
      rw [handled, send_hearers]
      refine activeOthers_audience filed fun r other holder active => ?_
      rw [Bool.and_eq_true, active.controller_iff, filed.own r other active.1]
      rfl
  | @position position valid =>
      have own : position.callsign = presence.callsign := Option.some.inj passes.own
      have fits : presence.clientType = expectedType position := passes.fits position rfl
      have handled : handleCommand state c presence (.position position) =
          ((Change.move c position).apply state,
            send (positionRecipients ((Change.move c position).apply state) c)
              (.position position)) := by
        simp only [handleCommand, handleStateCommand, valid, fits, stored, ne_eq,
          not_true_eq_false, ↓reduceIte]
        rfl
      have moved : ((Change.move c position).apply state).Consistent config.maxClients :=
        Change.consistent_apply consistent ⟨session, presence, issuer, own⟩
      rw [handled, send_hearers]
      refine activeOthers_audience moved fun r other holder active => ?_
      rw [moved.own r other active.1]
      rfl

/-- A command that is passed on is executed in the first section of its call, and only there. -/
theorem lockSection_relays (relays : command.Relays event) {stage : Stage}
    (fits : Call.Fits ⟨c, command, stage⟩)
    {result : NetworkState × Stage}
    (performed : lockSection config state c command stage = some result) :
    result = ((executeActive state c command).1, .returning (executeActive state c command).2) := by
  cases stage with
  | invoked =>
      cases relays with
      | routed routes =>
          cases command <;> simp only [routed, reduceCtorEq] at routes <;>
            exact (Option.some.inj performed).symm
      | query | ping | flightPlan | position => exact (Option.some.inj performed).symm
  | identifying | activating =>
      simp only [Call.Fits] at fits
      subst fits
      cases relays with
      | routed routes => cases routes
  | authorizing | authenticating | observing | returning => cases performed

/-- The lock of a call that passes its command on executes it. -/
theorem World.step_executes {w w' : World} {id : CallId} (reach : (machine config).Reachable w)
    (operation : w.operation (.lock id) = some (c, some command)) (relays : command.Relays event)
    (step : w.step config (.lock id) = some w') :
    executeActive w.state c command = (w'.state, w.committed config (.lock id)) := by
  obtain ⟨call, found, same⟩ := Option.map_eq_some_iff.mp operation
  obtain ⟨rfl, executes⟩ := Prod.mk.inj same
  obtain rfl := Option.some.inj executes
  obtain ⟨_, state, stage, flying, performed, rfl⟩ := World.step_lock.mp step
  obtain rfl := Option.some.inj (found.symm.trans flying)
  rw [World.committed_lock found performed]
  obtain ⟨rfl, rfl⟩ := Prod.mk.inj
    (lockSection_relays relays (reachable_fits reach found) performed)
  rfl

end Commands

/-! ## Every run -/

/-- In every reachable state, the lock that executes a command of an active client tells what the command
    is passed on as to exactly the active clients that the command is meant for, each of them once. -/
theorem audience_complete (config : CoreConfig) (w w' : World) (id : CallId) (c : ConnectionId)
    (command : Command) (event : Event) (session : Session) (presence : ClientPresence)
    (reach : (machine config).Reachable w)
    (operation : w.operation (.lock id) = some (c, some command))
    (issuer : w.state.ActiveAs c session presence) (passes : presence.PassesOn command event)
    (step : w.step config (.lock id) = some w') :
    w'.state.Audience c command ((w.committed config (.lock id)).hearers event) := by
  have audience := executeActive_audience (reachable_consistent reach) issuer passes
  rwa [World.step_executes reach operation passes.relays step] at audience

namespace Sample

/-- How the first of the two pilots is known. -/
def captaincy : ClientPresence := loginPresence { login with requestedRating := 15 } captain

private theorem captain_active :
    (((machine config).final textRun (by decide)).state.sessions.lookup ⟨1⟩).any
      (fun session => decide (session.phase = .active ∧ session.presence = some captaincy)) = true := by
  decide

end Sample

/-- The text of the first pilot is told to the second one, and once. -/
theorem audience_complete_text :
    ∃ w w', (machine Sample.config).Trace Sample.textRun w ∧
      w.step Sample.config (.lock 2) = some w' ∧
      (w.committed Sample.config (.lock 2)).hearers (.text Sample.callsign .all "hello") = [⟨2⟩] ∧
      w'.state.Audience ⟨1⟩ (.text Sample.callsign .all "hello") [⟨2⟩] := by
  have stepped : (((machine Sample.config).final Sample.textRun (by decide)).step Sample.config
      (.lock 2)).isSome = true := by decide
  have heard : (((machine Sample.config).final Sample.textRun (by decide)).committed Sample.config
      (.lock 2)).hearers (.text Sample.callsign .all "hello") = [⟨2⟩] := by decide
  have trace := (machine Sample.config).trace_final Sample.textRun (by decide)
  obtain ⟨session, found, active⟩ := (Option.any_eq_true _ _).mp Sample.captain_active
  have complete := audience_complete Sample.config _ _ 2 ⟨1⟩ (.text Sample.callsign .all "hello")
    (.text Sample.callsign .all "hello") session Sample.captaincy trace.reachable
    (by decide) ⟨found, of_decide_eq_true active⟩ ⟨by decide, .routed rfl, fun _ same => (nomatch same)⟩
    (Option.some_get stepped).symm
  rw [heard] at complete
  exact ⟨_, _, trace, (Option.some_get stepped).symm, heard, complete⟩

end AsterFsd
