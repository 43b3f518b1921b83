import AsterFsd.Core.Deliveries
import AsterFsd.Lib.Decimal

/-! # What a command tells others

A command reaches connections other than its issuer in few ways: it is relayed, it announces a presence
or a position, or it is an accepted kill that tells its target to leave. The strings of a presence are
those of the authenticator, its callsign aside.
-/

namespace AsterFsd

open Network

/-! ## Strings of the authenticator -/

/-- The strings of an identity or a presence are short lines. -/
structure PlainNames (networkId realName : String) : Prop where
  networkId : Text.Short 200 networkId
  realName : Text.Short 200 realName

/-- The authenticator only supplies short lines. -/
def Answer.Trusted : Answer → Prop
  | .authenticated _ _ (.ok identity) => PlainNames identity.networkId identity.realName
  | _ => True

def Action.Trusted : Action → Prop
  | .answered _ answer => answer.Trusted
  | _ => True

/-- The presences stored and about to be stored have the strings of the authenticator. -/
structure World.Vouched (w : World) : Prop where
  sessions : ∀ i session presence, w.state.sessions.lookup i = some session →
    session.presence = some presence → PlainNames presence.networkId presence.realName
  activating : ∀ id call command identity generation, w.calls.lookup id = some call →
    call.stage = .activating command identity generation →
    PlainNames identity.networkId identity.realName

theorem World.step_vouched {config : CoreConfig} {w w' : World} {action : Action}
    (vouched : w.Vouched) (trusted : action.Trusted) (step : w.step config action = some w') :
    w'.Vouched where
  sessions i session presence found present := by
    obtain ⟨change, made, causes⟩ := World.step_makes step
    rw [made.apply_eq] at found
    obtain ⟨before, stored, same | ⟨subject, same⟩⟩ | ⟨-, peer, dialect, same⟩ :=
      Change.lookup_apply found
    · subst same
      exact vouched.sessions i session presence stored present
    · subst same
      cases change with
      | activate c activated =>
          obtain rfl : activated = presence := Option.some.inj present
          obtain ⟨id, call, command, identity, generation, _, -, flying, -, stage, rfl, -, -⟩ := causes
          exact vouched.activating id call command identity generation flying stage
      | keep | connect | identify | move | file | remove =>
          exact vouched.sessions i before presence stored present
    · subst same
      cases present
  activating id call command identity generation found stage := by
    obtain stored | ⟨c, issued, -, -, rfl⟩ | ⟨before, reached, -, -, rfl, performed⟩ |
      ⟨before, answer, reached, rfl, stored, rfl, outcome⟩ := World.step_calls step found
    · exact vouched.activating id call command identity generation stored stage
    · cases stage
    · subst stage
      obtain ⟨issuer, asked, before⟩ := before
      have outcome := lockSection_sectioned performed
      generalize w'.state = after at outcome
      cases outcome
    · subst stage
      generalize before.stage = asked at outcome
      cases outcome with
      | authenticated => exact trusted

/-! ## What is said -/

/-- The event that the command addresses to connections other than its issuer. -/
inductive Command.Tells : Command → Event → Prop where
  | relayed {command : Command} {destination : Destination} {policy : RangePolicy} {event : Event}
      (relayed : routed command = some (destination, policy, event)) : Tells command event
  | query {source : Callsign} {destination : Destination} {kind : QueryKind}
      {arguments : List String} :
      Tells (.query source destination kind arguments)
        (.query (toString source) destination kind arguments)
  | ping {source : Callsign} {destination : Destination} {payload : String} :
      Tells (.ping source destination payload) (.ping source destination payload)
  | flightPlan {plan : FlightPlan} : Tells (.flightPlan plan) (.flightPlan plan .atc)
  | position {position : Position} (valid : position.validate = .ok ()) :
      Tells (.position position) (.position position)
  | login {command : LoginCommand} {identity : AuthenticatedIdentity}
      (plain : PlainNames identity.networkId identity.realName) :
      Tells (.login command) (.clientAdded (loginPresence command identity))
  | logoff {source : Callsign} {clientType : ClientType} {networkId : String}
      (plain : Text.Short 200 networkId) :
      Tells (.logoff source) (.clientRemoved source clientType networkId)
  | kill {source target : Callsign} {reason : String} {clientType : ClientType}
      {networkId : String} (plain : Text.Short 200 networkId) :
      Tells (.kill source target reason) (.clientRemoved target clientType networkId)

/-- An event that a command of `issuer` makes the core address to `r`. The targets of accepted kills
    are a parameter. -/
inductive Spoken (killed : ConnectionId → Prop) (issuer : ConnectionId) :
    Command → ConnectionId → Event → Prop where
  | answer {command : Command} {event : Event} : Spoken killed issuer command issuer event
  | said {command : Command} {r : ConnectionId} {event : Event} (tells : command.Tells event) :
      Spoken killed issuer command r event
  | killed {source target : Callsign} {reason : String} {r : ConnectionId} (accepted : killed r) :
      Spoken killed issuer (.kill source target reason) r (.disconnect target reason)

theorem Spoken.mono {killed killed' : ConnectionId → Prop} {issuer r : ConnectionId}
    {command : Command} {event : Event} (spoken : Spoken killed issuer command r event)
    (weaker : ∀ j, killed j → killed' j) : Spoken killed' issuer command r event := by
  cases spoken with
  | answer => exact .answer
  | said tells => exact .said tells
  | killed accepted => exact .killed (weaker _ accepted)

/-- Every delivery is one that the command may make. -/
def Effects.Speaks (killed : ConnectionId → Prop) (issuer : ConnectionId) (command : Command)
    (effects : Effects) : Prop :=
  ∀ delivery ∈ effects.deliveries, ∀ r ∈ delivery.recipients,
    Spoken killed issuer command r delivery.event

theorem Effects.Speaks.mono {killed killed' : ConnectionId → Prop} {issuer : ConnectionId}
    {command : Command} {effects : Effects} (speaks : effects.Speaks killed issuer command)
    (weaker : ∀ j, killed j → killed' j) : effects.Speaks killed' issuer command :=
  fun delivery member r named => (speaks delivery member r named).mono weaker

theorem Command.Relays.tells {command : Command} {event : Event} (relays : command.Relays event) :
    command.Tells event := by
  cases relays with
  | routed routes => exact .relayed routes
  | query => exact .query
  | ping => exact .ping
  | flightPlan => exact .flightPlan
  | position valid => exact .position valid

/-- The targets of the kill that the command is, if the core carries it out. -/
def NetworkState.Killed (state : NetworkState) (issuer : ConnectionId) (command : Command)
    (j : ConnectionId) : Prop :=
  ∃ target, AcceptedKill state issuer command target j

variable {config : CoreConfig} {w w' : World} {issuer : ConnectionId} {command : Command}

/-- What an operation sends between states whose presences have the strings of the authenticator. -/
theorem Sends.spoken {delivery : Delivery} {r : ConnectionId} (vouched : w.Vouched)
    (vouched' : w'.Vouched) {maxClients : Nat} (consistent : w.state.Consistent maxClients)
    (sends : Sends w.state w'.state issuer (some command) delivery)
    (named : r ∈ delivery.recipients) :
    Spoken (w.state.Killed issuer command) issuer command r delivery.event := by
  cases sends with
  | answer =>
      obtain rfl := List.mem_singleton.mp named
      exact .answer
  | relayed executes _ _ relays =>
      obtain rfl := Option.some.inj executes
      exact .said relays.tells
  | joined executes active =>
      obtain rfl := Option.some.inj executes
      exact .said (.login (vouched'.sessions issuer _ _ active.1 active.2.2))
  | @departed i session presence removes member =>
      have plain := (vouched.sessions i session presence member.1 member.2.2).networkId
      cases removes with
      | @left own holder active =>
          obtain rfl : session = own := Option.some.inj (member.1.symm.trans active.1)
          obtain rfl : presence = holder := Option.some.inj (member.2.2.symm.trans active.2.2)
          exact .said (.logoff plain)
      | killed accepted =>
          obtain rfl := accepted.target_eq consistent member
          obtain ⟨_, _, reason, -, -, rfl, -⟩ := accepted
          exact .said (.kill plain)
  | noticed executes accepted =>
      obtain rfl := Option.some.inj executes
      obtain rfl := List.mem_singleton.mp named
      exact .killed ⟨_, accepted⟩

private theorem Network.Answered.speaks {killed : ConnectionId → Prop} {stage : Stage}
    {answer : Answer} {effects : Effects} (outcome : Answered issuer stage answer (.returning effects)) :
    effects.Speaks killed issuer command := by
  have alone : effects.Private issuer := by
    cases outcome with
    | unauthorized refusal | rejected refusal => exact refusal.private
    | observed => exact send_private issuer _
  intro delivery member r named
  rw [alone delivery member r named]
  exact .answer

/-- What a call is about to return after a step it already was, or it is what its command may make the
    core say; an accepted kill is carried out by that step. -/
theorem World.step_speaks {action : Action} (reach : (machine config).Reachable w)
    (vouched : w.Vouched) (vouched' : w'.Vouched) (step : w.step config action = some w')
    {id : CallId} {call : Call} {effects : Effects} (found : w'.calls.lookup id = some call)
    (returns : call.stage = .returning effects) :
    w.calls.lookup id = some call ∨
      effects.Speaks
        (fun j => action = .lock id ∧ w.state.Killed call.connectionId call.command j)
        call.connectionId call.command := by
  have consistent := reachable_consistent reach
  obtain stored | ⟨c, command, -, -, rfl⟩ | ⟨before, stage, rfl, stored, rfl, performed⟩ |
    ⟨before, answer, stage, -, stored, rfl, outcome⟩ := World.step_calls step found
  · exact .inl stored
  · cases returns
  · obtain rfl : stage = .returning effects := returns
    have sent := (lockSection_sectioned performed).sent (reachable_fits reach stored) consistent
    exact .inr fun delivery member r named =>
      ((sent delivery member).spoken vouched vouched' consistent named).mono
        fun _ accepted => ⟨rfl, accepted⟩
  · obtain rfl : stage = .returning effects := returns
    exact .inr outcome.speaks

end AsterFsd
