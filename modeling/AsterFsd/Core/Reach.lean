import AsterFsd.Core.Deliveries

/-! # Who is reached, and under whose name

An operation of a connection reaches active sessions only, never sends its own events back to it, and
speaks to the others under no callsign but its own.
-/

namespace AsterFsd

open Network

/-! ## Audiences -/

/-- The event announces that the client of `c` came or went. -/
def Event.Announces (state state' : NetworkState) (c : ConnectionId) : Event → Prop
  | .clientAdded client => ∃ session, state'.ActiveAs c session client
  | .clientRemoved callsign _ _ => state.callsigns.lookup callsign = some c
  | _ => False

/-- The event says that a client is gone. -/
def Event.removes : Event → Bool
  | .clientRemoved .. => true
  | _ => false

/-- What the recipients of a delivery may be, when an operation of `c` leads from `state` to `state'`. -/
structure Delivery.Sound (state state' : NetworkState) (c : ConnectionId) (command : Option Command)
    (delivery : Delivery) : Prop where
  someone : delivery.recipients ≠ []
  distinct : delivery.recipients.Nodup
  /-- Recipients other than `c` were active, and are still there to learn of a removal. -/
  members : ∀ r ∈ delivery.recipients, r ≠ c →
    state.isActive r = true ∧ (delivery.event.removes = true → state'.isActive r = true)
  /-- What `c` itself says, and the news about `c`, does not come back to it. -/
  own : (∃ asked, command = some asked ∧ asked.Relays delivery.event) ∨
    delivery.event.Announces state state' c → c ∉ delivery.recipients
  /-- Whatever else `c` is sent is for `c` alone, but for the news that its kill removed another. -/
  alone : c ∈ delivery.recipients → delivery.recipients = [c] ∨
    ∃ asked target j clientType networkId, command = some asked ∧
      AcceptedKill state c asked target j ∧ j ≠ c ∧
      delivery.event = .clientRemoved target clientType networkId ∧
      ∀ r, r ∈ delivery.recipients ↔ state'.isActive r = true
  /-- A connection outside the network reaches nobody. -/
  outside : state.isActive c = false → state'.isActive c = false →
    ∀ r ∈ delivery.recipients, r = c

variable {state state' : NetworkState} {c : ConnectionId} {command : Option Command}
  {delivery : Delivery} {maxClients : Nat}

theorem AcceptedKill.issuer {asked : Command} {target : Callsign} {j : ConnectionId}
    (accepted : AcceptedKill state c asked target j) : state.isActive c = true := by
  obtain ⟨session, presence, reason, active, -⟩ := accepted
  exact active.isActive

theorem AcceptedKill.not_relays {asked : Command} {target : Callsign} {j : ConnectionId} {event : Event}
    (accepted : AcceptedKill state c asked target j) : ¬ asked.Relays event := by
  obtain ⟨session, presence, reason, -, -, rfl, -⟩ := accepted
  intro relays
  cases relays with
  | routed routes => cases routes

theorem Command.Relays.unannounced {asked : Command} {event : Event} (relays : asked.Relays event) :
    event.announces = false := by
  cases relays with
  | routed routes => exact (routed_unannounced routes).1
  | query | ping | flightPlan | position => rfl

theorem Event.Announces.announces {event : Event} (announces : event.Announces state state' c) :
    event.announces = true := by
  cases event <;> first | rfl | cases announces

theorem Event.announces_of_removes {event : Event} (removes : event.removes = true) :
    event.announces = true := by
  cases event <;> first | rfl | cases removes

theorem Removes.issuer {i : ConnectionId} (removes : Removes state c command i)
    (member : state.isActive i = true) : state.isActive c = true := by
  cases removes with
  | disconnected => exact member
  | left issuer => exact issuer.isActive
  | killed accepted => exact accepted.issuer

/-- The kind of a delivery says who its recipients are. -/
theorem Sends.sound (consistent : state.Consistent maxClients)
    (consistent' : state'.Consistent maxClients) (sends : Sends state state' c command delivery) :
    delivery.Sound state state' c command := by
  cases sends with
  | answer reply unannounced =>
      refine ⟨List.cons_ne_nil _ _, List.nodup_singleton c, ?_, ?_, fun _ => .inl rfl, ?_⟩
      · intro r named other
        exact absurd (List.mem_singleton.mp named) other
      · intro own
        cases own with
        | inl relayed =>
            obtain ⟨asked, executes, relays⟩ := relayed
            exact absurd relays (reply asked executes)
        | inr announces =>
            have announces := announces.announces
            rw [unannounced] at announces
            cases announces
      · intro _ _ r named
        exact List.mem_singleton.mp named
  | relayed executes issuer own relays others someone =>
      refine ⟨someone, others.nodup, ?_, ?_, ?_, ?_⟩
      · intro r named _
        refine ⟨(others.active r named).2, fun removes => ?_⟩
        cases relays.unannounced.symm.trans (Event.announces_of_removes removes)
      · exact fun _ named => (others.active c named).1 rfl
      · exact fun named => absurd rfl (others.active c named).1
      · intro outside
        rw [issuer.isActive] at outside
        cases outside
  | joined executes issuer others someone =>
      refine ⟨someone, others.nodup, ?_, ?_, ?_, ?_⟩
      · intro r named _
        exact ⟨(others.active r named).2, fun removes => nomatch removes⟩
      · exact fun _ named => (others.active c named).1 rfl
      · exact fun named => absurd rfl (others.active c named).1
      · intro _ outside
        rw [issuer.isActive] at outside
        cases outside
  | @departed i session presence removes member others someone =>
      have listed := consistent.lookup_callsign member
      refine ⟨someone, others.nodup, ?_, ?_, ?_, ?_⟩
      · intro r named _
        exact ⟨(others.active r named).2, fun _ => ((mem_activeIds consistent').mp named).1⟩
      · intro own named
        cases own with
        | inl relayed =>
            obtain ⟨asked, -, relays⟩ := relayed
            cases relays.unannounced
        | inr announces =>
            obtain rfl := Option.some.inj (listed.symm.trans announces)
            exact (others.active i named).1 rfl
      · intro named
        have other : i ≠ c := fun same => (others.active c named).1 same.symm
        cases removes with
        | disconnected | left => exact absurd rfl other
        | killed accepted =>
            obtain rfl := accepted.target_eq consistent member
            exact .inr ⟨_, _, i, _, _, rfl, accepted, other, rfl,
              fun r => (mem_activeIds consistent').trans (and_iff_left (by simp))⟩
      · intro outside
        rw [removes.issuer member.isActive] at outside
        cases outside
  | @noticed source target reason j executes accepted =>
      obtain ⟨_, _, _, _, -, -, online⟩ := id accepted
      obtain ⟨session, presence, active, -⟩ := consistent.active_of_lookup online
      refine ⟨List.cons_ne_nil _ _, List.nodup_singleton j, ?_, ?_, ?_, ?_⟩
      · intro r named _
        obtain rfl := List.mem_singleton.mp named
        exact ⟨active.isActive, fun removes => nomatch removes⟩
      · intro own
        cases own with
        | inl relayed =>
            obtain ⟨same, executes', relays⟩ := relayed
            obtain rfl := Option.some.inj (executes.symm.trans executes')
            exact absurd relays accepted.not_relays
        | inr announces => exact announces.elim
      · intro named
        exact .inl (by rw [List.mem_singleton.mp named])
      · intro outside
        rw [accepted.issuer] at outside
        cases outside

/-- In every reachable state, an operation delivers to active sessions and to its own connection as
    `Delivery.Sound` says, a broadcast goes to exactly the active sessions, and a connection that is
    outside the network before and after a step is sent nothing but answers to its own operation. -/
theorem audience_sound (config : CoreConfig) (w : World) (reach : (machine config).Reachable w) :
    (∀ action w' c command, w.step config action = some w' →
      w.operation action = some (c, command) →
      ∀ delivery ∈ (w.committed config action).deliveries,
        delivery.Sound w.state w'.state c command) ∧
    (∀ event, ∀ delivery ∈ (broadcast w.state event).deliveries,
      delivery.recipients ≠ [] ∧ delivery.recipients.Nodup ∧
        ∀ r, r ∈ delivery.recipients ↔ w.state.isActive r = true) ∧
    (∀ action w' c, w.step config action = some w' →
      w.state.isActive c = false → w'.state.isActive c = false →
      ∀ delivery ∈ (w.committed config action).deliveries, c ∈ delivery.recipients →
        (∃ command, w.operation action = some (c, command)) ∧ delivery.recipients = [c]) := by
  have consistent := reachable_consistent reach
  have broadcasts : ∀ event, ∀ delivery ∈ (broadcast w.state event).deliveries,
      delivery.recipients ≠ [] ∧ delivery.recipients.Nodup ∧
        ∀ r, r ∈ delivery.recipients ↔ w.state.isActive r = true := by
    intro event delivery member
    rw [broadcast, send_deliveries] at member
    split at member
    · cases member
    · rename_i someone
      rw [List.mem_singleton.mp member]
      exact ⟨by simpa using someone, nodup_activeIds consistent none,
        fun r => (mem_activeIds consistent).trans (and_iff_left (by simp))⟩
  have sound : ∀ action w' c command, w.step config action = some w' →
      w.operation action = some (c, command) →
      ∀ delivery ∈ (w.committed config action).deliveries,
        delivery.Sound w.state w'.state c command := by
    intro action w' c command step operation delivery member
    obtain ⟨c', command', same, sends⟩ | ⟨_, _, rfl, -⟩ := World.step_sends reach step member
    · obtain ⟨rfl, rfl⟩ := Prod.mk.inj (Option.some.inj (operation.symm.trans same))
      exact sends.sound consistent (reachable_consistent (reach.step step))
    · cases operation
  refine ⟨sound, broadcasts, ?_⟩
  intro action w' c step before after delivery member named
  obtain ⟨issuer, command, operation, -⟩ | ⟨_, _, rfl, broadcasted⟩ :=
    World.step_sends reach step member
  · have sound := sound action w' issuer command step operation delivery member
    by_cases own : c = issuer
    · subst own
      refine ⟨⟨command, operation⟩, ?_⟩
      obtain same | ⟨_, _, _, _, _, -, accepted, -⟩ := sound.alone named
      · exact same
      · cases before.symm.trans accepted.issuer
    · have active := (sound.members c named own).1
      rw [before] at active
      cases active
  · have active := ((broadcasts _ delivery broadcasted).2.2 c).mp named
    rw [before] at active
    cases active

namespace Sample

/-- The first of two pilots sends a text to everyone. -/
def textRun : List Action := twoPilots ++ [.call 2 ⟨1⟩ (.text callsign .all "hello")]

end Sample

/-- The text goes to the second pilot. -/
private theorem text_sent :
    ∃ w w', (machine Sample.config).Trace Sample.textRun w ∧
      w.step Sample.config (.lock 2) = some w' ∧
      w.operation (.lock 2) = some (⟨1⟩, some (.text Sample.callsign .all "hello")) ∧
      ⟨[⟨2⟩], .text Sample.callsign .all "hello"⟩ ∈
        (w.committed Sample.config (.lock 2)).deliveries := by
  have stepped : (((machine Sample.config).final Sample.textRun (by decide)).step Sample.config
      (.lock 2)).isSome = true := by decide
  exact ⟨_, _, (machine Sample.config).trace_final Sample.textRun (by decide),
    (Option.some_get stepped).symm, by decide, by decide⟩

theorem audience_sound_text :
    ∃ w w', (machine Sample.config).Trace Sample.textRun w ∧
      w.step Sample.config (.lock 2) = some w' ∧
      Delivery.Sound w.state w'.state ⟨1⟩ (some (.text Sample.callsign .all "hello"))
        ⟨[⟨2⟩], .text Sample.callsign .all "hello"⟩ := by
  obtain ⟨w, w', trace, step, operation, sent⟩ := text_sent
  exact ⟨w, w', trace, step,
    (audience_sound Sample.config w trace.reachable).1 (.lock 2) w' ⟨1⟩ _ step operation _ sent⟩

/-! ## Attribution -/

/-- The callsign under which an event speaks to its recipients. -/
def Event.origin : Event → Option String
  | .text source _ _ => some (toString source)
  | .query source _ _ _ => some source
  | .response source _ _ _ => some source
  | .ping source _ _ => some (toString source)
  | .pong source _ _ => some source
  | .handoff source _ _ _ => some (toString source)
  | .clientData source _ _ _ => some (toString source)
  | .position update => some (toString update.callsign)
  | .flightPlan plan _ => some (toString plan.callsign)
  | .error .. | .welcome .. | .clientAdded .. | .clientRemoved .. | .weatherReport .. |
      .weatherProfile .. | .windDelta .. | .disconnect .. => none

/-- What an event may tell connections other than `c` when an operation of `c` sends it: the coming or
    going of `c` itself, the end of a session that `c` killed, or something said under the callsign that
    the index maps to `c`. -/
inductive Event.Attributed (state state' : NetworkState) (c : ConnectionId)
    (command : Option Command) : Event → Prop where
  | joined {session : Session} {presence : ClientPresence}
      (issuer : state'.ActiveAs c session presence) :
      Attributed state state' c command (.clientAdded presence)
  | left {session : Session} {presence : ClientPresence}
      (issuer : state.ActiveAs c session presence) :
      Attributed state state' c command
        (.clientRemoved presence.callsign presence.clientType presence.networkId)
  | killed {asked : Command} {j : ConnectionId} {session : Session} {presence : ClientPresence}
      (executes : command = some asked)
      (accepted : AcceptedKill state c asked presence.callsign j)
      (target : state.ActiveAs j session presence) :
      Attributed state state' c command
        (.clientRemoved presence.callsign presence.clientType presence.networkId)
  | killNotice {asked : Command} {target : Callsign} {j : ConnectionId} {reason : String}
      (executes : command = some asked) (accepted : AcceptedKill state c asked target j) :
      Attributed state state' c command (.disconnect target reason)
  | spoken {event : Event} {callsign : Callsign} (origin : event.origin = some (toString callsign))
      (owner : state.callsigns.lookup callsign = some c) : Attributed state state' c command event

theorem Command.Relays.origin {asked : Command} {event : Event} (relays : asked.Relays event) :
    event.origin = asked.source.map toString := by
  cases relays with
  | routed routes =>
      cases asked <;>
        simp only [Network.routed, Option.some.injEq, Prod.mk.injEq, reduceCtorEq] at routes <;>
        (obtain ⟨-, -, rfl⟩ := routes; rfl)
  | query | ping | flightPlan | position => rfl

theorem Sends.attributed (consistent : state.Consistent maxClients)
    (sends : Sends state state' c command delivery) {r : ConnectionId}
    (named : r ∈ delivery.recipients) (other : r ≠ c) :
    delivery.event.Attributed state state' c command := by
  cases sends with
  | answer => exact absurd (List.mem_singleton.mp named) other
  | relayed executes issuer own relays =>
      refine .spoken ?_ (consistent.lookup_callsign issuer)
      rw [relays.origin, own]
      rfl
  | joined _ issuer => exact .joined issuer
  | departed removes member =>
      cases removes with
      | disconnected => exact .left member
      | left => exact .left member
      | killed accepted =>
          obtain rfl := accepted.target_eq consistent member
          exact .killed rfl accepted member
  | noticed executes accepted => exact .killNotice executes accepted

/-- An event is spoken under no callsign of another connection. -/
theorem Event.Attributed.owner {event : Event} (attributed : event.Attributed state state' c command)
    {callsign : Callsign} {i : ConnectionId} (origin : event.origin = some (toString callsign))
    (owned : state.callsigns.lookup callsign = some i) : i = c := by
  cases attributed with
  | joined | left | killed | killNotice => cases origin
  | spoken claims owner =>
      obtain rfl := Callsign.ext (Option.some.inj (claims.symm.trans origin))
      exact Option.some.inj (owned.symm.trans owner)

/-- In every reachable state, whatever an operation of `c` sends to another connection is attributed to
    `c` as `Event.Attributed` says; no event speaks under a callsign that the index maps to another. -/
theorem attribution_sound (config : CoreConfig) (w : World)
    (reach : (machine config).Reachable w) (action : Action) (w' : World) (c : ConnectionId)
    (command : Option Command) (step : w.step config action = some w')
    (operation : w.operation action = some (c, command)) :
    ∀ delivery ∈ (w.committed config action).deliveries, ∀ r ∈ delivery.recipients, r ≠ c →
      delivery.event.Attributed w.state w'.state c command ∧
        ∀ callsign i, delivery.event.origin = some (toString callsign) →
          w.state.callsigns.lookup callsign = some i → i = c := by
  intro delivery member r named other
  obtain ⟨c', command', same, sends⟩ | ⟨_, _, rfl, -⟩ := World.step_sends reach step member
  · obtain ⟨rfl, rfl⟩ := Prod.mk.inj (Option.some.inj (operation.symm.trans same))
    have attributed := sends.attributed (reachable_consistent reach) named other
    exact ⟨attributed, fun callsign i origin owned => attributed.owner origin owned⟩
  · cases operation

theorem attribution_sound_text :
    ∃ w w', (machine Sample.config).Trace Sample.textRun w ∧
      w.step Sample.config (.lock 2) = some w' ∧
      (Event.text Sample.callsign .all "hello").Attributed w.state w'.state ⟨1⟩
        (some (.text Sample.callsign .all "hello")) := by
  obtain ⟨w, w', trace, step, operation, sent⟩ := text_sent
  exact ⟨w, w', trace, step,
    (attribution_sound Sample.config w trace.reachable (.lock 2) w' ⟨1⟩ _ step operation _ sent ⟨2⟩
      (by decide) (by decide)).1⟩

end AsterFsd
