import AsterFsd.Core.Announcements
import AsterFsd.Core.Framing

/-! # Who is told what

Every delivery of an operation is of one of five kinds: an answer to the issuer alone, an event of the
issuer's own for active sessions other than it, the news that it joined, the news that a session is gone,
or the notice to the target of a kill. What the recipients are follows from the kind.
-/

namespace AsterFsd

open Network

/-! ## Kinds of deliveries -/

/-- The event in which others receive the command itself. -/
inductive Command.Relays : Command → Event → Prop where
  | routed {command : Command} {destination : Destination} {policy : RangePolicy} {event : Event}
      (routes : routed command = some (destination, policy, event)) : Relays command event
  | query {source : Callsign} {destination : Destination} {kind : QueryKind}
      {arguments : List String} :
      Relays (.query source destination kind arguments)
        (.query (toString source) destination kind arguments)
  | ping {source : Callsign} {destination : Destination} {payload : String} :
      Relays (.ping source destination payload) (.ping source destination payload)
  | flightPlan {plan : FlightPlan} : Relays (.flightPlan plan) (.flightPlan plan .atc)
  | position {position : Position} (valid : position.validate = .ok ()) :
      Relays (.position position) (.position position)

/-- Distinct active sessions, none of them `c`. -/
structure NetworkState.Others (state : NetworkState) (c : ConnectionId)
    (recipients : List ConnectionId) : Prop where
  nodup : recipients.Nodup
  active : ∀ r ∈ recipients, r ≠ c ∧ state.isActive r = true

/-- Why an operation of `c` removes the session `i`: the transport closed, a logoff, or a kill. -/
inductive Removes (state : NetworkState) (c : ConnectionId) :
    Option Command → ConnectionId → Prop where
  | disconnected : Removes state c none c
  | left {session : Session} {presence : ClientPresence}
      (issuer : state.ActiveAs c session presence) :
      Removes state c (some (.logoff presence.callsign)) c
  | killed {command : Command} {target : Callsign} {i : ConnectionId}
      (accepted : AcceptedKill state c command target i) : Removes state c (some command) i

/-- What an operation of `c` may deliver. It executes a command, or it is the disconnect of `c`. -/
inductive Sends (state state' : NetworkState) (c : ConnectionId) (command : Option Command) :
    Delivery → Prop where
  | answer {event : Event} (reply : ∀ asked, command = some asked → ¬ asked.Relays event)
      (unannounced : event.announces = false) : Sends state state' c command ⟨[c], event⟩
  | relayed {asked : Command} {session : Session} {presence : ClientPresence}
      {recipients : List ConnectionId} {event : Event} (executes : command = some asked)
      (issuer : state.ActiveAs c session presence) (own : asked.source = some presence.callsign)
      (relays : asked.Relays event) (others : state.Others c recipients)
      (someone : recipients ≠ []) : Sends state state' c command ⟨recipients, event⟩
  | joined {login : LoginCommand} {identity : AuthenticatedIdentity} {session : Session}
      {recipients : List ConnectionId} (executes : command = some (.login login))
      (issuer : state'.ActiveAs c session (loginPresence login identity))
      (others : state.Others c recipients) (someone : recipients ≠ []) :
      Sends state state' c command ⟨recipients, .clientAdded (loginPresence login identity)⟩
  | departed {i : ConnectionId} {session : Session} {presence : ClientPresence}
      (removes : Removes state c command i) (member : state.ActiveAs i session presence)
      (others : state.Others i (activeIds state' none)) (someone : activeIds state' none ≠ []) :
      Sends state state' c command ⟨activeIds state' none,
        .clientRemoved presence.callsign presence.clientType presence.networkId⟩
  | noticed {source target : Callsign} {reason : String} {j : ConnectionId}
      (executes : command = some (.kill source target reason))
      (accepted : AcceptedKill state c (.kill source target reason) target j) :
      Sends state state' c command ⟨[j], .disconnect target reason⟩

/-- Every delivery is one that the operation may make. -/
def Effects.Sent (effects : Effects) (state state' : NetworkState) (c : ConnectionId)
    (command : Option Command) : Prop :=
  ∀ delivery ∈ effects.deliveries, Sends state state' c command delivery

section Recipients

variable {state state' : NetworkState} {c : ConnectionId} {maxClients : Nat}

/-! ## Recipients -/

theorem activeOthers_others (consistent : state.Consistent maxClients) (select : Session → Bool) :
    state.Others c (activeOthers state c select) where
  nodup := KeyedMap.nodup_selected consistent.own _
  active r member := by
    obtain ⟨session, found, selected⟩ := (KeyedMap.mem_selected consistent.own).mp member
    simp only [decide_eq_true_eq] at selected
    rw [consistent.own r session found] at selected
    exact ⟨selected.1, isActive_iff.mpr ⟨session, found, selected.2.1⟩⟩

theorem activeIds_others (consistent : state.Consistent maxClients) :
    state.Others c (activeIds state (some c)) where
  nodup := nodup_activeIds consistent _
  active r member := by
    obtain ⟨active, other⟩ := (mem_activeIds consistent).mp member
    exact ⟨fun same => other (congrArg some same), active⟩

theorem NetworkState.ActiveAs.isActive {session : Session} {presence : ClientPresence}
    (active : state.ActiveAs c session presence) : state.isActive c = true :=
  isActive_iff.mpr ⟨session, active.1, active.2.1⟩

theorem resolveDestination_others (consistent : state.Consistent maxClients)
    (destination : Destination) (policy : RangePolicy) :
    state.Others c (resolveDestination state c destination policy) := by
  cases destination with
  | server => exact ⟨List.nodup_nil, fun _ member => nomatch member⟩
  | direct callsign =>
      simp only [resolveDestination]
      cases listed : state.callsigns.lookup callsign with
      | none => exact ⟨List.nodup_nil, fun _ member => nomatch member⟩
      | some i =>
          refine ⟨(List.nodup_singleton i).filter _, ?_⟩
          intro r member
          obtain ⟨named, other⟩ := List.mem_filter.mp member
          obtain rfl : r = i := by simpa using named
          obtain ⟨session, presence, active, -⟩ := consistent.active_of_lookup listed
          exact ⟨by simpa using other, active.isActive⟩
  | all => exact activeIds_others consistent
  | atc | pilots | range => exact activeOthers_others consistent _

/-- A state with the same active sessions has the same audiences. -/
theorem NetworkState.Others.transfer {recipients : List ConnectionId}
    (others : state'.Others c recipients)
    (same : ∀ r, r ≠ c → state'.isActive r = true → state.isActive r = true) :
    state.Others c recipients where
  nodup := others.nodup
  active r member :=
    ⟨(others.active r member).1, same r (others.active r member).1 (others.active r member).2⟩

/-- The target of an accepted kill is the session under that callsign. -/
theorem AcceptedKill.target_eq {asked : Command} {target : Callsign} {j : ConnectionId}
    {session : Session} {presence : ClientPresence} (consistent : state.Consistent maxClients)
    (accepted : AcceptedKill state c asked target j) (member : state.ActiveAs j session presence) :
    target = presence.callsign := by
  obtain ⟨_, _, _, -, -, -, online⟩ := accepted
  obtain ⟨other, holder, active, named⟩ := consistent.active_of_lookup online
  obtain rfl : other = session := Option.some.inj (active.1.symm.trans member.1)
  obtain rfl : holder = presence := Option.some.inj (active.2.2.symm.trans member.2.2)
  exact named.symm

end Recipients

section Sent

variable {config : CoreConfig} {state state' : NetworkState} {c : ConnectionId} {maxClients : Nat}
  {command : Option Command}

/-! ## Effects -/

theorem Effects.Sent.silence : Sent {} state state' c command := fun _ member => nomatch member

theorem Effects.Sent.extend {effects other : Effects} (first : effects.Sent state state' c command)
    (second : other.Sent state state' c command) : (effects.extend other).Sent state state' c command := by
  intro delivery member
  cases List.mem_append.mp member with
  | inl member => exact first delivery member
  | inr member => exact second delivery member

theorem send_sent {recipients : List ConnectionId} {event : Event}
    (sends : recipients ≠ [] → Sends state state' c command ⟨recipients, event⟩) :
    (send recipients event).Sent state state' c command := by
  intro delivery member
  rw [send_deliveries] at member
  split at member
  · cases member
  · rename_i someone
    rw [List.mem_singleton.mp member]
    exact sends (by simpa using someone)

theorem send_answer {event : Event} (reply : ∀ asked, command = some asked → ¬ asked.Relays event)
    (unannounced : event.announces = false) :
    (send [c] event).Sent state state' c command :=
  send_sent fun _ => .answer reply unannounced

theorem Command.Relays.not_error {asked : Command} {callsign : Option Callsign} {code : ErrorCode}
    {environment description : String} :
    ¬ asked.Relays (.error callsign code environment description) := by
  intro relays
  generalize same : Event.error callsign code environment description = event at relays
  cases relays with
  | routed routes =>
      subst same
      cases asked <;> simp [Network.routed] at routes
  | query | ping | flightPlan | position => cases same

theorem Command.Relays.not_welcome {asked : Command} {callsign : Callsign} {message : String} :
    ¬ asked.Relays (.welcome callsign message) := by
  intro relays
  generalize same : Event.welcome callsign message = event at relays
  cases relays with
  | routed routes =>
      subst same
      cases asked <;> simp [Network.routed] at routes
  | query | ping | flightPlan | position => cases same

theorem errorEffect_sent (callsign : Option Callsign) (code : ErrorCode) (environment : String) :
    (errorEffect c callsign code environment).Sent state state' c command :=
  send_answer (fun _ _ => Command.Relays.not_error) rfl

theorem Network.Refusal.sent {effects : Effects} (refusal : Refusal c effects) :
    effects.Sent state state' c command := by
  cases refusal with
  | silence => exact .silence
  | error => exact errorEffect_sent _ _ _
  | errorAndClose => exact errorEffect_sent _ _ _

/-! ## Commands of an active session -/

section Handlers

variable {session : Session} {presence : ClientPresence}

private theorem handleRoutedCommand_sent {asked : Command} (consistent : state.Consistent maxClients)
    (issuer : state.ActiveAs c session presence) (own : asked.source = some presence.callsign) :
    (handleRoutedCommand state c asked).Sent state state c (some asked) := by
  unfold handleRoutedCommand
  split
  · exact .silence
  · rename_i routes
    exact send_sent fun someone => .relayed rfl issuer own (.routed routes)
      (resolveDestination_others consistent _ _) someone

private theorem handleQuery_sent {source : Callsign} {destination : Destination} {kind : QueryKind}
    {arguments : List String} (consistent : state.Consistent maxClients)
    (issuer : state.ActiveAs c session presence) (own : source = presence.callsign) :
    (handleQuery state c source destination kind arguments).Sent state state c
      (some (.query source destination kind arguments)) := by
  unfold handleQuery
  split
  · exact send_sent fun someone => .relayed rfl issuer (congrArg some own) .query
      (resolveDestination_others consistent _ _) someone
  · split
    · unfold flightPlanQuery
      split
      · exact errorEffect_sent _ _ _
      · split
        · exact errorEffect_sent _ _ _
        · split
          · exact errorEffect_sent _ _ _
          · refine send_answer ?_ rfl
            intro asked same
            cases same
            intro relays
            cases relays with
            | routed routes => cases routes
    all_goals exact .silence

private theorem handlePing_sent {source : Callsign} {destination : Destination} {payload : String}
    (consistent : state.Consistent maxClients) (issuer : state.ActiveAs c session presence)
    (own : source = presence.callsign) :
    (handlePing state c source destination payload).Sent state state c
      (some (.ping source destination payload)) := by
  unfold handlePing
  split
  · refine send_answer ?_ rfl
    intro asked same
    cases same
    intro relays
    cases relays with
    | routed routes => cases routes
  · exact send_sent fun someone => .relayed rfl issuer (congrArg some own) .ping
      (resolveDestination_others consistent _ _) someone

/-- The sessions that stay active after a removal are not the removed one. -/
private theorem removed_others {i : ConnectionId} (consistent : state.Consistent config.maxClients)
    (allowed : (Change.remove i).Allowed config state) :
    state.Others i (activeIds ((Change.remove i).apply state) none) := by
  have consistent' := Change.consistent_apply consistent allowed
  refine ⟨nodup_activeIds consistent' none, ?_⟩
  intro r member
  obtain ⟨other, found, phase⟩ := isActive_iff.mp ((mem_activeIds consistent').mp member).1
  rw [Change.apply, Change.removed_sessions] at found
  split at found
  · cases found
  · rename_i elsewhere
    exact ⟨elsewhere, isActive_iff.mpr ⟨other, found, phase⟩⟩

/-- Removing a session tells the active ones that its client left. -/
private theorem disconnectLocked_sent {i : ConnectionId}
    (consistent : state.Consistent config.maxClients) (removes : Removes state c command i)
    (reason : String) :
    (disconnectLocked state i reason).2.Sent state (disconnectLocked state i reason).1 c command := by
  cases found : state.sessions.lookup i with
  | none =>
      rw [disconnectLocked_absent found]
      exact .silence
  | some session =>
      rw [disconnectLocked_present found]
      intro delivery member
      simp only [Change.announced, found, Option.bind_some] at member
      cases present : session.presence with
      | none =>
          rw [present] at member
          cases member
      | some presence =>
          rw [present] at member
          dsimp only at member
          split at member
          · cases member
          · rename_i someone
            rw [List.mem_singleton.mp member]
            have active := (consistent.wellFormed i session found).present.mp (by simp [present])
            exact .departed removes ⟨found, active, present⟩
              (removed_others consistent ⟨session, found⟩) (by simpa using someone)

/-- A change of the issuer's position or plan leaves the active sessions as they are. -/
private theorem modified_others {change : Change} {recipients : List ConnectionId}
    (others : (change.apply state).Others c recipients) (own : change.subject = some c) :
    state.Others c recipients := by
  refine others.transfer fun r other active => ?_
  obtain ⟨session, found, phase⟩ := isActive_iff.mp active
  rw [Change.lookup_apply_ne (by simpa [own] using other.symm)] at found
  exact isActive_iff.mpr ⟨session, found, phase⟩

private theorem handleStateCommand_sent {asked : Command}
    (consistent : state.Consistent config.maxClients)
    (issuer : state.ActiveAs c session presence) (own : asked.source = some presence.callsign) :
    (handleStateCommand state c presence.callsign presence.clientType asked).2.Sent state
      (handleStateCommand state c presence.callsign presence.clientType asked).1 c (some asked) := by
  cases asked with
  | logoff source =>
      obtain rfl : source = presence.callsign := Option.some.inj own
      exact disconnectLocked_sent consistent (.left issuer) _
  | position position =>
      simp only [handleStateCommand]
      cases valid : position.validate with
      | error error => exact errorEffect_sent _ _ _
      | ok =>
          dsimp only
          split
          · exact errorEffect_sent _ _ _
          · split
            · exact .silence
            · have consistent' := @Change.consistent_apply config state (.move c position) consistent
                ⟨session, presence, issuer, Option.some.inj own⟩
              exact send_sent fun someone => .relayed rfl issuer own (.position valid)
                (modified_others (activeOthers_others consistent' _) rfl) someone
  | flightPlan plan =>
      simp only [handleStateCommand]
      split
      · exact .silence
      · have consistent' := @Change.consistent_apply config state (.file c plan) consistent
          ⟨session, presence, issuer, Option.some.inj own⟩
        exact send_sent fun someone => .relayed rfl issuer own .flightPlan
          (modified_others (activeOthers_others consistent' _) rfl) someone
  | _ => exact .silence

private theorem handleKill_sent {source target : Callsign} {reason : String}
    (consistent : state.Consistent config.maxClients)
    (issuer : state.ActiveAs c session presence) (own : source = presence.callsign) :
    (handleKill state c presence.callsign presence.rating target reason).2.Sent state
      (handleKill state c presence.callsign presence.rating target reason).1 c
      (some (.kill source target reason)) := by
  subst own
  have notice : ∀ {state' : NetworkState} (message : String),
      (send [c] (.welcome presence.callsign message)).Sent state state' c
        (some (.kill presence.callsign target reason)) :=
    fun message => send_answer (fun _ _ => Command.Relays.not_welcome) rfl
  unfold handleKill
  split
  · exact errorEffect_sent _ _ _
  · rename_i targetId online
    split
    · exact notice _
    · rename_i permitted
      have accepted : AcceptedKill state c (.kill presence.callsign target reason) target targetId :=
        ⟨session, presence, reason, issuer, Int32.not_lt.mp permitted, rfl, online⟩
      refine .extend (.extend (notice _) ?_) (disconnectLocked_sent consistent (.killed accepted) _)
      exact send_sent fun _ => .noticed rfl accepted

end Handlers

theorem executeActive_sent (consistent : state.Consistent config.maxClients) (c : ConnectionId)
    (asked : Command) :
    (executeActive state c asked).2.Sent state (executeActive state c asked).1 c (some asked) := by
  unfold executeActive
  split
  · exact .silence
  rename_i session found
  split
  · exact .silence
  rename_i phase
  split
  · exact .silence
  rename_i presence present
  split
  · exact errorEffect_sent _ _ _
  rename_i own
  have issuer : state.ActiveAs c session presence := ⟨found, not_not.mp phase, present⟩
  have own : asked.source = some presence.callsign := not_not.mp own
  cases asked with
  | logoff | position | flightPlan => exact handleStateCommand_sent consistent issuer own
  | query => exact handleQuery_sent consistent issuer (Option.some.inj own)
  | ping => exact handlePing_sent consistent issuer (Option.some.inj own)
  | text | response | pong | handoff | clientData =>
      exact handleRoutedCommand_sent consistent issuer own
  | kill => exact handleKill_sent consistent issuer (Option.some.inj own)
  | noop | identify | login | weatherRequest => exact .silence

/-! ## Calls -/

private theorem vatsimLoginProfile_sent {login : LoginCommand} (peer : SocketAddr)
    (presence : ClientPresence) :
    ∀ delivery ∈ vatsimLoginProfile c peer presence,
      Sends state state' c (some (.login login)) delivery := by
  have reply : ∀ event asked, some (Command.login login) = some asked → ¬ asked.Relays event := by
    intro event asked same relays
    cases same
    cases relays with
    | routed routes => cases routes
  have toClient : ∀ delivery ∈ vatsimLoginProfile c peer presence,
      ∃ event, delivery = ⟨[c], event⟩ ∧ event.announces = false := by
    unfold vatsimLoginProfile
    intro delivery member
    split at member <;> split at member <;> simp at member <;> grind [Event.announces]
  intro delivery member
  obtain ⟨event, rfl, unannounced⟩ := toClient delivery member
  exact .answer (reply event) unannounced

private theorem loginEffects_sent {login : LoginCommand} {identity : AuthenticatedIdentity}
    {session : Session} (consistent : state'.Consistent maxClients)
    (same : ∀ r, r ≠ c → state'.isActive r = true → state.isActive r = true)
    (issuer : state'.ActiveAs c session (loginPresence login identity)) :
    (loginEffects config state' c (loginPresence login identity)).Sent state state' c
      (some (.login login)) := by
  -- The peers are told that the client joined, and everything else goes to the client.
  have announced : ∀ delivery ∈ ((if (activeIds state' (some c)).isEmpty then []
      else [⟨activeIds state' (some c), .clientAdded (loginPresence login identity)⟩]) :
        List Delivery), Sends state state' c (some (.login login)) delivery := by
    intro delivery member
    split at member
    · cases member
    · rename_i someone
      rw [List.mem_singleton.mp member]
      exact .joined rfl issuer ((activeIds_others consistent).transfer same) (by simpa using someone)
  have welcomed : ∀ delivery ∈ (config.productMessage :: config.motd).map (fun line =>
      { recipients := [c]
        event := .welcome (loginPresence login identity).callsign line : Delivery }),
      Sends state state' c (some (.login login)) delivery := by
    intro delivery member
    obtain ⟨line, -, rfl⟩ := List.mem_map.mp member
    exact .answer (fun _ _ => Command.Relays.not_welcome) rfl
  unfold loginEffects
  split
  · intro delivery member
    exact (List.mem_append.mp member).elim (announced delivery) (welcomed delivery)
  · intro delivery member
    cases List.mem_append.mp member with
    | inl member =>
        exact (List.mem_append.mp member).elim (announced delivery) (welcomed delivery)
    | inr member => exact vatsimLoginProfile_sent _ _ delivery member

private theorem activate_isActive {presence : ClientPresence} {r : ConnectionId} (other : r ≠ c)
    (active : ((Change.activate c presence).apply state).isActive r = true) :
    state.isActive r = true := by
  obtain ⟨session, found, phase⟩ := isActive_iff.mp active
  rw [Change.lookup_apply_ne (by simpa [Change.subject] using other.symm)] at found
  exact isActive_iff.mpr ⟨session, found, phase⟩

theorem Network.Sectioned.sent {call : Call} {stage : Stage} (fits : call.Fits)
    (consistent : state.Consistent config.maxClients)
    (outcome : Sectioned config state call.connectionId call.command call.stage state' stage) :
    stage.effects.Sent state state' call.connectionId (some call.command) := by
  obtain ⟨c, asked, before⟩ := call
  dsimp only at outcome
  cases outcome with
  | refused refusal => exact refusal.sent
  | executed outcome => exact executeActive_sent consistent c asked
  | identifyRead | loginRead | weatherRead | identified => exact .silence
  | activated found ready =>
      rename_i login identity generation session
      obtain rfl : asked = .login login := fits
      have consistent' := Change.consistent_apply consistent
        (activate_allowed config identity found ready)
      have issuer : ((Change.activate c (loginPresence login identity)).apply state).ActiveAs c
          ((Change.activate c (loginPresence login identity)).update session)
          (loginPresence login identity) := ⟨by simp [Change.apply, found], rfl, rfl⟩
      exact loginEffects_sent consistent' (fun r => activate_isActive) issuer

theorem Network.Answered.sent {call : Call} {stage : Stage} {answer : Answer} (fits : call.Fits)
    (outcome : Answered call.connectionId call.stage answer stage) :
    stage.effects.Sent state state' call.connectionId (some call.command) := by
  obtain ⟨c, asked, before⟩ := call
  dsimp only at outcome
  cases outcome with
  | unauthorized refusal | rejected refusal => exact refusal.sent
  | authorized | authenticated => exact .silence
  | observed unannounced =>
      obtain rfl : asked = .weatherRequest _ _ _ := fits
      refine send_answer ?_ unannounced
      intro same relayed relays
      cases relayed
      cases relays with
      | routed routes => cases routes

end Sent

/-! ## Operations -/

/-- The connection whose operation the action carries on, and the command it executes; the disconnect of
    a connection executes none. -/
def World.operation (w : World) : Action → Option (ConnectionId × Option Command)
  | .lock id | .answered id _ =>
      (w.calls.lookup id).map fun call => (call.connectionId, some call.command)
  | .disconnect connectionId _ => some (connectionId, none)
  | .register .. | .call .. | .ret _ | .windDelta .. => none

/-- What a step delivers: what the operation may send, or a broadcast. -/
theorem World.step_sends {config : CoreConfig} {w w' : World} {action : Action}
    (reach : (machine config).Reachable w) (step : w.step config action = some w')
    {delivery : Delivery} (member : delivery ∈ (w.committed config action).deliveries) :
    (∃ c command, w.operation action = some (c, command) ∧
        Sends w.state w'.state c command delivery) ∨
      ∃ speed direction, action = .windDelta speed direction ∧
        delivery ∈ (broadcast w.state (.windDelta speed direction)).deliveries := by
  have consistent := reachable_consistent reach
  cases action with
  | register c peer dialect =>
      obtain ⟨unregistered, -⟩ := World.step_register.mp step
      simp [World.committed, World.perform, unregistered] at member
  | call id c command =>
      obtain ⟨fresh, -⟩ := World.step_call.mp step
      simp [World.committed, World.perform, fresh] at member
  | lock id =>
      obtain ⟨call, state, stage, found, performed, rfl⟩ := World.step_lock.mp step
      rw [World.committed_lock found performed] at member
      refine .inl ⟨call.connectionId, some call.command, by simp [operation, found], ?_⟩
      exact (lockSection_sectioned performed).sent (reachable_fits reach found) consistent delivery
        member
  | answered id answer =>
      obtain ⟨call, stage, found, received, rfl⟩ := World.step_answered.mp step
      rw [World.committed_answered found received] at member
      refine .inl ⟨call.connectionId, some call.command, by simp [operation, found], ?_⟩
      exact (answerStage_answered received).sent (reachable_fits reach found) delivery member
  | ret id =>
      obtain ⟨c, command, effects, found, -⟩ := World.step_ret.mp step
      simp [World.committed, World.perform, found] at member
  | disconnect c reason =>
      obtain rfl := World.step_disconnect.mp step
      exact .inl ⟨c, none, rfl, disconnectLocked_sent consistent .disconnected reason delivery member⟩
  | windDelta speed direction => exact .inr ⟨speed, direction, rfl, member⟩

end AsterFsd
