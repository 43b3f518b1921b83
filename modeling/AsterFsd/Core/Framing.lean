import AsterFsd.Core.Registry

/-! # Rejections and frames

A rejected request leaves the state as it was, and an accepted one touches the issuer's own session and
its own index entry. The one exception is an accepted kill, which removes its target.
-/

namespace AsterFsd

open Network

/-! ## The frame of a section -/

/-- Nothing that belongs to a connection other than `c` differs between the two states. -/
structure Framed (c : ConnectionId) (state state' : NetworkState) : Prop where
  sessions : ∀ i, i ≠ c → state'.sessions.lookup i = state.sessions.lookup i
  callsigns : ∀ k i, i ≠ c →
    (state'.callsigns.lookup k = some i ↔ state.callsigns.lookup k = some i)

/-- The command is a kill of `target` by the active session `c` under its own callsign, with the rating
    that a kill takes, and `target` is the callsign of session `targetId`. -/
def AcceptedKill (state : NetworkState) (c : ConnectionId) (command : Command)
    (target : Callsign) (targetId : ConnectionId) : Prop :=
  ∃ session presence reason, state.ActiveAs c session presence ∧ 11 ≤ presence.rating ∧
    command = .kill presence.callsign target reason ∧ state.callsigns.lookup target = some targetId

variable {config : CoreConfig} {state state' : NetworkState} {c : ConnectionId}

theorem Framed.refl (c : ConnectionId) (state : NetworkState) : Framed c state state :=
  ⟨fun _ _ => rfl, fun _ _ _ => Iff.rfl⟩

/-- A change of its own session by `c` leaves the others alone. -/
theorem Change.framed {change : Change} {maxClients : Nat}
    (consistent : state.Consistent maxClients) (allowed : change.Allowed config state)
    (own : change.subject = none ∨ change.subject = some c) :
    Framed c state (change.apply state) where
  sessions := by
    intro i other
    apply Change.lookup_apply_ne
    obtain none_ | some_ := own
    · simp [none_]
    · rw [some_]
      exact fun same => other (Option.some.inj same).symm
  callsigns := by
    intro k i other
    cases change with
    | keep | connect | identify | move | file => exact Iff.rfl
    | activate c' presence =>
        obtain rfl : c' = c := by simpa [subject] using own
        by_cases here : k = presence.callsign
        · subst here
          simp [apply, AList.lookup_eq_none.mpr allowed.1, Ne.symm other]
        · rw [apply, AList.lookup_insert_ne here]
    | remove c' =>
        obtain rfl : c' = c := by simpa [subject] using own
        obtain ⟨session, found⟩ := allowed
        rw [apply]
        cases present : session.presence with
        | none => rw [removed_of_absent found present]
        | some presence =>
            rw [removed_of_present found present]
            by_cases here : k = presence.callsign
            · subst here
              have listed := (consistent.index presence.callsign c').mpr
                ⟨session, found, by simp [Session.callsign, present]⟩
              simp [NetworkState.without, listed, Ne.symm other]
            · rw [NetworkState.without, AList.lookup_erase_ne here]

theorem Network.Executed.framed (config : CoreConfig) {maxClients : Nat} {command : Command}
    {result : NetworkState × Effects} (consistent : state.Consistent maxClients)
    (outcome : Executed state c command result) :
    Framed c state result.1 ∨
      ∃ target targetId, AcceptedKill state c command target targetId ∧
        result.1 = state.without targetId target := by
  have own : ∀ change : Change, change.Allowed config state → change.subject = some c →
      Framed c state (change.apply state) :=
    fun change allowed own => change.framed consistent allowed (.inr own)
  cases outcome with
  | kept => exact .inl (.refl c state)
  | moved issuer same => exact .inl (own (.move c _) ⟨_, _, issuer, same⟩ rfl)
  | filed issuer same => exact .inl (own (.file c _) ⟨_, _, issuer, same⟩ rfl)
  | left issuer => exact .inl (own (.remove c) ⟨_, issuer.1⟩ rfl)
  | @killed session presence target reason targetId issuer online permitted =>
      obtain ⟨targetSession, targetPresence, active, rfl⟩ := consistent.active_of_lookup online
      refine .inr ⟨_, targetId, ⟨session, presence, reason, issuer, permitted, rfl, online⟩, ?_⟩
      rw [disconnectLocked_fst, Change.removed_of_present active.1 active.2.2]

theorem Network.Sectioned.framed {maxClients : Nat} {command : Command} {stage stage' : Stage}
    (consistent : state.Consistent maxClients)
    (outcome : Sectioned config state c command stage state' stage') :
    Framed c state state' ∨
      ∃ target targetId, AcceptedKill state c command target targetId ∧
        state' = state.without targetId target := by
  cases outcome with
  | refused | identifyRead | loginRead | weatherRead => exact .inl (.refl c state)
  | executed outcome => exact outcome.framed config consistent
  | identified found fresh =>
      exact .inl (Change.framed consistent (identify_allowed config found fresh) (.inr rfl))
  | activated found ready =>
      exact .inl (Change.framed consistent (activate_allowed config _ found ready) (.inr rfl))

/-! ## Rejections -/

theorem not_rejects_of_head {effects : Effects} {delivery : Delivery} {rest : List Delivery}
    (deliveries : effects.deliveries = delivery :: rest)
    (other : ∀ callsign code environment description,
      delivery.event ≠ .error callsign code environment description) : ¬ effects.Rejects c := by
  rintro ⟨callsign, code, environment, description, single⟩
  rw [deliveries] at single
  obtain ⟨rfl, -⟩ := List.cons.inj single
  exact other _ _ _ _ rfl

theorem send_not_rejects {recipients : List ConnectionId} {event : Event}
    (other : ∀ callsign code environment description,
      event ≠ .error callsign code environment description) :
    ¬ (send recipients event).Rejects c := by
  rintro ⟨callsign, code, environment, description, single⟩
  rw [send_deliveries] at single
  split at single
  · cases single
  · cases single
    exact other _ _ _ _ rfl

theorem announced_not_rejects {change : Change} {close : Option CloseConnection} :
    ¬ (Effects.mk (change.announced state) close).Rejects c := by
  rintro ⟨callsign, code, environment, description, single⟩
  have single : change.announced state =
      [⟨[c], .error callsign code environment description⟩] := single
  have member : ⟨[c], .error callsign code environment description⟩ ∈ change.announced state := by
    rw [single]
    exact List.mem_singleton_self _
  cases announced_announces member

theorem loginEffects_not_rejects {i : ConnectionId} {presence : ClientPresence} :
    ¬ (loginEffects config state i presence).Rejects c := by
  have head : ∃ delivery rest, (loginEffects config state i presence).deliveries =
      delivery :: rest ∧ (delivery.event = .clientAdded presence ∨
        delivery.event = .welcome presence.callsign config.productMessage) := by
    unfold loginEffects appendVatsimLoginProfile
    dsimp only
    split <;> split
    · exact ⟨_, _, rfl, .inr rfl⟩
    · exact ⟨_, _, rfl, .inl rfl⟩
    · exact ⟨_, _, rfl, .inr rfl⟩
    · exact ⟨_, _, rfl, .inl rfl⟩
  obtain ⟨delivery, rest, deliveries, event⟩ := head
  refine not_rejects_of_head deliveries fun _ _ _ _ same => ?_
  obtain added | welcome := event
  · rw [added] at same
    cases same
  · rw [welcome] at same
    cases same

theorem Network.Executed.rejected {command : Command} {result : NetworkState × Effects}
    (outcome : Executed state c command result) (rejects : result.2.Rejects c) :
    result.1 = state := by
  cases outcome with
  | kept => rfl
  | moved => exact absurd rejects (send_not_rejects (by simp))
  | filed => exact absurd rejects (send_not_rejects (by simp))
  | left => exact absurd rejects announced_not_rejects
  | killed => exact absurd rejects (not_rejects_of_head rfl (by simp))

theorem Network.Sectioned.rejected {command : Command} {stage stage' : Stage}
    (outcome : Sectioned config state c command stage state' stage')
    (rejects : stage'.effects.Rejects c) : state' = state := by
  cases outcome with
  | refused | identifyRead | loginRead | weatherRead => rfl
  | executed outcome => exact outcome.rejected rejects
  | identified => exact absurd rejects (Effects.not_rejects_empty c)
  | activated => exact absurd rejects loginEffects_not_rejects

/-! ## What stays with an active session -/

/-- The session of `c`, if it is still stored, is active under this presence on this transport. -/
def Settled (c : ConnectionId) (presence : ClientPresence) (dialect : ProtocolDialect)
    (peer : SocketAddr) (w : World) : Prop :=
  c ∈ w.registered ∧ ∀ session, w.state.sessions.lookup c = some session →
    session.phase = .active ∧ session.presence = some presence ∧ session.dialect = dialect ∧
      session.peer = peer

theorem Change.update_active {change : Change} {session : Session}
    (found : state.sessions.lookup c = some session) (active : session.phase = .active)
    (allowed : change.Allowed config state) (own : change.subject = some c) :
    (change.update session).phase = .active ∧ (change.update session).presence = session.presence ∧
      (change.update session).identification = session.identification := by
  cases change with
  | keep | connect | move | file | remove => exact ⟨active, rfl, rfl⟩
  | identify c' command =>
      obtain rfl : c' = c := Option.some.inj own
      obtain ⟨other, stored, fresh⟩ := allowed
      rw [found] at stored
      cases stored
      simp [active] at fresh
  | activate c' presence =>
      obtain rfl : c' = c := Option.some.inj own
      obtain ⟨-, other, stored, waiting⟩ := allowed
      rw [found] at stored
      cases stored
      simp [active] at waiting

end AsterFsd
