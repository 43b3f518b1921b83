import AsterFsd.Core.Evidence

/-! # The life of a connection

A connection is registered once, may identify itself once, may log in once, and leaves once, in this order.
What it is known by stays until it leaves, and a connection that left never comes back.
-/

namespace AsterFsd

open Network Relation

/-! ## Lives -/

/-- Where a connection is in its life: not yet registered, in the network, or out of it for good. -/
inductive Life where
  | unborn
  | living (peer : SocketAddr) (dialect : ProtocolDialect) (identification : Option Identification)
      (presence : Option ClientPresence)
  | gone
  deriving DecidableEq

namespace Life

/-- One change of a life. -/
inductive Becomes : Life → Life → Prop where
  | refused : Becomes .unborn .gone
  | registered {peer : SocketAddr} {dialect : ProtocolDialect} :
      Becomes .unborn (.living peer dialect none none)
  | identified {peer : SocketAddr} {dialect : ProtocolDialect} {identification : Identification} :
      Becomes (.living peer dialect none none) (.living peer dialect (some identification) none)
  | loggedIn {peer : SocketAddr} {dialect : ProtocolDialect} {identification : Option Identification}
      {presence : ClientPresence}
      (vatsim : dialect = .vatsim → ∃ known, identification = some known ∧
        known.callsign = presence.callsign) :
      Becomes (.living peer dialect identification none)
        (.living peer dialect identification (some presence))
  | left {peer : SocketAddr} {dialect : ProtocolDialect} {identification : Option Identification}
      {presence : Option ClientPresence} :
      Becomes (.living peer dialect identification presence) .gone

/-- What an active connection is known by, it is known by for the rest of its life. -/
theorem kept {life : Life} {peer : SocketAddr} {dialect : ProtocolDialect}
    {identification : Option Identification} {presence : ClientPresence}
    (becomes : ReflTransGen Becomes (.living peer dialect identification (some presence)) life) :
    life = .gone ∨ life = .living peer dialect identification (some presence) := by
  induction becomes with
  | refl => exact .inr rfl
  | tail _ next ih =>
      obtain rfl | rfl := ih
      · cases next
      · cases next with
        | left => exact .inl rfl

end Life

/-- The life of a connection, as the core has it. -/
def World.life (w : World) (i : ConnectionId) : Life :=
  match w.state.sessions.lookup i with
  | some session => .living session.peer session.dialect session.identification session.presence
  | none => if i ∈ w.registered then .gone else .unborn

/-- The phase of a session that has identified itself and logged in, or not. -/
def phaseOf : Option Identification → Option ClientPresence → SessionPhase
  | _, some _ => .active
  | some _, none => .identified
  | none, none => .connected

/-! ## Phases -/

section Steps

variable {config : CoreConfig} {w w' : World} {action : Action} {i : ConnectionId} {session : Session}

/-- The phase of a session says what it has been through. -/
theorem reachable_phase (reach : (machine config).Reachable w)
    (found : w.state.sessions.lookup i = some session) :
    session.phase = phaseOf session.identification session.presence := by
  obtain ⟨actions, trace⟩ := reach
  have all : ∀ i session, w.state.sessions.lookup i = some session →
      session.phase = phaseOf session.identification session.presence := by
    refine trace.invariant (fun _ w => ∀ i session, w.state.sessions.lookup i = some session →
      session.phase = phaseOf session.identification session.presence) (by simp [machine]) ?_
    intro _ w action w' trace held step i session found
    have consistent := reachable_consistent trace.reachable
    obtain ⟨change, made, -⟩ := World.step_makes step
    have allowed := made.allowed
    rw [made.apply_eq] at found
    obtain ⟨before, stored, rfl | ⟨subject, rfl⟩⟩ | ⟨-, peer, dialect, rfl⟩ :=
      Change.lookup_apply found
    · exact held i session stored
    · cases change with
      | identify c command =>
          obtain rfl := Option.some.inj subject
          obtain ⟨other, known, fresh⟩ := allowed
          obtain rfl := Option.some.inj (stored.symm.trans known)
          have absent : before.presence = none := by
            simpa [fresh] using (consistent.wellFormed _ before stored).present
          simp [Change.update, absent, phaseOf]
      | activate c presence =>
          simp only [Change.update]
          cases before.identification <;> rfl
      | keep | connect | move | file | remove => exact held i before stored
    · rfl
  exact all i session found

theorem World.life_of_lookup (found : w.state.sessions.lookup i = some session) :
    w.life i = .living session.peer session.dialect session.identification session.presence := by
  simp [life, found]

theorem World.life_of_absent (absent : w.state.sessions.lookup i = none) :
    w.life i = if i ∈ w.registered then .gone else .unborn := by
  simp [life, absent]

/-- What the change of its own session makes of a life. -/
private theorem updated_life {change : Change} {before : Session}
    (stored : w.state.sessions.lookup i = some before)
    (same : w'.state = change.apply w.state)
    (modifies : (change.apply w.state).sessions = w.state.sessions.modify i change.update) :
    w'.life i = .living before.peer before.dialect (change.update before).identification
      (change.update before).presence := by
  have found : w'.state.sessions.lookup i = some (change.update before) := by
    rw [same, modifies, KeyedMap.lookup_modify_self, stored, Option.map_some]
  rw [World.life_of_lookup found, Change.update_peer, Change.update_dialect]

/-- A step leaves a life as it is, or takes it one change on. -/
theorem World.step_life (reach : (machine config).Reachable w) (step : w.step config action = some w')
    (i : ConnectionId) : w'.life i = w.life i ∨ (w.life i).Becomes (w'.life i) := by
  obtain ⟨change, made, causes⟩ := World.step_makes step
  have allowed := made.allowed
  have known : ∀ session, w.state.sessions.lookup i = some session → i ∈ w'.registered :=
    fun _ found => World.step_registered step (reachable_registered reach found)
  by_cases subject : change.subject = some i
  · cases change with
    | keep => cases subject
    | connect c peer dialect =>
        obtain rfl := Option.some.inj subject
        have absent : w.state.sessions.lookup c = none := AList.lookup_eq_none.mpr allowed.1
        have born : w'.state.sessions.lookup c = some (freshSession c peer dialect) := by
          rw [made.apply_eq]
          exact AList.lookup_insert _
        rw [World.life_of_lookup born, World.life_of_absent absent, if_neg causes.1]
        exact .inr .registered
    | identify c command =>
        obtain rfl := Option.some.inj subject
        obtain ⟨before, stored, fresh⟩ := allowed
        have phase := reachable_phase reach stored
        rw [updated_life stored made.apply_eq rfl, World.life_of_lookup stored]
        rw [fresh] at phase
        cases identification : before.identification <;> cases presence : before.presence <;>
          simp only [identification, presence, phaseOf, reduceCtorEq] at phase
        simp only [Change.update, presence]
        exact .inr .identified
    | activate c presence =>
        obtain rfl := Option.some.inj subject
        obtain ⟨_, _, command, identity, generation, before, -, -, -, -, rfl, stored, ready⟩ := causes
        have absent : before.presence = none := by
          have inactive : before.phase ≠ .active := by
            obtain phase | phase := ready.waiting <;> simp [phase]
          simpa [inactive] using
            ((reachable_consistent reach).wellFormed _ before stored).present
        rw [updated_life stored made.apply_eq rfl, World.life_of_lookup stored, absent]
        refine .inr (.loggedIn fun vatsim => ?_)
        obtain ⟨identification, same, named, -⟩ := ready.identification vatsim
        exact ⟨identification, same, named⟩
    | move c position =>
        obtain rfl := Option.some.inj subject
        obtain ⟨before, _, active, -⟩ := allowed
        rw [updated_life active.1 made.apply_eq rfl, World.life_of_lookup active.1]
        exact .inl rfl
    | file c plan =>
        obtain rfl := Option.some.inj subject
        obtain ⟨before, _, active, -⟩ := allowed
        rw [updated_life active.1 made.apply_eq rfl, World.life_of_lookup active.1]
        exact .inl rfl
    | remove c =>
        obtain rfl := Option.some.inj subject
        obtain ⟨before, stored⟩ := allowed
        have absent : w'.state.sessions.lookup c = none := by
          rw [made.apply_eq, Change.apply, Change.removed_sessions, if_pos rfl]
        rw [World.life_of_absent absent, if_pos (known before stored), World.life_of_lookup stored]
        exact .inr .left
  · have same : w'.state.sessions.lookup i = w.state.sessions.lookup i := by
      rw [made.apply_eq, Change.lookup_apply_ne subject]
    cases found : w.state.sessions.lookup i with
    | some session =>
        rw [World.life_of_lookup found, World.life_of_lookup (same.trans found)]
        exact .inl rfl
    | none =>
        rw [World.life_of_absent found, World.life_of_absent (same.trans found)]
        by_cases before : i ∈ w.registered
        · rw [if_pos before, if_pos (World.step_registered step before)]
          exact .inl rfl
        · rw [if_neg before]
          split
          · exact .inr .refused
          · exact .inl rfl

end Steps

/-! ## Runs -/

/-- In every run the life of a connection goes forward only. A session that is active stays active under its
    presence, with its peer, dialect and identification, or is gone; and its phase is the stage of its life. -/
theorem life_cycle (config : CoreConfig) (before after : List Action) (w w' : World) (i : ConnectionId)
    (trace : (machine config).Trace before w) (trace' : (machine config).Trace (before ++ after) w') :
    ReflTransGen Life.Becomes (w.life i) (w'.life i) ∧
      (∀ session presence, w.state.ActiveAs i session presence →
        w'.state.sessions.lookup i = none ∨ ∃ session', w'.state.ActiveAs i session' presence ∧
          session'.peer = session.peer ∧ session'.dialect = session.dialect ∧
            session'.identification = session.identification) ∧
      ∀ session, w'.state.sessions.lookup i = some session →
        session.phase = phaseOf session.identification session.presence := by
  obtain ⟨mid, ran, rest⟩ := Machine.run_append.mp trace'
  obtain rfl : w = mid := Option.some.inj (trace.symm.trans ran)
  have forward : ReflTransGen Life.Becomes (w.life i) (w'.life i) :=
    Machine.run_moves (World.life · i) (fun _ _ _ reach step => World.step_life reach step i)
      trace.reachable rest
  refine ⟨forward, fun session presence active => ?_, fun _ => reachable_phase trace'.reachable⟩
  rw [World.life_of_lookup active.1, active.2.2] at forward
  cases found : w'.state.sessions.lookup i with
  | none => exact .inl rfl
  | some session' =>
      rw [World.life_of_lookup found] at forward
      obtain gone | same := Life.kept forward
      · cases gone
      · obtain ⟨peer, dialect, identified, present⟩ := Life.living.inj same
        have phase := reachable_phase trace'.reachable found
        rw [present] at phase
        exact .inr ⟨session', ⟨found, phase, present⟩, peer, dialect, identified⟩

/-- A VATSIM client that has identified itself and logged in has been through all of it. -/
theorem life_cycle_vatsim : ∃ w, (machine Sample.config).Trace Sample.vatsimRun w ∧
    ReflTransGen Life.Becomes .unborn (w.life ⟨1⟩) ∧
      w.life ⟨1⟩ = .living Sample.peer .vatsim (some Sample.identification)
        (some (loginPresence { Sample.login with protocolRevision := 100 } Sample.identity)) := by
  have trace := (machine Sample.config).trace_final Sample.vatsimRun (by decide)
  have cycle := life_cycle Sample.config [] Sample.vatsimRun {} _ ⟨1⟩ rfl trace
  exact ⟨_, trace, cycle.1, by decide⟩

end AsterFsd
