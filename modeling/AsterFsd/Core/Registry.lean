import AsterFsd.Core.Steps
import AsterFsd.Lib.Index

/-! # The session registry

The sessions map and the callsign index agree in every reachable state: the index finds precisely the
active sessions, by the callsign of their presence, whatever calls interleave.
-/

namespace AsterFsd

/-! ## The invariant -/

/-- What every stored session satisfies by itself. -/
structure Session.WellFormed (session : Session) : Prop where
  stored : session.phase ≠ .closed
  present : session.presence.isSome = true ↔ session.phase = .active
  positioned : session.position.isSome = true → session.phase = .active
  filed : session.flightPlan.isSome = true → session.phase = .active
  identified : session.phase = .identified → session.identification.isSome = true
  connectedGeneration : session.phase = .connected → session.generation = 0
  identifiedGeneration : session.phase = .identified → session.generation = 1
  activeGeneration : session.phase = .active → session.generation = 1 ∨ session.generation = 2

namespace NetworkState

/-- The two maps agree and hold well-formed sessions under their own IDs, within the capacity. -/
structure Consistent (maxClients : Nat) (state : NetworkState) : Prop where
  index : state.callsigns.Indexes state.sessions Session.callsign
  own : ∀ i session, state.sessions.lookup i = some session → session.connectionId = i
  wellFormed : ∀ i session, state.sessions.lookup i = some session → session.WellFormed
  capacity : state.sessions.size ≤ maxClients

variable {maxClients : Nat} {state : NetworkState}

theorem Consistent.empty (maxClients : Nat) : Consistent maxClients {} where
  index := KeyedMap.Indexes.empty _
  own := by simp
  wellFormed := by simp
  capacity := Nat.zero_le _

/-- An active session is the one that the index finds under its callsign. -/
theorem Consistent.lookup_callsign (consistent : state.Consistent maxClients) {i : ConnectionId}
    {session : Session} {presence : ClientPresence} (active : state.ActiveAs i session presence) :
    state.callsigns.lookup presence.callsign = some i :=
  (consistent.index _ i).mpr ⟨session, active.1, by simp [Session.callsign, active.2.2]⟩

/-- What the index finds is an active session under that callsign. -/
theorem Consistent.active_of_lookup (consistent : state.Consistent maxClients) {k : Callsign}
    {i : ConnectionId} (found : state.callsigns.lookup k = some i) :
    ∃ session presence, state.ActiveAs i session presence ∧ presence.callsign = k := by
  obtain ⟨session, stored, keyed⟩ := (consistent.index k i).mp found
  obtain ⟨presence, present, rfl⟩ := Option.map_eq_some_iff.mp keyed
  have active := (consistent.wellFormed i session stored).present.mp (by simp [present])
  exact ⟨session, presence, ⟨stored, active, present⟩, rfl⟩

/-- A session that is not active has no presence, hence no callsign. -/
theorem Consistent.unkeyed (consistent : state.Consistent maxClients) {i : ConnectionId}
    {session : Session} (found : state.sessions.lookup i = some session)
    (inactive : session.phase ≠ .active) : session.callsign = none := by
  have absent := mt (consistent.wellFormed i session found).present.mp inactive
  simpa [Session.callsign] using absent

end NetworkState

/-! ## Preservation -/

namespace Change

variable {config : CoreConfig} {state : NetworkState}

/-- An in-place change of one session keeps the registry consistent when it keeps that session
    well formed under the same callsign. -/
private theorem consistent_modify {c : ConnectionId} {f : Session → Session} {session : Session}
    (consistent : state.Consistent config.maxClients)
    (found : state.sessions.lookup c = some session)
    (sameId : (f session).connectionId = session.connectionId)
    (sameKey : (f session).callsign = session.callsign) (wellFormed : (f session).WellFormed) :
    NetworkState.Consistent config.maxClients
      { state with sessions := state.sessions.modify c f } where
  index := consistent.index.modify_keyed (by
    intro other stored
    obtain rfl : session = other := Option.some.inj (found.symm.trans stored)
    exact sameKey)
  own := by
    intro i other stored
    by_cases here : i = c
    · subst here
      simp only [KeyedMap.lookup_modify_self, found, Option.map_some, Option.some.injEq] at stored
      rw [← stored, sameId]
      exact consistent.own i session found
    · rw [KeyedMap.lookup_modify_ne _ here] at stored
      exact consistent.own i other stored
  wellFormed := by
    intro i other stored
    by_cases here : i = c
    · subst here
      simp only [KeyedMap.lookup_modify_self, found, Option.map_some, Option.some.injEq] at stored
      rwa [← stored]
    · rw [KeyedMap.lookup_modify_ne _ here] at stored
      exact consistent.wellFormed i other stored
  capacity := by
    rw [KeyedMap.size_modify]
    exact consistent.capacity

private theorem freshSession_wellFormed (c : ConnectionId) (peer : SocketAddr)
    (dialect : ProtocolDialect) : (Network.freshSession c peer dialect).WellFormed := by
  constructor <;> simp [Network.freshSession]

private theorem identify_wellFormed {c : ConnectionId} {command : Identification}
    {session : Session} (wellFormed : session.WellFormed) (fresh : session.phase = .connected) :
    ((identify c command).update session).WellFormed := by
  have absent := wellFormed.present
  have unplaced := wellFormed.positioned
  have unfiled := wellFormed.filed
  have generation := wellFormed.connectedGeneration fresh
  rw [fresh] at absent unplaced unfiled
  constructor <;> simp_all [update]

private theorem activate_wellFormed {c : ConnectionId} {presence : ClientPresence}
    {session : Session} (wellFormed : session.WellFormed)
    (waiting : session.phase = .connected ∨ session.phase = .identified) :
    ((activate c presence).update session).WellFormed := by
  have generation : session.generation = 0 ∨ session.generation = 1 :=
    waiting.imp wellFormed.connectedGeneration wellFormed.identifiedGeneration
  constructor <;> simp [update]
  omega

private theorem move_wellFormed {c : ConnectionId} {position : Position} {session : Session}
    (wellFormed : session.WellFormed) (active : session.phase = .active) :
    ((move c position).update session).WellFormed :=
  { wellFormed with positioned := fun _ => active }

private theorem file_wellFormed {c : ConnectionId} {plan : FlightPlan} {session : Session}
    (wellFormed : session.WellFormed) (active : session.phase = .active) :
    ((file c plan).update session).WellFormed :=
  { wellFormed with filed := fun _ => active }

private theorem connect_consistent {c : ConnectionId} {peer : SocketAddr}
    {dialect : ProtocolDialect} (consistent : state.Consistent config.maxClients)
    (allowed : (connect c peer dialect).Allowed config state) :
    ((connect c peer dialect).apply state).Consistent config.maxClients where
  index := consistent.index.insert_unkeyed (AList.lookup_eq_none.mpr allowed.1) rfl
  own := by
    intro i other stored
    by_cases here : i = c
    · subst here
      simp only [apply, AList.lookup_insert, Option.some.injEq] at stored
      rw [← stored]
      rfl
    · rw [apply, AList.lookup_insert_ne here] at stored
      exact consistent.own i other stored
  wellFormed := by
    intro i other stored
    by_cases here : i = c
    · subst here
      simp only [apply, AList.lookup_insert, Option.some.injEq] at stored
      rw [← stored]
      exact freshSession_wellFormed ..
    · rw [apply, AList.lookup_insert_ne here] at stored
      exact consistent.wellFormed i other stored
  capacity := by
    rw [apply, KeyedMap.size_insert_of_notMem allowed.1]
    exact allowed.2

private theorem activate_consistent {c : ConnectionId} {presence : ClientPresence}
    (consistent : state.Consistent config.maxClients)
    (allowed : (activate c presence).Allowed config state) :
    ((activate c presence).apply state).Consistent config.maxClients := by
  obtain ⟨unused, session, found, waiting⟩ := allowed
  have inactive : session.phase ≠ .active := by
    obtain phase | phase := waiting <;> simp [phase]
  refine ⟨consistent.index.assign found (consistent.unkeyed found inactive) rfl unused, ?_, ?_, ?_⟩
  · intro i other stored
    by_cases here : i = c
    · subst here
      simp only [apply, KeyedMap.lookup_modify_self, found, Option.map_some,
        Option.some.injEq] at stored
      rw [← stored]
      exact consistent.own i session found
    · rw [apply, KeyedMap.lookup_modify_ne _ here] at stored
      exact consistent.own i other stored
  · intro i other stored
    by_cases here : i = c
    · subst here
      simp only [apply, KeyedMap.lookup_modify_self, found, Option.map_some,
        Option.some.injEq] at stored
      rw [← stored]
      exact activate_wellFormed (consistent.wellFormed i session found) waiting
    · rw [apply, KeyedMap.lookup_modify_ne _ here] at stored
      exact consistent.wellFormed i other stored
  · rw [apply, KeyedMap.size_modify]
    exact consistent.capacity

private theorem removed_consistent {c : ConnectionId} {session : Session}
    (consistent : state.Consistent config.maxClients)
    (found : state.sessions.lookup c = some session) :
    (removed state c).Consistent config.maxClients := by
  have kept : ∀ i other, (removed state c).sessions.lookup i = some other →
      state.sessions.lookup i = some other := by
    intro i other stored
    rw [removed_sessions] at stored
    split at stored
    · cases stored
    · exact stored
  have smaller := Nat.le_trans (KeyedMap.size_erase_le state.sessions c) consistent.capacity
  cases present : session.presence with
  | none =>
      have unkeyed : session.callsign = none := by simp [Session.callsign, present]
      rw [removed_of_absent found present] at kept ⊢
      exact ⟨consistent.index.erase_unkeyed found unkeyed,
        fun i other stored => consistent.own i other (kept i other stored),
        fun i other stored => consistent.wellFormed i other (kept i other stored), smaller⟩
  | some presence =>
      have keyed : session.callsign = some presence.callsign := by simp [Session.callsign, present]
      rw [removed_of_present found present] at kept ⊢
      exact ⟨consistent.index.erase_keyed found keyed,
        fun i other stored => consistent.own i other (kept i other stored),
        fun i other stored => consistent.wellFormed i other (kept i other stored), smaller⟩

/-- Every allowed change keeps the registry consistent. -/
theorem consistent_apply {change : Change} (consistent : state.Consistent config.maxClients)
    (allowed : change.Allowed config state) :
    (change.apply state).Consistent config.maxClients := by
  cases change with
  | keep => exact consistent
  | connect c peer dialect => exact connect_consistent consistent allowed
  | identify c command =>
      obtain ⟨session, found, fresh⟩ := allowed
      exact consistent_modify consistent found rfl rfl
        (identify_wellFormed (consistent.wellFormed c session found) fresh)
  | activate c presence => exact activate_consistent consistent allowed
  | move c position =>
      obtain ⟨session, presence, ⟨found, active, -⟩, -⟩ := allowed
      exact consistent_modify consistent found rfl rfl
        (move_wellFormed (consistent.wellFormed c session found) active)
  | file c plan =>
      obtain ⟨session, presence, ⟨found, active, -⟩, -⟩ := allowed
      exact consistent_modify consistent found rfl rfl
        (file_wellFormed (consistent.wellFormed c session found) active)
  | remove c =>
      obtain ⟨session, found⟩ := allowed
      exact removed_consistent consistent found

end Change

theorem World.step_consistent {config : CoreConfig} {w w' : World} {action : Action}
    (consistent : w.state.Consistent config.maxClients)
    (step : w.step config action = some w') : w'.state.Consistent config.maxClients := by
  obtain ⟨change, made, -⟩ := World.step_makes step
  rw [made.apply_eq]
  exact Change.consistent_apply consistent made.allowed

theorem reachable_consistent {config : CoreConfig} {w : World}
    (reach : (machine config).Reachable w) : w.state.Consistent config.maxClients :=
  reach.invariant (fun w => w.state.Consistent config.maxClients)
    (NetworkState.Consistent.empty _)
    fun _ _ _ consistent step => World.step_consistent consistent step

/-- In every reachable state the callsign index finds `i` under `k` exactly when session `i` is active
    under callsign `k`; every session is well formed and stored under its own ID; and the sessions
    fit the capacity. -/
theorem registry_exact (config : CoreConfig) (w : World)
    (reach : (machine config).Reachable w) :
    (∀ k i, w.state.callsigns.lookup k = some i ↔
      ∃ session presence, w.state.ActiveAs i session presence ∧ presence.callsign = k) ∧
    (∀ i session, w.state.sessions.lookup i = some session →
      session.WellFormed ∧ session.connectionId = i) ∧
    w.state.sessions.size ≤ config.maxClients := by
  have consistent := reachable_consistent reach
  refine ⟨fun k i => ⟨consistent.active_of_lookup, ?_⟩, fun i session stored => ?_,
    consistent.capacity⟩
  · rintro ⟨session, presence, active, rfl⟩
    exact consistent.lookup_callsign active
  · exact ⟨consistent.wellFormed i session stored, consistent.own i session stored⟩

/-! ## A login -/

namespace Sample

def config : CoreConfig where
  maxClients := 2
  productMessage := "AsterFSD"
  motd := []

def peer : SocketAddr := ⟨.v4 192 0 2 1, 40000⟩

def callsign : Callsign := ⟨"AFR12", by decide⟩

def otherCallsign : Callsign := ⟨"BAW34", by decide⟩

def identity : AuthenticatedIdentity := ⟨"1000", "Ada", .observer, .privatePilotLicense, false⟩

/-- A pilot's login on a classic listener. -/
def login : LoginCommand where
  callsign := callsign
  clientType := .pilot
  networkId := "1000"
  password := "secret"
  requestedRating := 1
  protocolRevision := 9
  realName := "Ada"
  simulatorType := none

/-- One call of `login` that the authenticator answers with `identity`. -/
def loginCall (id : CallId) (connectionId : ConnectionId) (command : LoginCommand)
    (identity : AuthenticatedIdentity) : List Action :=
  [.call id connectionId (.login command), .lock id,
    .answered id (.authenticated command.networkId command.password (.ok identity)), .lock id]

def loginRun : List Action := .register ⟨1⟩ peer .classic :: loginCall 0 ⟨1⟩ login identity

def captain : AuthenticatedIdentity := { identity with pilotRating := .airlineTransportPilotLicense }

/-- Two pilots log in, the first with the airline transport rating, wire value 15. -/
def twoPilots : List Action :=
  [.register ⟨1⟩ peer .classic, .register ⟨2⟩ peer .classic] ++
  loginCall 0 ⟨1⟩ { login with requestedRating := 15 } captain ++ [.ret 0] ++
  loginCall 1 ⟨2⟩ { login with callsign := otherCallsign } identity ++ [.ret 1]

end Sample

theorem registry_exact_login :
    ∃ w, (machine Sample.config).Trace Sample.loginRun w ∧
      w.state.callsigns.lookup Sample.callsign = some ⟨1⟩ ∧
      (∃ session presence, w.state.ActiveAs ⟨1⟩ session presence ∧
        presence.callsign = Sample.callsign) ∧
      w.state.sessions.size ≤ 2 := by
  have trace := (machine Sample.config).trace_final Sample.loginRun (by decide)
  obtain ⟨index, -, capacity⟩ := registry_exact Sample.config _ trace.reachable
  have listed : ((machine Sample.config).final Sample.loginRun (by decide)).state.callsigns.lookup
      Sample.callsign = some ⟨1⟩ := by decide
  exact ⟨_, trace, listed, (index _ _).mp listed, capacity⟩

end AsterFsd
