import AsterFsd.Core.Announcements

/-! # What an active session has filed

The position and the flight plan of an active session are those of the last commands that its connection
had accepted since it logged in, whoever held its callsign before.
-/

namespace AsterFsd

open Network

/-! ## Commands since the login -/

/-- The command that the action executes on `i`. -/
def World.executedOn (w : World) (i : ConnectionId) : Action → Option Command
  | .lock id =>
      match w.calls.lookup id with
      | some ⟨c, command, .invoked⟩ => if c = i then some command else none
      | _ => none
  | _ => none

/-- The log of `i` grows with each command executed on it while it is active, and is empty otherwise. -/
def logStep (i : ConnectionId) (w : World) (action : Action) (_ : World) (log : List Command) :
    List Command :=
  if w.state.isActive i then log ++ (w.executedOn i action).toList else []

/-- The commands executed on `i` since its login, in order. -/
def sinceLogin (config : CoreConfig) (i : ConnectionId) (as : List Action) : List Command :=
  (machine config).foldAlong (logStep i) {} [] as

/-- The position a command states, if a session with this callsign and client type may state it. -/
def acceptedPosition (callsign : Callsign) (clientType : ClientType) : Command → Option Position
  | .position update =>
      if update.callsign = callsign ∧ update.validate = .ok () ∧ clientType = expectedType update then
        some update
      else none
  | _ => none

/-- The plan a command files, if a session with this callsign may file it. -/
def acceptedPlan (callsign : Callsign) : Command → Option FlightPlan
  | .flightPlan plan => if plan.callsign = callsign then some plan else none
  | _ => none

/-- The last accepted position of a log. -/
def lastPosition (callsign : Callsign) (clientType : ClientType) (log : List Command) :
    Option Position :=
  (log.filterMap (acceptedPosition callsign clientType)).getLast?

/-- The last accepted plan of a log. -/
def lastPlan (callsign : Callsign) (log : List Command) : Option FlightPlan :=
  (log.filterMap (acceptedPlan callsign)).getLast?

theorem getLast?_filterMap_snoc {α β : Type*} (select : α → Option β) (l : List α) (a : Option α) :
    ((l ++ a.toList).filterMap select).getLast? = (a.bind select).or (l.filterMap select).getLast? := by
  cases a with
  | none => simp
  | some a => cases selected : select a <;> simp [List.filterMap_append, selected]

/-! ## One command -/

section Command

variable {config : CoreConfig} {state : NetworkState} {c i : ConnectionId} {command : Command}
  {session session' : Session} {presence : ClientPresence} {maxClients : Nat}

theorem NetworkState.ActiveAs.unique {other : Session} {holder : ClientPresence}
    (active : state.ActiveAs c session presence) (again : state.ActiveAs c other holder) :
    session = other ∧ presence = holder := by
  obtain rfl : session = other := Option.some.inj (active.1.symm.trans again.1)
  exact ⟨rfl, Option.some.inj (active.2.2.symm.trans again.2.2)⟩

theorem executeActive_position {update : Position} (active : state.ActiveAs c session presence)
    (accepted : acceptedPosition presence.callsign presence.clientType command = some update) :
    (executeActive state c command).1 = (Change.move c update).apply state := by
  have stored : c ∈ state.sessions := KeyedMap.mem_of_lookup active.1
  cases command with
  | position position =>
      simp only [acceptedPosition] at accepted
      split at accepted
      · rename_i checks
        obtain ⟨own, valid, fits⟩ := checks
        obtain rfl := Option.some.inj accepted
        simp [executeActive, active.1, active.2.1, active.2.2, Command.source, own, handleCommand,
          handleStateCommand, valid, fits, stored, Change.apply]
        rfl
      · cases accepted
  | _ => cases accepted

theorem executeActive_plan {plan : FlightPlan} (active : state.ActiveAs c session presence)
    (accepted : acceptedPlan presence.callsign command = some plan) :
    (executeActive state c command).1 = (Change.file c plan).apply state := by
  have stored : c ∈ state.sessions := KeyedMap.mem_of_lookup active.1
  cases command with
  | flightPlan filed =>
      simp only [acceptedPlan] at accepted
      split at accepted
      · rename_i own
        obtain rfl := Option.some.inj accepted
        simp [executeActive, active.1, active.2.1, active.2.2, Command.source, own, handleCommand,
          handleStateCommand, stored, Change.apply]
        rfl
      · cases accepted
  | _ => cases accepted

/-- What the change of its own session by an accepted command leaves of it. -/
private theorem apply_own {change : Change}
    (modifies : change.apply state = { state with
      sessions := state.sessions.modify c change.update }) (stored : state.sessions.lookup c = some session)
    (found : (change.apply state).sessions.lookup c = some session') :
    session' = change.update session := by
  rw [modifies] at found
  simpa [stored, eq_comm] using found

/-- A command moves and files for its issuer what it states, if that is accepted. -/
theorem executeActive_own (active : state.ActiveAs c session presence)
    (found : (executeActive state c command).1.sessions.lookup c = some session') :
    session'.position =
        (acceptedPosition presence.callsign presence.clientType command).or session.position ∧
      session'.flightPlan = (acceptedPlan presence.callsign command).or session.flightPlan ∧
      session'.presence = session.presence := by
  cases moves : acceptedPosition presence.callsign presence.clientType command with
  | some update =>
      have planless : acceptedPlan presence.callsign command = none := by
        cases command <;> first | rfl | cases moves
      rw [executeActive_position active moves] at found
      rw [apply_own rfl active.1 found, planless]
      exact ⟨rfl, rfl, rfl⟩
  | none =>
      cases files : acceptedPlan presence.callsign command with
      | some plan =>
          rw [executeActive_plan active files] at found
          rw [apply_own rfl active.1 found]
          exact ⟨rfl, rfl, rfl⟩
      | none =>
          have outcome := executeActive_executed state c command
          generalize executeActive state c command = result at found outcome
          have kept : session' = session := by
            cases outcome with
            | kept => exact Option.some.inj (found.symm.trans active.1)
            | moved issuer own valid fits =>
                obtain ⟨-, rfl⟩ := issuer.unique active
                simp [acceptedPosition, own, valid, fits] at moves
            | filed issuer own =>
                obtain ⟨-, rfl⟩ := issuer.unique active
                simp [acceptedPlan, own] at files
            | left issuer =>
                rw [Change.apply, Change.removed_sessions, if_pos rfl] at found
                cases found
            | killed issuer online permitted =>
                rw [disconnectLocked_fst, Change.removed_sessions] at found
                split at found
                · cases found
                · exact Option.some.inj (found.symm.trans active.1)
          rw [kept]
          exact ⟨rfl, rfl, rfl⟩

/-- A command of another leaves a session as it is, or removes it. -/
theorem executeActive_other (other : i ≠ c) (stored : state.sessions.lookup i = some session)
    (found : (executeActive state c command).1.sessions.lookup i = some session') :
    session' = session := by
  have outcome := executeActive_executed state c command
  generalize executeActive state c command = result at found outcome
  cases outcome with
  | kept => exact Option.some.inj (found.symm.trans stored)
  | moved | filed =>
      rw [Change.lookup_apply_ne (by simpa [Change.subject] using other.symm)] at found
      exact Option.some.inj (found.symm.trans stored)
  | left =>
      rw [Change.lookup_apply_ne (by simpa [Change.subject] using other.symm)] at found
      exact Option.some.inj (found.symm.trans stored)
  | killed =>
      rw [disconnectLocked_fst, Change.removed_sessions] at found
      split at found
      · cases found
      · exact Option.some.inj (found.symm.trans stored)

/-- The first section of a call leaves the state alone, or is the command of an active session. -/
private theorem lockSection_invoked {state' : NetworkState} {stage : Stage}
    (performed : lockSection config state c command .invoked = some (state', stage)) :
    state' = (executeActive state c command).1 ∨
      state' = state ∧ (∀ callsign clientType, acceptedPosition callsign clientType command = none) ∧
        ∀ callsign, acceptedPlan callsign command = none := by
  have outcome := lockSection_sectioned performed
  cases command with
  | identify | login | weatherRequest =>
      cases outcome with
      | executed => exact .inl rfl
      | _ => exact .inr ⟨rfl, fun _ _ => rfl, fun _ => rfl⟩
  | _ =>
      simp only [lockSection, Option.some.injEq, Prod.mk.injEq] at performed
      exact .inl performed.1.symm

end Command

/-! ## Steps and runs -/

section Steps

variable {config : CoreConfig} {w w' : World} {action : Action} {i : ConnectionId}
  {session session' : Session} {presence : ClientPresence}

/-- A change of a session that is not active does not touch an active one. -/
private theorem unchanged_by {state : NetworkState} {change : Change} {c : ConnectionId}
    (active : state.ActiveAs i session presence)
    (found : (change.apply state).sessions.lookup i = some session') (subject : change.subject = some c)
    (waiting : ∃ other, state.sessions.lookup c = some other ∧ other.phase ≠ .active) :
    session' = session := by
  have elsewhere : change.subject ≠ some i := by
    obtain ⟨other, stored, inactive⟩ := waiting
    rw [subject]
    intro same
    obtain rfl := Option.some.inj same
    obtain rfl := Option.some.inj (stored.symm.trans active.1)
    exact inactive active.2.1
  rw [Change.lookup_apply_ne elsewhere] at found
  exact Option.some.inj (found.symm.trans active.1)

/-- What a step makes of an active session that stays. -/
theorem World.step_session (active : w.state.ActiveAs i session presence)
    (step : w.step config action = some w')
    (found : w'.state.sessions.lookup i = some session') :
    session'.position = ((w.executedOn i action).bind
        (acceptedPosition presence.callsign presence.clientType)).or session.position ∧
      session'.flightPlan =
        ((w.executedOn i action).bind (acceptedPlan presence.callsign)).or session.flightPlan ∧
      session'.presence = session.presence := by
  -- Where no command is executed on `i`, the session stays as it is.
  have unchanged : w.executedOn i action = none → session' = session →
      session'.position = ((w.executedOn i action).bind
          (acceptedPosition presence.callsign presence.clientType)).or session.position ∧
        session'.flightPlan =
          ((w.executedOn i action).bind (acceptedPlan presence.callsign)).or session.flightPlan ∧
        session'.presence = session.presence := by
    intro silent same
    rw [silent, same]
    exact ⟨rfl, rfl, rfl⟩
  cases action with
  | register c peer dialect =>
      obtain ⟨-, rfl⟩ := World.step_register.mp step
      refine unchanged rfl ?_
      obtain kept | ⟨allowed, connected⟩ := register_cases config w.state c peer dialect
      · rw [kept] at found
        exact Option.some.inj (found.symm.trans active.1)
      · have other : i ≠ c := by
          rintro rfl
          exact allowed.1 (KeyedMap.mem_of_lookup active.1)
        rw [connected, Change.lookup_apply_ne (by simpa [Change.subject] using other.symm)] at found
        exact Option.some.inj (found.symm.trans active.1)
  | call =>
      obtain ⟨-, rfl⟩ := World.step_call.mp step
      exact unchanged rfl (Option.some.inj (found.symm.trans active.1))
  | answered =>
      obtain ⟨_, _, -, -, rfl⟩ := World.step_answered.mp step
      exact unchanged rfl (Option.some.inj (found.symm.trans active.1))
  | ret =>
      obtain ⟨_, _, _, -, rfl⟩ := World.step_ret.mp step
      exact unchanged rfl (Option.some.inj (found.symm.trans active.1))
  | windDelta =>
      obtain rfl := World.step_windDelta.mp step
      exact unchanged rfl (Option.some.inj (found.symm.trans active.1))
  | disconnect c reason =>
      obtain rfl := World.step_disconnect.mp step
      refine unchanged rfl ?_
      rw [disconnect, disconnectLocked_fst, Change.removed_sessions] at found
      split at found
      · cases found
      · exact Option.some.inj (found.symm.trans active.1)
  | lock id =>
      obtain ⟨⟨c, command, stage⟩, state, stage', flying, performed, rfl⟩ := World.step_lock.mp step
      dsimp only at performed found
      cases stage with
      | invoked =>
          by_cases own : c = i
          · subst own
            have executes : w.executedOn c (.lock id) = some command := by
              simp [executedOn, flying]
            rw [executes]
            obtain rfl | ⟨rfl, moves, files⟩ := lockSection_invoked performed
            · exact executeActive_own active found
            · obtain rfl := Option.some.inj (found.symm.trans active.1)
              simp [moves, files]
          · refine unchanged (by simp [executedOn, flying, own]) ?_
            obtain rfl | ⟨rfl, -, -⟩ := lockSection_invoked performed
            · exact executeActive_other (Ne.symm own) active.1 found
            · exact Option.some.inj (found.symm.trans active.1)
      | identifying =>
          refine unchanged (by simp [executedOn, flying]) ?_
          cases lockSection_sectioned performed with
          | refused => exact Option.some.inj (found.symm.trans active.1)
          | identified stored fresh =>
              exact unchanged_by active found rfl ⟨_, stored, by simp [fresh]⟩
      | activating =>
          refine unchanged (by simp [executedOn, flying]) ?_
          cases lockSection_sectioned performed with
          | refused => exact Option.some.inj (found.symm.trans active.1)
          | activated stored ready =>
              refine unchanged_by active found rfl ⟨_, stored, ?_⟩
              cases ready.waiting with
              | inl phase => simp [phase]
              | inr phase => simp [phase]
      | _ => cases performed

/-- A session that a step makes active has neither a position nor a plan. -/
theorem World.step_fresh (reach : (machine config).Reachable w)
    (step : w.step config action = some w') (inactive : w.state.isActive i = false)
    (active : w'.state.ActiveAs i session presence) :
    session.position = none ∧ session.flightPlan = none := by
  have idle : ∀ before, w.state.sessions.lookup i = some before → before.phase ≠ .active := by
    intro before stored phase
    rw [isActive_iff.mpr ⟨before, stored, phase⟩] at inactive
    cases inactive
  have empty : ∀ before, w.state.sessions.lookup i = some before →
      before.position = none ∧ before.flightPlan = none := by
    intro before stored
    have wellFormed := (reachable_consistent reach).wellFormed i before stored
    exact ⟨by simpa using mt wellFormed.positioned (idle before stored),
      by simpa using mt wellFormed.filed (idle before stored)⟩
  obtain ⟨change, made, -⟩ := World.step_makes step
  have found := active.1
  rw [made.apply_eq] at found
  obtain ⟨before, stored, rfl | ⟨subject, rfl⟩⟩ | ⟨-, peer, dialect, rfl⟩ := Change.lookup_apply found
  · exact empty session stored
  · have allowed := made.allowed
    cases change with
    | keep | connect | identify | activate | remove => exact empty before stored
    | move c update =>
        obtain ⟨other, holder, issuer, -⟩ := allowed
        obtain rfl : c = i := Option.some.inj subject
        exact absurd issuer.2.1 (idle other issuer.1)
    | file c plan =>
        obtain ⟨other, holder, issuer, -⟩ := allowed
        obtain rfl : c = i := Option.some.inj subject
        exact absurd issuer.2.1 (idle other issuer.1)
  · exact ⟨rfl, rfl⟩

/-- An active session holds what was last accepted of its log. -/
theorem trace_ledger {as : List Action} (trace : (machine config).Trace as w)
    (active : w.state.ActiveAs i session presence) :
    session.position = lastPosition presence.callsign presence.clientType (sinceLogin config i as) ∧
      session.flightPlan = lastPlan presence.callsign (sinceLogin config i as) := by
  have all : ∀ session presence, w.state.ActiveAs i session presence →
      session.position =
          lastPosition presence.callsign presence.clientType (sinceLogin config i as) ∧
        session.flightPlan = lastPlan presence.callsign (sinceLogin config i as) := by
    refine trace.invariant (fun as w => ∀ session presence, w.state.ActiveAs i session presence →
      session.position =
          lastPosition presence.callsign presence.clientType (sinceLogin config i as) ∧
        session.flightPlan = lastPlan presence.callsign (sinceLogin config i as)) ?_ ?_
    · intro session presence active
      cases active.1
    · intro as w action w' trace held step session presence active
      have grown : sinceLogin config i (as ++ [action]) =
          logStep i w action w' (sinceLogin config i as) := Machine.foldAlong_concat trace step
      rw [grown, logStep]
      cases before : w.state.isActive i with
      | false =>
          rw [if_neg (by simp)]
          exact World.step_fresh trace.reachable step before active
      | true =>
          rw [if_pos rfl]
          obtain ⟨old, stored, phase⟩ := isActive_iff.mp before
          have wellFormed := (reachable_consistent trace.reachable).wellFormed i old stored
          obtain ⟨holder, present⟩ := Option.isSome_iff_exists.mp (wellFormed.present.mpr phase)
          have prior : w.state.ActiveAs i old holder := ⟨stored, phase, present⟩
          obtain ⟨moved, filed, same⟩ := World.step_session prior step active.1
          obtain rfl : presence = holder :=
            Option.some.inj (active.2.2.symm.trans (same.trans present))
          obtain ⟨position, plan⟩ := held old presence prior
          rw [moved, filed, position, plan, lastPosition, lastPosition, lastPlan, lastPlan,
            getLast?_filterMap_snoc, getLast?_filterMap_snoc]
          exact ⟨rfl, rfl⟩
  exact all session presence active

end Steps

/-! ## The ledger of the current owner -/

/-- In every run an active session holds the last position and the last plan that its connection had
    accepted since its login, and a flight-plan query of the server tells the requester alone the last
    plan of the session that owns the callsign now. -/
theorem client_state_exact (config : CoreConfig) (as : List Action) (w : World)
    (trace : (machine config).Trace as w) :
    (∀ i session presence, w.state.ActiveAs i session presence →
      session.position =
          lastPosition presence.callsign presence.clientType (sinceLogin config i as) ∧
        session.flightPlan = lastPlan presence.callsign (sinceLogin config i as) ∧
        (presence.clientType = .observer → session.position = none)) ∧
    (∀ c session presence name rest k, w.state.ActiveAs c session presence →
      Callsign.parse name = .ok k →
      executeActive w.state c (.query presence.callsign .server .flightPlan (name :: rest)) =
        (w.state,
          match w.state.callsigns.lookup k with
          | none => errorEffect c (some presence.callsign) .noSuchCallsign (toString k)
          | some j =>
              match lastPlan k (sinceLogin config j as) with
              | none => errorEffect c (some presence.callsign) .noFlightPlan ""
              | some plan => send [c] (.flightPlan plan (.direct presence.callsign)))) := by
  refine ⟨fun i session presence active => ?_, ?_⟩
  · obtain ⟨position, plan⟩ := trace_ledger trace active
    refine ⟨position, plan, fun observer => ?_⟩
    have refused : ∀ command, acceptedPosition presence.callsign .observer command = none := by
      intro command
      cases command with
      | position update => cases update <;> simp [acceptedPosition, expectedType]
      | _ => rfl
    rw [position, lastPosition, observer, List.filterMap_eq_nil_iff.mpr fun command _ => refused command]
    rfl
  · intro c session presence name rest k active named
    have executed : executeActive w.state c
        (.query presence.callsign .server .flightPlan (name :: rest)) =
          (w.state, flightPlanQuery w.state c presence.callsign (name :: rest)) := by
      simp [executeActive, active.1, active.2.1, active.2.2, Command.source, handleCommand,
        handleQuery]
    rw [executed, flightPlanQuery]
    simp only [List.head?_cons, Option.bind_some, named, Except.toOption]
    cases listed : w.state.callsigns.lookup k with
    | none => rfl
    | some j =>
        obtain ⟨owned, holder, owner, rfl⟩ :=
          (reachable_consistent trace.reachable).active_of_lookup listed
        have filed := (trace_ledger trace owner).2
        cases last : lastPlan holder.callsign (sinceLogin config j as) with
        | none =>
            rw [last] at filed
            simp [owner.1, filed, last]
        | some plan =>
            rw [last] at filed
            simp [owner.1, filed, last]

namespace Sample

def plan : FlightPlan where
  callsign := callsign
  flightRules := 'I'
  aircraft := "B738"
  cruiseSpeed := 420
  departure := "LFPG"
  estimatedDeparture := 1200
  actualDeparture := 1210
  cruiseAltitude := "FL350"
  destination := "EGLL"
  hoursEnroute := 1
  minutesEnroute := 5
  hoursFuel := 3
  minutesFuel := 0
  alternate := "EGKK"
  remarks := "RMK"
  route := "DCT"

/-- The first of two pilots files a plan. -/
def filingRun : List Action :=
  twoPilots ++ [.call 2 ⟨1⟩ (.flightPlan plan), .lock 2, .ret 2]

end Sample

theorem client_state_exact_filing :
    ∃ w, (machine Sample.config).Trace Sample.filingRun w ∧
      executeActive w.state ⟨2⟩ (.query Sample.otherCallsign .server .flightPlan ["afr12"]) =
        (w.state, send [⟨2⟩] (.flightPlan Sample.plan (.direct Sample.otherCallsign))) := by
  have trace := (machine Sample.config).trace_final Sample.filingRun (by decide)
  have active : ∃ session presence,
      ((machine Sample.config).final Sample.filingRun (by decide)).state.ActiveAs ⟨2⟩ session
        presence ∧ presence.callsign = Sample.otherCallsign := by
    refine (reachable_consistent trace.reachable).active_of_lookup ?_
    decide
  obtain ⟨session, presence, active, named⟩ := active
  have answers := (client_state_exact Sample.config Sample.filingRun _ trace).2 ⟨2⟩ session presence
    "afr12" [] Sample.callsign active (by decide)
  have listed : ((machine Sample.config).final Sample.filingRun (by decide)).state.callsigns.lookup
      Sample.callsign = some ⟨1⟩ := by decide
  have filed : lastPlan Sample.callsign (sinceLogin Sample.config ⟨1⟩ Sample.filingRun) =
      some Sample.plan := by decide
  rw [named] at answers
  simp only [listed, filed] at answers
  exact ⟨_, trace, answers⟩

end AsterFsd
