import AsterFsd.Core.Evidence

/-! # Authority to kill

A kill is meant for controllers who hold at least the supervisor rating. The presence stores the
requested rating of either scale as one bare integer, and the kill compares that integer with the
supervisor's wire value, so a pilot who logged in with one of the higher pilot ratings passes the
check as well. The results say exactly when a run keeps to the rule.
-/

namespace AsterFsd

open Network

/-- The step is the kill of `target`, the callsign of session `targetId`, that connection `c` asks for
    as `source`. -/
def KillRequest (w : World) (action : Action) (c : ConnectionId) (source target : Callsign)
    (targetId : ConnectionId) : Prop :=
  ∃ id call reason, action = .lock id ∧ w.calls.lookup id = some call ∧ call.connectionId = c ∧
    call.stage = .invoked ∧ call.command = .kill source target reason ∧
    w.state.callsigns.lookup target = some targetId

/-- The session of `c` is active as a controller, and the identity that authenticated its login had at
    least the supervisor rating. -/
def KillAuthority (as : List Action) (w : World) (c : ConnectionId) : Prop :=
  ∃ session presence L identity, w.state.ActiveAs c session presence ∧ presence.clientType = .atc ∧
    Authenticated as c session L identity ∧
    AtcRating.supervisor.wireValue ≤ identity.atcRating.wireValue

/-- The target keeps its session and its callsign, and nothing tells it to leave or closes it. -/
structure Spared (state state' : NetworkState) (effects : Effects) (target : Callsign)
    (targetId : ConnectionId) : Prop where
  session : state'.sessions.lookup targetId = state.sessions.lookup targetId
  callsign : state'.callsigns.lookup target = state.callsigns.lookup target
  «open» : ∀ close, effects.close = some close → close.connectionId ≠ targetId
  undisturbed : ∀ delivery ∈ effects.deliveries, targetId ∈ delivery.recipients →
    delivery.event.disconnects = false

/-- Every kill of the run is by a controller with the authority, or spares its target. -/
def KillsAuthorized (config : CoreConfig) (as : List Action) : Prop :=
  ∀ before action after w w' c source target targetId, as = before ++ action :: after →
    (machine config).Trace before w → w.step config action = some w' →
    KillRequest w action c source target targetId →
    KillAuthority before w c ∨
      Spared w.state w'.state (w.committed config action) target targetId

/-- If this step is a kill by an active session under its own callsign with a rating of 11 or more,
    the session is a controller's. -/
def NoPilotKill (w : World) (action : Action) : Prop :=
  ∀ c source target targetId session presence, KillRequest w action c source target targetId →
    w.state.ActiveAs c session presence → presence.callsign = source → 11 ≤ presence.rating →
    presence.clientType = .atc

variable {config : CoreConfig} {as : List Action} {w w' : World} {action : Action}
  {c targetId : ConnectionId} {source target : Callsign}

/-- A controller active with a rating of 11 or more was authenticated as a supervisor at least. -/
theorem killAuthority_of_controller (trace : (machine config).Trace as w) {session : Session}
    {presence : ClientPresence} (active : w.state.ActiveAs c session presence)
    (controller : presence.clientType = .atc) (rating : 11 ≤ presence.rating) :
    KillAuthority as w c := by
  obtain ⟨L, identity, known⟩ := Trace.authenticated trace active.1 active.2.1
  obtain rfl : presence = loginPresence L identity :=
    Option.some.inj (active.2.2.symm.trans known.presence)
  have allowed := known.authorized.ratingIsAuthorized
  simp only [ratingIsAuthorized, show L.clientType = .atc from controller,
    AtcRating.allowsWireValue, Bool.and_eq_true, decide_eq_true_eq] at allowed
  exact ⟨session, _, L, identity, active, controller, known, Int32.le_trans rating allowed.2⟩

theorem step_kill (step : w.step config action = some w')
    (request : KillRequest w action c source target targetId) :
    ∃ reason, executeActive w.state c (.kill source target reason) =
      (w'.state, w.committed config action) := by
  obtain ⟨id, ⟨c, command, stage⟩, reason, rfl, found, rfl, rfl, rfl, online⟩ := request
  obtain ⟨call, state, stage, stored, performed, rfl⟩ := World.step_lock.mp step
  obtain rfl : _ = call := Option.some.inj (found.symm.trans stored)
  rw [World.committed_lock stored performed]
  simp only [lockSection, Option.some.injEq, Prod.mk.injEq] at performed
  obtain ⟨rfl, rfl⟩ := performed
  exact ⟨reason, rfl⟩

theorem spared_of_kept {state : NetworkState} {effects : Effects}
    (undisturbing : ∀ delivery ∈ effects.deliveries, delivery.event.disconnects = false)
    (stays : effects.close = none) : Spared state state effects target targetId where
  session := rfl
  callsign := rfl
  «open» := by simp [stays]
  undisturbed := fun delivery member _ => undisturbing delivery member

/-- A kill that is carried out does not spare its target. -/
theorem not_spared_of_killed {effects : Effects} {reason : String} (reach : (machine config).Reachable w)
    (online : w.state.callsigns.lookup target = some targetId) :
    ¬ Spared w.state (disconnectLocked w.state targetId reason).1 effects target targetId := by
  intro spared
  obtain ⟨session, presence, active, rfl⟩ :=
    (reachable_consistent reach).active_of_lookup online
  have kept := spared.session
  rw [disconnectLocked_fst, Change.removed_of_present active.1 active.2.2] at kept
  simp [NetworkState.without, active.1] at kept

/-- A kill keeps to the rule exactly when it is not a pilot's rating that passes the check. -/
theorem kill_authorized_iff (trace : (machine config).Trace as w)
    (step : w.step config action = some w')
    (request : KillRequest w action c source target targetId) :
    (KillAuthority as w c ∨
        Spared w.state w'.state (w.committed config action) target targetId) ↔
      ∀ session presence, w.state.ActiveAs c session presence → presence.callsign = source →
        11 ≤ presence.rating → presence.clientType = .atc := by
  have ⟨_, _, _, _, _, _, _, _, online⟩ := request
  obtain ⟨reason, executed⟩ := step_kill step request
  constructor
  · rintro (⟨other, presence', -, -, active, controller, -⟩ | spared) session presence issuer own rating
    · obtain rfl : session = other := Option.some.inj (issuer.1.symm.trans active.1)
      obtain rfl : presence = presence' := Option.some.inj (issuer.2.2.symm.trans active.2.2)
      exact controller
    · subst own
      rw [executeActive_kill issuer online rating] at executed
      rw [← (Prod.mk.inj executed).1] at spared
      exact absurd spared (not_spared_of_killed trace.reachable online)
  · intro controllers
    have outcome := executeActive_executed w.state c (.kill source target reason)
    rw [executed] at outcome
    generalize result : (w'.state, w.committed config action) = after at outcome
    cases outcome with
    | kept _ undisturbing stays =>
        obtain ⟨same, rfl⟩ := Prod.mk.inj result
        rw [same]
        exact .inr (spared_of_kept undisturbing stays)
    | killed issuer _ permitted =>
        exact .inl (killAuthority_of_controller trace issuer
          (controllers _ _ issuer rfl permitted) permitted)

/-- A run's kills keep to the rule exactly when no step of it is a kill that passes on a pilot's or an
    observer's rating. -/
theorem killsAuthorized_iff (config : CoreConfig) (as : List Action) (w : World)
    (trace : (machine config).Trace as w) :
    KillsAuthorized config as ↔ (machine config).Along NoPilotKill {} as := by
  rw [Machine.along_iff]
  constructor
  · intro authorized before action after mid split ran c source target targetId session presence
      request issuer own rating
    obtain ⟨_, ran', rest⟩ := Machine.run_append.mp (split ▸ trace)
    obtain rfl : mid = _ := Option.some.inj (ran.symm.trans ran')
    obtain ⟨next, step, -⟩ := Machine.run_cons.mp rest
    exact (kill_authorized_iff ran step request).mp
      (authorized before action after mid next c source target targetId split ran step request)
      session presence issuer own rating
  · intro controllers before action after mid next c source target targetId split ran step request
    refine (kill_authorized_iff ran step request).mpr fun session presence issuer own rating => ?_
    exact controllers before action after mid split ran c source target targetId session presence
      request issuer own rating

/-! ## A pilot who kills -/

namespace Sample

/-- The pilot with the higher rating asks to kill the other. -/
def pilotKill : List Action := twoPilots ++ [.call 2 ⟨1⟩ (.kill callsign otherCallsign "bye")]

theorem pilotKill_request :
    KillRequest ((machine Sample.config).final pilotKill (by decide)) (.lock 2) ⟨1⟩ callsign
      otherCallsign ⟨2⟩ :=
  ⟨2, ⟨⟨1⟩, .kill callsign otherCallsign "bye", .invoked⟩, "bye", rfl, rfl, rfl, rfl, rfl, by decide⟩

end Sample

theorem pilot_kill_unauthorized :
    ¬ ∀ config as w, (machine config).Trace as w → KillsAuthorized config as := by
  intro all
  have before := (machine Sample.config).trace_final Sample.pilotKill (by decide)
  have trace := (machine Sample.config).trace_final (Sample.pilotKill ++ [.lock 2]) (by decide)
  obtain ⟨mid, ran, step⟩ := Machine.run_concat.mp trace
  obtain rfl := Option.some.inj (before.symm.trans ran)
  obtain ⟨session, presence, -, -, active, controller, -⟩ | spared :=
    all Sample.config _ _ trace Sample.pilotKill (.lock 2) [] _ _ ⟨1⟩ Sample.callsign
      Sample.otherCallsign ⟨2⟩ rfl before step Sample.pilotKill_request
  · have pilot : (((machine Sample.config).final Sample.pilotKill (by decide)).state.sessions.lookup
        ⟨1⟩).bind (fun session => session.presence.map (·.clientType)) = some .pilot := by decide
    simp [active.1, active.2.2, controller] at pilot
  · have kept := spared.callsign
    have stored : ((machine Sample.config).final Sample.pilotKill
        (by decide)).state.callsigns.lookup Sample.otherCallsign = some ⟨2⟩ := by decide
    have removed : ((machine Sample.config).final (Sample.pilotKill ++ [.lock 2])
        (by decide)).state.callsigns.lookup Sample.otherCallsign = none := by decide
    rw [stored] at kept
    exact absurd (removed.symm.trans kept) (by decide)

/-- The run in which the pilot's kill is carried out does not keep to the rule. -/
theorem killsAuthorized_iff_pilotKill :
    ∃ w, (machine Sample.config).Trace (Sample.pilotKill ++ [.lock 2]) w ∧
      ¬ KillsAuthorized Sample.config (Sample.pilotKill ++ [.lock 2]) := by
  have before := (machine Sample.config).trace_final Sample.pilotKill (by decide)
  have trace := (machine Sample.config).trace_final (Sample.pilotKill ++ [.lock 2]) (by decide)
  refine ⟨_, trace, fun authorized => ?_⟩
  have admitted := (killsAuthorized_iff Sample.config _ _ trace).mp authorized
  have found := (Option.some_get (x := ((machine Sample.config).final Sample.pilotKill
    (by decide)).state.sessions.lookup ⟨1⟩) (by decide)).symm
  have controller := Machine.along_iff.mp admitted Sample.pilotKill (.lock 2) [] _ rfl before ⟨1⟩
    Sample.callsign Sample.otherCallsign ⟨2⟩ _
    (loginPresence { Sample.login with requestedRating := 15 } Sample.captain)
    Sample.pilotKill_request ⟨found, by decide, by decide⟩ rfl (by decide)
  exact absurd controller (by decide)

end AsterFsd
