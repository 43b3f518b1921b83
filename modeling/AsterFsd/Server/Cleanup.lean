import AsterFsd.Server.Order

/-! # After a connection task

A connection task takes its handle and its session away before it ends, whichever way it leaves and
whatever other tasks have done to the session before. A removal finds the callsign that belongs to the
session it removes, so it takes no callsign from a connection that came later.
-/

namespace AsterFsd

/-! ## Who left -/

/-- The callsign that the event reports as gone. -/
def Event.removed? : Event → Option Callsign
  | .clientRemoved callsign _ _ => some callsign
  | _ => none

/-- The callsigns that the deliveries report as gone. -/
def removedCallsigns (deliveries : List Delivery) : List Callsign :=
  deliveries.filterMap (·.event.removed?)

/-- A delivery that reports a callsign as gone is an announcement. -/
theorem removedCallsigns_announcements (effects : Effects) :
    removedCallsigns effects.announcements = removedCallsigns effects.deliveries := by
  unfold removedCallsigns Effects.announcements
  rw [List.filterMap_filter]
  refine List.filterMap_congr fun delivery _ => ?_
  obtain ⟨recipients, event⟩ := delivery
  cases event <;> rfl

section Changes

variable {config : CoreConfig} {state : NetworkState} {w w' : World} {action : Action}

/-- A change reports a callsign as gone only when it removes the session that owns it. -/
theorem removedCallsigns_announced {change : Change} (consistent : state.Consistent config.maxClients) :
    removedCallsigns (change.announced state) = [] ∨
      ∃ i k, removedCallsigns (change.announced state) = [k] ∧ state.callsigns.lookup k = some i ∧
        (change.apply state).sessions.lookup i = none := by
  cases change with
  | activate c presence =>
      refine .inl ?_
      simp only [Change.announced]
      split <;> rfl
  | remove c =>
      cases found : state.sessions.lookup c with
      | none => exact .inl (by simp [Change.announced, found, removedCallsigns])
      | some session =>
          cases present : session.presence with
          | none => exact .inl (by simp [Change.announced, found, present, removedCallsigns])
          | some presence =>
              simp only [Change.announced, found, present, Option.bind_some]
              split
              · exact .inl rfl
              · have owned : state.callsigns.lookup presence.callsign = some c :=
                  (consistent.index _ c).mpr ⟨session, found, by simp [Session.callsign, present]⟩
                refine .inr ⟨c, presence.callsign, rfl, owned, ?_⟩
                rw [Change.apply, Change.removed_sessions, if_pos rfl]
  | keep | connect | identify | move | file => exact .inl rfl

theorem World.step_removedCallsigns (reach : (machine config).Reachable w)
    (step : w.step config action = some w') :
    removedCallsigns (w.committed config action).deliveries = [] ∨
      ∃ i k, removedCallsigns (w.committed config action).deliveries = [k] ∧
        w.state.callsigns.lookup k = some i ∧ w'.state.sessions.lookup i = none := by
  obtain ⟨change, made, -⟩ := World.step_makes step
  rw [← removedCallsigns_announcements, made.announced, made.apply_eq]
  exact removedCallsigns_announced (reachable_consistent reach)

/-- A disconnect releases the callsign of its own session and no other. -/
theorem Network.disconnect_callsigns (consistent : state.Consistent config.maxClients)
    {i j : ConnectionId} {k : Callsign} (reason : String) (other : j ≠ i)
    (owned : state.callsigns.lookup k = some j) :
    (disconnect state i reason).1.callsigns.lookup k = some j := by
  rw [disconnect, disconnectLocked_fst]
  cases found : state.sessions.lookup i with
  | none => simpa [Change.removed, found] using owned
  | some session =>
      cases present : session.presence with
      | none => simpa [Change.removed_of_absent found present] using owned
      | some presence =>
          have theirs : state.callsigns.lookup presence.callsign = some i :=
            (consistent.index _ i).mpr ⟨session, found, by simp [Session.callsign, present]⟩
          have apart : k ≠ presence.callsign := by
            rintro rfl
            exact other (Option.some.inj (owned.symm.trans theirs))
          rw [Change.removed_of_present found present]
          exact (AList.lookup_erase_ne apart).trans owned

end Changes

namespace Server

variable {setup : Setup} {s s' : Server} {action : Server.Action} {actions : List Server.Action}
  {id i j : ConnectionId}

/-! ## Who tends a connection -/

/-- The stages of a task that has registered its connection and not disconnected it yet. -/
def inNetwork : ConnectionStage → Bool
  | .accepted | .refusing _ | .leaving .. | .joining => false
  | _ => true

/-- The stages of a task that has stored its handle and not removed it yet. -/
def inRuntime : ConnectionStage → Bool
  | .reading | .executing .. | .dispatching .. | .removing => true
  | _ => false

/-- The connection has a task, and the task is at one of these stages. -/
def At (s : Server) (stages : ConnectionStage → Bool) (i : ConnectionId) : Prop :=
  ∃ task, s.tasks.lookup i = some task ∧ stages task.stage = true

/-- Every session and every handle has a task that will still take it away. -/
structure Tended (s : Server) : Prop where
  session : ∀ i ∈ s.world.state.sessions, s.At inNetwork i
  handle : ∀ i ∈ s.runtime.connections, s.At inRuntime i

theorem inNetwork_of_inRuntime {stage : ConnectionStage} (stored : inRuntime stage = true) :
    inNetwork stage = true := by
  cases stage <;> first | rfl | cases stored

theorem at_advance {stages : ConnectionStage → Bool} {task : ConnectionTask}
    {stage : ConnectionStage} (reached : stages stage = true) : (s.advance id task stage).At stages id :=
  ⟨{ task with stage }, (lookup_advance ..).trans (if_pos rfl), reached⟩

theorem At.of_ne {stages : ConnectionStage → Bool} (present : s.At stages i)
    (same : s'.tasks.lookup i = s.tasks.lookup i) : s'.At stages i := by
  obtain ⟨task, found, reached⟩ := present
  exact ⟨task, same.trans found, reached⟩

theorem At.advance_ne {stages : ConnectionStage → Bool} {task : ConnectionTask}
    {stage : ConnectionStage} (present : s.At stages i) (other : i ≠ id) :
    (s.advance id task stage).At stages i :=
  present.of_ne ((lookup_advance ..).trans (if_neg other))

/-- A task that moves on within the stages stays there. -/
theorem At.advance {stages : ConnectionStage → Bool} {task : ConnectionTask}
    {stage : ConnectionStage} (present : s.At stages i) (found : s.tasks.lookup id = some task)
    (moves : stages task.stage = true → stages stage = true) :
    (s.advance id task stage).At stages i := by
  by_cases here : i = id
  · subst here
    obtain ⟨task', found', reached⟩ := present
    obtain rfl := Option.some.inj (found.symm.trans found')
    exact at_advance (moves reached)
  · exact present.advance_ne here

/-- A task that ends was at none of the stages. -/
theorem At.finish {stages : ConnectionStage → Bool} {task : ConnectionTask}
    (present : s.At stages i) (found : s.tasks.lookup id = some task)
    (out : stages task.stage = false) : (s.finish id).At stages i := by
  have other : i ≠ id := by
    rintro rfl
    obtain ⟨task', found', reached⟩ := present
    obtain rfl := Option.some.inj (found.symm.trans found')
    rw [out] at reached
    cases reached
  exact present.of_ne ((lookup_finish ..).trans (if_neg other))

/-- A task whose session or handle is stored goes on after a section of its dispatch. -/
theorem At.afterSection {stages : ConnectionStage → Bool} {task : ConnectionTask}
    {dispatch : Dispatch} {runtime : Runtime} {rest : Option Dispatch} (present : s.At stages i)
    (found : s.tasks.lookup id = some task) (holds : task.dispatch? = some dispatch)
    (leaves : ∀ dispatch installed, stages (.leaving dispatch installed) = false)
    (serves : ∀ stage, inRuntime stage = true → stages stage = true) :
    (s.afterSection id task runtime rest).At stages i := by
  by_cases here : i = id
  · subst here
    obtain ⟨task', found', reached⟩ := present
    obtain rfl := Option.some.inj (found.symm.trans found')
    unfold At
    rw [lookup_afterSection, if_pos rfl]
    obtain ⟨listener, peer, challenge, stage⟩ := task
    cases stage with
    | dispatching frame context dispatch proceeds =>
        cases rest with
        | some rest => exact ⟨_, rfl, serves _ rfl⟩
        | none =>
            cases proceeds with
            | true => exact ⟨_, rfl, serves _ rfl⟩
            | false => exact ⟨_, rfl, serves _ rfl⟩
    | leaving dispatch installed =>
        rw [leaves] at reached
        cases reached
    | _ => cases holds
  · exact present.of_ne ((lookup_afterSection ..).trans (if_neg here))

/-- A step that adds no session, moves no handle and takes no task from its stages keeps everything
    tended. -/
theorem Tended.keep (tended : s.Tended)
    (sessions : ∀ i ∈ s'.world.state.sessions, i ∈ s.world.state.sessions)
    (connections : s'.runtime.connections = s.runtime.connections)
    (present : ∀ stages i, stages = inNetwork ∨ stages = inRuntime → s.At stages i → s'.At stages i) :
    s'.Tended where
  session i stored := present _ i (.inl rfl) (tended.session i (sessions i stored))
  handle i stored := present _ i (.inr rfl) (tended.handle i (connections ▸ stored))

/-- A refused registration adds no session; otherwise the task goes on to the handshake. -/
theorem Tended.register (tended : s.Tended) (step : s.step setup (.register id) = some s') :
    s'.Tended := by
  obtain ⟨task, found, step⟩ := Option.bind_eq_some_iff.mp step
  split at step
  · rename_i stage
    obtain ⟨world, moved, step⟩ := Option.bind_eq_some_iff.mp step
    obtain ⟨-, rfl⟩ := World.step_register.mp moved
    split at step
    · cases step
      have idle : inRuntime task.stage = true → inRuntime .handshaking = true := by simp [stage, inRuntime]
      refine ⟨fun i stored => ?_, fun i stored => (tended.handle i stored).advance found idle⟩
      by_cases here : i = id
      · subst here
        exact at_advance rfl
      · refine (tended.session i ?_).advance_ne here
        obtain kept | ⟨-, connected⟩ := Network.register_cases setup.core s.world.state id task.peer
          task.listener.protocol
        · simpa [kept] using stored
        · simpa [connected, Change.apply, here] using stored
    · rename_i refused
      cases step
      refine tended.keep (fun i stored => ?_) rfl fun stages i one present => ?_
      · rwa [advance_world, Network.register_error refused] at stored
      · refine present.advance found fun before => ?_
        rw [stage] at before
        obtain rfl | rfl := one <;> cases before
  · cases step

theorem Tended.step (tended : s.Tended) (step : s.step setup action = some s') : s'.Tended := by
  -- A task that moves on from one of the stages to another.
  have advanced : ∀ {s : Server} {id task stage}, s.tasks.lookup id = some task →
      inRuntime stage = true → ∀ stages i, stages = inNetwork ∨ stages = inRuntime →
        s.At stages i → (s.advance id task stage).At stages i := by
    intro s id task stage found serves stages i one present
    refine present.advance found fun _ => ?_
    rcases one with rfl | rfl
    · exact inNetwork_of_inRuntime serves
    · exact serves
  cases step_stepped step with
  | @accepted peer listener challenge fresh unregistered =>
      refine tended.keep (fun _ stored => stored) rfl fun stages i one present => present.of_ne ?_
      refine AList.lookup_insert_ne ?_
      rintro rfl
      obtain ⟨task, found, -⟩ := present
      exact fresh (KeyedMap.mem_of_lookup found)
  | registered found stage moved => exact tended.register step
  | refused found stage moved fails => exact tended.register step
  | @handshake id written task found stage =>
      have network : inNetwork (afterHandshake setup id task written) = true := by
        unfold afterHandshake
        split
        · rfl
        · split <;> rfl
      refine tended.keep (fun _ stored => stored) rfl fun stages i one present => present.advance found ?_
      rcases one with rfl | rfl
      · exact fun _ => network
      · simp [stage, inRuntime]
  | @installed id task found stage =>
      refine ⟨fun i stored => (tended.session i stored).advance found fun _ => rfl, fun i stored => ?_⟩
      by_cases here : i = id
      · subst here
        exact at_advance rfl
      · have before : i ∈ s.runtime.connections := by simpa [here] using stored
        exact (tended.handle i before).advance_ne here
  | decoded found stage decodes moved =>
      exact tended.keep (fun i => World.step_sessions moved rfl) rfl (advanced found rfl)
  | undecoded found stage fails => exact tended.keep (fun _ stored => stored) rfl (advanced found rfl)
  | locked found stage moved =>
      exact tended.keep (fun i => World.step_sessions moved rfl) rfl fun _ _ _ present => present
  | answered found stage moved =>
      exact tended.keep (fun i => World.step_sessions moved rfl) rfl fun _ _ _ present => present
  | executed found stage returns moved =>
      exact tended.keep (fun i => World.step_sessions moved rfl) rfl (advanced found rfl)
  | left found stage => exact tended.keep (fun _ stored => stored) rfl (advanced found rfl)
  | @removed id task found stage =>
      refine ⟨fun i stored => (tended.session i stored).advance found fun _ => rfl, fun i stored => ?_⟩
      obtain ⟨other, before⟩ : i ≠ id ∧ i ∈ s.runtime.connections := by simpa using stored
      exact (tended.handle i before).advance_ne other
  | @disconnected id task reason installed world found stage moved =>
      obtain rfl := World.step_disconnect.mp moved
      refine ⟨fun i stored => ?_, fun i stored => ?_⟩
      · obtain ⟨session, kept⟩ := KeyedMap.exists_lookup stored
        rw [advance_world, Network.disconnect, Network.disconnectLocked_fst,
          Change.removed_sessions] at kept
        split at kept
        · cases kept
        · rename_i other
          exact (tended.session i (KeyedMap.mem_of_lookup kept)).advance_ne other
      · exact (tended.handle i stored).advance found (by simp [stage, inRuntime])
  | turnedAway found stage | joined found stage =>
      refine tended.keep (fun _ stored => stored) rfl fun stages i one present => present.finish found ?_
      rw [stage]
      rcases one with rfl | rfl <;> rfl
  | broadcast idle moved =>
      exact tended.keep (fun i => World.step_sessions moved rfl) rfl fun _ _ _ present => present
  | maintained holds served =>
      exact tended.keep (fun _ stored => stored) served.connections fun _ _ _ present => present
  | @dispatched id task dispatch runtime rest found holds served =>
      refine tended.keep (fun i => by simp) ?_ fun stages i one present => ?_
      · rw [afterSection_connections, served.connections]
      · refine present.afterSection found holds ?_ ?_
        · rcases one with rfl | rfl <;> exact fun _ _ => rfl
        · rcases one with rfl | rfl
          · exact fun _ => inNetwork_of_inRuntime
          · exact fun _ serves => serves
  | _ => exact tended.keep (fun _ stored => stored) rfl fun _ _ _ present => present

theorem reachable_tended (reach : (server setup).Reachable s) : s.Tended := by
  refine reach.invariant Tended ⟨fun i stored => ?_, fun i stored => ?_⟩
    fun s action s' tended step => tended.step step
  · exact absurd stored (AList.notMem_empty i)
  · exact absurd stored (AList.notMem_empty i)

/-- A connection without a task has neither a session nor a handle. -/
theorem Tended.ended (tended : s.Tended) (ended : s.tasks.lookup i = none) :
    s.world.state.sessions.lookup i = none ∧ s.runtime.connections.lookup i = none := by
  have gone : ∀ stages, ¬ s.At stages i := by
    rintro stages ⟨task, found, -⟩
    cases ended.symm.trans found
  exact ⟨AList.lookup_eq_none.mpr fun stored => gone _ (tended.session i stored),
    AList.lookup_eq_none.mpr fun stored => gone _ (tended.handle i stored)⟩

/-! ## Departures -/

/-- The connections whose departure a step reports: for each callsign that it reports as gone, the
    connection that owned it before the step. -/
def departures (setup : Setup) (s : Server) (action : Server.Action) : List (Option ConnectionId) :=
  (removedCallsigns (s.effects setup action).deliveries).map s.world.state.callsigns.lookup

/-- A step reports at most one departure, of a connection whose session it removes. -/
theorem Stepped.departures (stepped : Stepped setup s action s')
    (reach : (server setup).Reachable s) :
    s.departures setup action = [] ∨
      ∃ i, s.departures setup action = [some i] ∧ i ∈ s.world.state.sessions ∧ s'.Gone i := by
  unfold Server.departures
  obtain ⟨-, quiet⟩ | ⟨moved, step, commits⟩ := stepped.effects
  · obtain none_ | ⟨context, error, refused⟩ := quiet
    · exact .inl (by rw [none_]; rfl)
    · exact .inl (by rw [refused]; rfl)
  · rw [commits]
    have core := reachable_world reach
    obtain none_ | ⟨i, k, reported, owned, gone⟩ := World.step_removedCallsigns core step
    · exact .inl (by rw [none_]; rfl)
    · obtain ⟨session, presence, active, -⟩ := (reachable_consistent core).active_of_lookup owned
      refine .inr ⟨i, by rw [reported, List.map_singleton, owned],
        KeyedMap.mem_of_lookup active.1, ?_, gone⟩
      exact World.step_registered step (reachable_registered core active.1)

/-- A run reports the departure of a connection at most once, and then the connection is gone. -/
theorem trace_departures (trace : (server setup).Trace actions s) (i : ConnectionId) :
    none ∉ (server setup).history (departures setup) (server setup).init actions ∧
      (some i ∉ (server setup).history (departures setup) (server setup).init actions ∨
        ((server setup).history (departures setup) (server setup).init actions).count (some i) = 1 ∧
          s.Gone i) := by
  refine trace.invariant (fun actions s =>
    none ∉ (server setup).history (departures setup) (server setup).init actions ∧
      (some i ∉ (server setup).history (departures setup) (server setup).init actions ∨
        ((server setup).history (departures setup) (server setup).init actions).count (some i) = 1 ∧
          s.Gone i)) ⟨List.not_mem_nil, .inl List.not_mem_nil⟩ ?_
  rintro actions s action s' trace ⟨owned, once⟩ step
  have stepped := step_stepped step
  rw [trace.history_snoc]
  obtain none_ | ⟨j, reported, present, gone⟩ := stepped.departures trace.reachable
  · rw [none_, List.append_nil]
    exact ⟨owned, once.imp_right fun told => ⟨told.1, stepped.gone told.2⟩⟩
  · rw [reported]
    refine ⟨by simpa using owned, ?_⟩
    by_cases here : j = i
    · subst here
      -- The session of `j` was still there, so its departure has not been reported before.
      have silent : some j ∉ (server setup).history (departures setup) (server setup).init actions := by
        refine once.resolve_right fun told => ?_
        exact AList.lookup_eq_none.mp told.2.2 present
      exact .inr ⟨by simp [List.count_eq_zero_of_not_mem silent], gone⟩
    · have elsewhere : some i ≠ some j := by simpa using Ne.symm here
      refine once.imp (fun silent => by simpa [elsewhere] using silent) fun told => ?_
      exact ⟨by simpa [List.count_singleton, here] using told.1, stepped.gone told.2⟩

/-! ## The cleanup -/

/-- What a run leaves of a connection. Once its task has ended there is no session, no handle and no
    callsign of it; its departure was reported at most once, and every reported departure was that of
    an owner; and when its task disconnects it, every other connection keeps its callsign. -/
structure CleanedUp (setup : Setup) (actions : List Server.Action) (s : Server) (id : ConnectionId) :
    Prop where
  ended : s.tasks.lookup id = none →
    s.world.state.sessions.lookup id = none ∧ s.runtime.connections.lookup id = none ∧
      ∀ k, s.world.state.callsigns.lookup k ≠ some id
  once : ((server setup).history (departures setup) (server setup).init actions).count (some id) ≤ 1
  owned : none ∉ (server setup).history (departures setup) (server setup).init actions
  spared : ∀ s', s.step setup (.disconnect id) = some s' → ∀ k j, j ≠ id →
    s.world.state.callsigns.lookup k = some j → s'.world.state.callsigns.lookup k = some j

/-- Every connection is cleaned up when its task ends, whichever way the task left and however the
    tasks interleaved. -/
theorem connection_cleanup (setup : Setup) (actions : List Server.Action) (s : Server)
    (trace : (server setup).Trace actions s) (id : ConnectionId) : CleanedUp setup actions s id := by
  have consistent := reachable_consistent (reachable_world trace.reachable)
  obtain ⟨owned, once⟩ := trace_departures trace id
  constructor
  · intro ended
    obtain ⟨removed, erased⟩ := (reachable_tended trace.reachable).ended ended
    refine ⟨removed, erased, fun k listed => ?_⟩
    obtain ⟨session, presence, active, -⟩ := consistent.active_of_lookup listed
    cases removed.symm.trans active.1
  · obtain silent | ⟨told, -⟩ := once
    · rw [List.count_eq_zero_of_not_mem silent]
      exact Nat.zero_le 1
    · exact told.le
  · exact owned
  · intro s' step k j other listed
    cases step_stepped step with
    | disconnected found stage moved =>
        obtain rfl := World.step_disconnect.mp moved
        exact Network.disconnect_callsigns consistent _ other listed

end Server

namespace Sample

/-- The second pilot logged off and their callsign belongs to a third connection by now. Their own
    task ends, and its writer fails on the first frame. -/
def returning : List Server.Action :=
  relogin ++ [.leave ⟨2⟩, .remove ⟨2⟩, .disconnect ⟨2⟩, .dispatch (.connection ⟨2⟩), .receive ⟨2⟩,
    .send ⟨2⟩ false, .join ⟨2⟩]

end Sample

namespace Server

set_option maxRecDepth 8000 in
/-- The logoff was the one departure of the second connection. -/
theorem connection_cleanup_returning :
    ∃ s, (server (Sample.setup 8)).Trace Sample.returning s ∧
      s.world.state.sessions.lookup ⟨2⟩ = none ∧ s.runtime.connections.lookup ⟨2⟩ = none ∧
      s.world.state.callsigns.lookup Sample.otherCallsign = some ⟨3⟩ ∧
      CleanedUp (Sample.setup 8) Sample.returning s ⟨2⟩ := by
  have checked : ((server (Sample.setup 8)).run {} Sample.returning).any (fun s =>
      (s.tasks.lookup ⟨2⟩).isNone &&
        decide (s.world.state.callsigns.lookup Sample.otherCallsign = some ⟨3⟩)) = true := by
    decide +kernel
  obtain ⟨s, trace, ends⟩ := (Option.any_eq_true _ _).mp checked
  obtain ⟨ended, listed⟩ := Bool.and_eq_true_iff.mp ends
  have cleaned := connection_cleanup (Sample.setup 8) Sample.returning s trace ⟨2⟩
  obtain ⟨removed, erased, -⟩ := cleaned.ended (Option.isNone_iff_eq_none.mp ended)
  exact ⟨s, trace, removed, erased, of_decide_eq_true listed, cleaned⟩

end Server

end AsterFsd
