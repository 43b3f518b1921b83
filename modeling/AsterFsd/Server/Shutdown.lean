import AsterFsd.Server.Outcomes

/-! # The shutdown

Once a server is told to stop, `serve` returns in whatever order its tasks go on, as long as nothing
fails and nothing is waited for for ever: every task leaves, every loop joins its connections, and
`serve` joins them all. A connection whose write does not end, or whose question is not answered, keeps
`serve` from returning, but no other connection from being cleared.
-/

namespace AsterFsd

namespace Supervision

variable {setup : Setup} {s s' : Supervision} {action : Action} {i : ListenerId}
  {listeners : List RuntimeListenerConfig} {actions : List Action}

/-! ## The way to the end -/

/-- A writer is left with the same senders when no task is lost. -/
theorem hasSender_eq (complete : s.lost = [])
    (runs : s.maintenance = none ∨ s.server.maintenance = none) (id : ConnectionId) :
    s.hasSender id = s.server.hasSender id := by
  have tasks : (s.server.tasks.entries.any fun entry =>
      decide (entry.1 ∉ s.lost) && entry.2.dispatch?.any (Server.holdsSender id)) =
      s.server.tasks.values.any fun task => task.dispatch?.any (Server.holdsSender id) := by
    simp [complete, KeyedMap.values, List.any_map, Function.comp_def]
  unfold hasSender Server.hasSender
  rw [tasks]
  obtain runs | idle := runs
  · rw [runs]
    rfl
  · rw [idle]
    simp

/-- Without a lost task and with a sound maintenance task, the server is one that supervision never
    touched. -/
theorem reachable_server (reach : (supervised setup listeners).Reachable s) (complete : s.lost = [])
    (sound : ∀ error, s.maintenance ≠ some (.error error)) :
    (AsterFsd.server setup).Reachable s.server := by
  obtain ⟨actions, trace⟩ := reach
  refine trace.invariant (fun _ s => s.lost = [] → (∀ error, s.maintenance ≠ some (.error error)) →
    (AsterFsd.server setup).Reachable s.server) ?_ ?_ complete sound
  · have start : (AsterFsd.server setup).Trace [] {} := rfl
    exact fun _ _ => start.reachable
  intro actions s action s' trace before step complete sound
  have moves : ∀ moved {server}, s.lost = [] → (∀ error, s.maintenance ≠ some (.error error)) →
      s.server.step setup moved = some server → (AsterFsd.server setup).Reachable server :=
    fun _ _ complete sound moved => (before complete sound).step moved
  cases step_happens step with
  | accepted found stage moved => exact moves _ complete sound moved
  | worked permitted moved => exact moves _ complete sound moved
  | ticked runs moved => exact moves _ complete sound moved
  | @abandoned id writer mailbox stored found waits empty alone =>
      have runs : s.maintenance = none ∨ s.server.maintenance = none := by
        cases ended : s.maintenance with
        | none => exact .inl rfl
        | some outcome =>
            cases outcome with
            | ok => exact .inr ((trace_accounted trace).idle ended)
            | error error => exact absurd ended (sound error)
      have none_ : s.server.hasSender id = false := (hasSender_eq complete runs id).symm.trans alone
      refine moves (.receive id) complete sound ?_
      simp [Server.step, Server.receiveStep, stored, found, waits, empty, none_]
  | panicked | dropped => cases complete
  | maintenanceStopped runs => exact before complete (by simp [runs])
  | maintenancePanicked => exact absurd rfl (sound _)
  | _ => exact before complete sound

/-- The actions left to a server to which nothing comes in and in which nothing fails. -/
def own : Action → Bool
  | .work action => !Server.brings action
  | .reap .. | .stop _ | .drained _ | .abandon _ | .stopMaintenance | .notice | .joinListener _
  | .noListener | .awaitMaintenance => true
  | _ => false

/-- The world outside completes the action: a write ends, or a question is answered. -/
def completes : Action → Bool
  | .work action => Server.completes action
  | _ => false

/-- What a loop has before it until `serve` has taken its outcome. -/
def loopRank (loop : AcceptLoop) : Nat :=
  1 + loop.connections.length + match loop.stage with
    | .accepting => 2
    | .draining => 1
    | .ended _ => 0

def serveRank : ServeStage → Nat
  | .watching => 3
  | .joining => 2
  | .awaiting => 1
  | .returned _ => 0

def supervision (s : Supervision) : Nat :=
  s.listeners.weigh loopRank + serveRank s.stage + s.maintenance.elim 1 fun _ => 0

/-- What is left to do, first of the server and then of its supervision. -/
def leftover (s : Supervision) : (Nat × Nat × Nat × Nat) × Nat := (s.server.leftover, s.supervision)

def Less : (Nat × Nat × Nat × Nat) × Nat → (Nat × Nat × Nat × Nat) × Nat → Prop :=
  Prod.Lex Server.Less (· < ·)

theorem less_wellFounded : WellFounded Less :=
  (Prod.lex ⟨_, Server.less_wellFounded⟩ Nat.lt_wfRel).wf

/-- A step of supervision that leaves the server alone. -/
theorem Less.supervision (same : s'.server = s.server) (fewer : s'.supervision < s.supervision) :
    Less s'.leftover s.leftover := by
  rw [leftover, leftover, same]
  exact .right _ fewer

theorem supervision_advance {loop next : AcceptLoop} (found : s.listeners.lookup i = some loop)
    (fewer : loopRank next < loopRank loop) : (s.advance i next).supervision < s.supervision := by
  have replaced := KeyedMap.weigh_replace (f := loopRank) found next
  simp only [supervision, Supervision.advance]
  omega

theorem supervision_erase {loop : AcceptLoop} (found : s.listeners.lookup i = some loop)
    {stage : ServeStage} (later : serveRank stage ≤ serveRank s.stage) (cancelled : Bool) :
    ({ s with listeners := s.listeners.erase i, cancelled, stage } : Supervision).supervision <
      s.supervision := by
  have erased := KeyedMap.weigh_erase (f := loopRank) found
  have some_ : 0 < loopRank loop := by
    unfold loopRank
    omega
  simp only [supervision]
  omega

/-- Every step of one's own uses something up. -/
theorem Happens.less (happens : Happens setup s action s') (ours : own action = true) :
    Less s'.leftover s.leftover := by
  cases happens with
  | cancelled | accepted | acceptFailed | loopPanicked | loopDropped | panicked | dropped | ticked
  | maintenancePanicked => cases ours
  | @reaped i id loop found stage listed =>
      refine .supervision rfl (supervision_advance found ?_)
      have erased := List.length_erase_of_mem listed
      have some_ := List.length_pos_of_mem listed
      simp only [loopRank, erased]
      omega
  | stopped found stage =>
      refine .supervision rfl (supervision_advance found ?_)
      simp [loopRank, stage]
  | drained found stage =>
      refine .supervision rfl (supervision_advance found ?_)
      simp [loopRank, stage]
  | worked permitted moved =>
      exact .left _ _ ((Server.step_stepped moved).less (by simpa [own] using ours))
  | abandoned stored found waits => exact .left _ _ (.finishWriter stored waits)
  | maintenanceStopped runs =>
      refine .supervision rfl ?_
      simp [supervision, runs]
  | noticed stage | none_ empty stage | all empty stage | awaited ended stage =>
      refine .supervision rfl ?_
      simp [supervision, stage, serveRank]
  | joined found stage listens =>
      refine .supervision rfl (supervision_erase found ?_ _)
      cases waits : s.stage with
      | watching | joining => simp [serveRank]
      | awaiting | returned => simp [waits, ServeStage.listens?] at listens
  | failed found => exact .supervision rfl (supervision_erase found (Nat.zero_le _) _)

/-! ## The end -/

/-- Where nothing has failed, the maintenance task has ended well if it has ended. -/
theorem Accounted.maintenance_ok (accounted : Accounted [] s) {outcome : Except JoinError Unit}
    (ended : s.maintenance = some outcome) : outcome = .ok () := by
  cases outcome with
  | ok => rfl
  | error error =>
      obtain ⟨past, -⟩ | ⟨failure, member, -⟩ := accounted.maintenance _ ended
      · cases past
      · cases member

section Settled

variable (settled : (supervised setup listeners).Settled
  (fun action => own action = true ∧ completes action = false) s)

include settled in
theorem settled_absurd (action : Action) (enabled : (s.step setup action).isSome = true)
    (ours : own action = true) (free : completes action = false) : False := by
  obtain ⟨next, step⟩ := Option.isSome_iff_exists.mp enabled
  cases step.symm.trans (settled action ⟨ours, free⟩)

include settled in
/-- Nothing is left to do for the server. -/
theorem settled_server (complete : s.lost = [])
    (idle : s.maintenance ≠ none → s.server.maintenance = none) :
    (AsterFsd.server setup).Settled
      (fun action => Server.brings action = false ∧ Server.completes action = false) s.server := by
  rintro action ⟨quiet, free⟩
  by_contra enabled
  obtain ⟨server, moved⟩ := Option.ne_none_iff_exists'.mp enabled
  have step : s.server.step setup action = some server := moved
  by_cases permitted : s.permits action = true
  · refine settled_absurd settled (.work action) ?_ (by simp [own, quiet]) free
    simp [Supervision.step, permitted, step]
  · -- the maintenance task has ended, and it had nothing left to dispatch
    cases action with
    | accept | windDelta => cases quiet
    | dispatch task =>
        cases task with
        | connection id => simp [permits, complete] at permitted
        | maintenance =>
            have ended : s.maintenance ≠ none := by simpa [permits] using permitted
            simp [Server.step, Server.dispatchStep, idle ended] at step
    | _ => simp [permits, complete] at permitted

include settled in
/-- In a server in which nothing has failed, nothing is left of a connection that does not wait. -/
theorem settled_cleared (reach : (supervised setup listeners).Reachable s)
    (accounted : Accounted [] s) (complete : s.lost = []) :
    (∀ id, ¬ s.server.Waits id → s.server.Cleared id) ∧
      ((∀ id, ¬ s.server.Waits id) → s.server.Drained) := by
  refine Server.settled_drained (settled_server settled complete fun ended => ?_)
    (reachable_server reach complete fun error ended => ?_)
  · obtain ⟨outcome, ended⟩ := Option.ne_none_iff_exists'.mp ended
    exact accounted.idle (accounted.maintenance_ok ended ▸ ended)
  · cases accounted.maintenance_ok ended

include settled in
/-- A server that was told to stop and that has drained settles when `serve` has returned. -/
theorem settled_returned (accounted : Accounted [] s) (told : s.cancelled = true)
    (drained : s.server.Drained) : s.stage = .returned (.ok ()) := by
  -- a loop could go on, or `serve` could take its outcome
  have loops : ∀ i loop, s.listeners.lookup i = some loop → s.stage.listens? = none ∧
      loop.stage.goes = false := by
    intro i loop found
    have gone : ∀ id, id ∉ s.server.tasks := fun id => AList.lookup_eq_none.mp (drained.tasks id)
    cases stage : loop.stage with
    | accepting =>
        exact (settled_absurd settled (.stop i) (by simp [Supervision.step, found, stage, told])
          rfl rfl).elim
    | draining =>
        cases connections : loop.connections with
        | nil =>
            exact (settled_absurd settled (.drained i)
              (by simp [Supervision.step, found, stage, connections]) rfl rfl).elim
        | cons id rest =>
            exact (settled_absurd settled (.reap i id)
              (by simp [Supervision.step, found, stage, connections, gone]) rfl rfl).elim
    | ended outcome =>
        refine ⟨?_, rfl⟩
        cases listens : s.stage with
        | awaiting | returned => rfl
        | watching | joining =>
            have enabled : (s.step setup (.joinListener i)).isSome = true := by
              simp only [Supervision.step, joinStep, found, stage, listens, Option.bind_eq_bind,
                Option.bind_some]
              split <;> rfl
            exact (settled_absurd settled (.joinListener i) enabled rfl rfl).elim
  have listening : s.stage.listens? ≠ none → s.listeners.size = 0 := by
    intro waits
    rw [KeyedMap.size_eq_keys, List.length_eq_zero_iff, List.eq_nil_iff_forall_not_mem]
    intro i listed
    obtain ⟨loop, found⟩ := KeyedMap.exists_lookup listed
    exact waits (loops i loop found).1
  cases stage : s.stage with
  | watching =>
      have empty := listening (by simp [stage, ServeStage.listens?])
      exact (settled_absurd settled .noListener (by simp [Supervision.step, empty, stage]) rfl rfl).elim
  | joining =>
      have empty := listening (by simp [stage, ServeStage.listens?])
      exact (settled_absurd settled .noListener (by simp [Supervision.step, empty, stage]) rfl rfl).elim
  | awaiting =>
      cases ended : s.maintenance with
      | none =>
          exact (settled_absurd settled .stopMaintenance
            (by simp [Supervision.step, ended, told, drained.maintenance]) rfl rfl).elim
      | some outcome =>
          obtain rfl := accounted.maintenance_ok ended
          exact (settled_absurd settled .awaitMaintenance
            (by simp [Supervision.step, awaitStep, ended, stage]) rfl rfl).elim
  | returned result =>
      rw [(accounted.returned stage).mpr rfl]

end Settled

/-- One's own actions neither fail nor take the shutdown back. -/
theorem own_quiet {actions : List Action} (ours : ∀ action ∈ actions, own action = true)
    (ran : (supervised setup listeners).run s actions = some s') (told : s.cancelled = true) :
    s'.cancelled = true ∧ (supervised setup listeners).history failures s actions = [] := by
  induction actions generalizing s with
  | nil =>
      cases ran
      exact ⟨told, rfl⟩
  | cons action actions ih =>
      obtain ⟨next, step, ran⟩ := Machine.run_cons.mp ran
      have mine := ours action List.mem_cons_self
      have quiet : s.failures action = [] := by
        cases action <;> first | rfl | cases mine
      have stays : next.cancelled = true := by
        cases step_happens step with
        | cancelled | acceptFailed | loopPanicked => cases mine
        | joined => simp [told]
        | none_ => rfl
        | _ => exact told
      obtain ⟨told', none_⟩ := ih (fun action later => ours action (List.mem_cons_of_mem _ later)) ran
        stays
      refine ⟨told', ?_⟩
      simp only [Machine.history, step, quiet, none_, List.nil_append]

/-- Whatever a connection waits for can happen. -/
theorem waits_completes (reach : (supervised setup listeners).Reachable s) (accounted : Accounted [] s)
    (complete : s.lost = []) {id : ConnectionId} (waits : s.server.Waits id) :
    ∃ action, own action = true ∧ completes action = true ∧ (s.step setup action).isSome = true := by
  have sound : ∀ error, s.maintenance ≠ some (.error error) := by
    intro error ended
    cases accounted.maintenance_ok ended
  obtain ⟨action, outside, enabled⟩ := waits.completes setup
    (Server.reachable_manned (reachable_server reach complete sound))
  obtain ⟨server, moved⟩ := Option.isSome_iff_exists.mp enabled
  refine ⟨.work action, ?_, outside, ?_⟩
  · cases action <;> first | rfl | cases outside
  · have permitted : s.permits action = true := by
      cases action with
      | refuse | handshake | answered => simp [permits, complete]
      | send => rfl
      | _ => cases outside
    simp [Supervision.step, permitted, moved]

/-- No task is lost as long as none panics and no listener fails. -/
theorem lost_of_calm (trace : (supervised setup listeners).Trace actions s)
    (calm : ∀ id, .panic id ∉ actions)
    (well : (supervised setup listeners).history failures (supervised setup listeners).init actions =
      []) : s.lost = [] := by
  refine List.eq_nil_iff_forall_not_mem.mpr fun id lost => ?_
  obtain panicked | failed := trace_lost trace id lost
  · exact calm id panicked
  · exact failed well

/-- Once a server is told to stop, `serve` returns, as long as no task panics, no listener fails, every
    write ends and every question is answered: its own actions, the ends of writes and the answers cannot
    go on for ever, in whatever order they happen and however they come out; there is a way to go on until
    it has returned that all is well; and when no action of its own is possible any more, nothing is left
    of a connection that does not wait for the end of a write or for an answer, and if none does, `serve`
    has returned so and nothing is left of any connection. -/
theorem shutdown_completes (setup : Setup) (listeners : List RuntimeListenerConfig)
    (actions : List Action) (s : Supervision) (trace : (supervised setup listeners).Trace actions s)
    (told : s.cancelled = true) (calm : ∀ id, .panic id ∉ actions)
    (well : (supervised setup listeners).history failures (supervised setup listeners).init actions =
      []) :
    (∀ states : Nat → Supervision, states 0 = s → ¬ ∀ n, ∃ action, own action = true ∧
      (states n).step setup action = some (states (n + 1))) ∧
    (∃ actions' s', (∀ action ∈ actions', own action = true) ∧
      (supervised setup listeners).run s actions' = some s' ∧
      s'.stage = .returned (.ok ()) ∧ s'.server.Drained) ∧
    ((∀ action, own action = true → completes action = false → s.step setup action = none) →
      (∀ id, s.server.Waits id → ∃ action, own action = true ∧ completes action = true ∧
        (s.step setup action).isSome = true) ∧
      (∀ id, ¬ s.server.Waits id → s.server.Cleared id) ∧
      ((∀ id, ¬ s.server.Waits id) → s.stage = .returned (.ok ()) ∧ s.server.Drained)) := by
  have decreases : ∀ (s : Supervision) (action : Action) (s' : Supervision), own action = true →
      (supervised setup listeners).step s action = some s' → Less s'.leftover s.leftover :=
    fun s action s' ours step => (step_happens step).less ours
  have ends : ∀ {actions s}, (supervised setup listeners).Trace actions s → s.cancelled = true →
      (∀ id, .panic id ∉ actions) → (supervised setup listeners).history failures
        (supervised setup listeners).init actions = [] →
      (supervised setup listeners).Settled (fun action => own action = true ∧ completes action = false)
        s →
      (∀ id, s.server.Waits id → ∃ action, own action = true ∧ completes action = true ∧
        (s.step setup action).isSome = true) ∧
      (∀ id, ¬ s.server.Waits id → s.server.Cleared id) ∧
      ((∀ id, ¬ s.server.Waits id) → s.stage = .returned (.ok ()) ∧ s.server.Drained) := by
    intro actions s trace told calm well settled
    have accounted := trace_accounted trace
    rw [well] at accounted
    have complete := lost_of_calm trace calm well
    obtain ⟨cleared, drains⟩ := settled_cleared settled trace.reachable accounted complete
    refine ⟨fun id waits => waits_completes trace.reachable accounted complete waits, cleared, ?_⟩
    exact fun free => ⟨settled_returned settled accounted told (drains free), drains free⟩
  refine ⟨fun states _ => Machine.no_endless less_wellFounded decreases states, ?_,
    fun settled => ends trace told calm well fun action ours => settled action ours.1 ours.2⟩
  obtain ⟨actions', s', ours, ran, settled⟩ := Machine.exists_settled less_wellFounded decreases s
  -- one's own actions neither fail nor take the shutdown back
  have kept : s'.cancelled = true ∧ (supervised setup listeners).history failures s actions' = [] :=
    own_quiet ours ran told
  have calm' : ∀ id, .panic id ∉ actions ++ actions' := by
    intro id member
    obtain before | after := List.mem_append.mp member
    · exact calm id before
    · cases ours _ after
  have well' : (supervised setup listeners).history failures (supervised setup listeners).init
      (actions ++ actions') = [] := by
    rw [(supervised setup listeners).history_append trace, well, kept.2]
    rfl
  obtain ⟨comes, -, returns⟩ := ends (trace.append ran) kept.1 calm' well'
    fun action ours => settled action ours.1
  refine ⟨actions', s', ours, ran, returns fun id waits => ?_⟩
  obtain ⟨action, mine, -, enabled⟩ := comes id waits
  obtain ⟨next, step⟩ := Option.isSome_iff_exists.mp enabled
  cases step.symm.trans (settled action mine)

set_option maxRecDepth 8000 in
/-- A client is connected when the server is told to stop. -/
theorem shutdown_completes_connected : ∃ s,
    (supervised (Sample.setup 8) [Sample.classicListener]).Trace
      (Sample.supervisedClient ++ [.cancel]) s ∧ s.server.world.state.sessions.size = 1 ∧
      ∃ actions' s', (∀ action ∈ actions', own action = true) ∧
        (supervised (Sample.setup 8) [Sample.classicListener]).run s actions' = some s' ∧
        s'.stage = .returned (.ok ()) ∧ s'.server.Drained := by
  have checked : ((supervised (Sample.setup 8) [Sample.classicListener]).run
      (supervised (Sample.setup 8) [Sample.classicListener]).init
        (Sample.supervisedClient ++ [.cancel])).any
        (fun s => s.cancelled && decide (s.server.world.state.sessions.size = 1)) = true := by
    decide +kernel
  obtain ⟨s, trace, ends⟩ := (Option.any_eq_true _ _).mp checked
  obtain ⟨told, present⟩ := Bool.and_eq_true_iff.mp ends
  refine ⟨s, trace, of_decide_eq_true present,
    (shutdown_completes _ _ _ s trace told (by simp [Sample.supervisedClient]) ?_).2.1⟩
  decide +kernel

end Supervision

end AsterFsd
