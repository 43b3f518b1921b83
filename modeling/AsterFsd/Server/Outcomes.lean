import AsterFsd.Server.Rest
import AsterFsd.Server.Supervision

/-! # What `serve` returns

A bound server goes on serving until it is told to stop or one of its listeners fails, whatever becomes
of the other tasks. When it returns that all is well, no supervised task has failed and nothing is left
of any connection whose task did not panic.
-/

namespace AsterFsd

namespace Server

variable {setup : Setup} {s s' : Server} {action : Server.Action} {id : ConnectionId}

/-! ## What does not depend on which tasks are lost -/

/-- Only an accepted connection adds a task. -/
theorem Stepped.tasks_old (stepped : Stepped setup s action s') (stored : id ∈ s'.tasks) :
    id ∈ s.tasks ∨
      (∃ peer listener challenge, action = .accept peer listener challenge) ∧
        id = ⟨s.nextConnectionId⟩ := by
  have moved : ∀ {before : Server} {i task stage}, before.tasks = s.tasks →
      s.tasks.lookup i = some task → id ∈ (before.advance i task stage).tasks → id ∈ s.tasks := by
    intro before i task stage same found stored
    obtain here | there := (AList.mem_insert _).mp stored
    · exact here ▸ KeyedMap.mem_of_lookup found
    · exact same ▸ there
  have ended : ∀ {before : Server} {i}, before.tasks = s.tasks →
      id ∈ (before.finish i).tasks → id ∈ s.tasks :=
    fun same stored => same ▸ (AList.mem_erase.mp stored).2
  cases stepped with
  | accepted =>
      obtain here | there := (AList.mem_insert _).mp stored
      · exact .inr ⟨⟨_, _, _, rfl⟩, here⟩
      · exact .inl there
  | registered found | refused found | handshake found | installed found | decoded found | undecoded found
  | executed found | left found | removed found | disconnected found =>
      exact .inl (moved rfl found stored)
  | turnedAway | joined => exact .inl (ended rfl stored)
  | dispatched found =>
      obtain ⟨task', found'⟩ := KeyedMap.exists_lookup stored
      rw [lookup_afterSection] at found'
      split at found'
      · rename_i here
        exact .inl (here ▸ KeyedMap.mem_of_lookup found)
      · exact .inl (KeyedMap.mem_of_lookup found')
  | _ => exact .inl stored

/-- The maintenance task alone starts and serves the dispatch of maintenance. -/
theorem Stepped.maintenance_same (stepped : Stepped setup s action s')
    (others : action ≠ .dispatch .maintenance)
    (quiet : ∀ speed direction, action ≠ .windDelta speed direction) :
    s'.maintenance = s.maintenance := by
  cases stepped with
  | maintained => exact absurd rfl others
  | broadcast => exact absurd rfl (quiet _ _)
  | dispatched => exact afterSection_maintenance ..
  | _ => rfl

/-- What holds of a server even when some of its tasks do not go on. -/
structure Held (setup : Setup) (s : Server) : Prop where
  world : (machine setup.core).Reachable s.world
  owned : s.CallsOwned
  attended : s.Attended
  tended : s.Tended
  manned : s.Manned

theorem Held.empty (setup : Setup) : Held setup {} := by
  have reach : (server setup).Reachable {} := ⟨[], rfl⟩
  exact ⟨reachable_world reach, reachable_owned reach, reachable_attended reach,
    reachable_tended reach, reachable_manned reach⟩

theorem Held.step (held : Held setup s) (step : s.step setup action = some s') : Held setup s' where
  world := by
    obtain same | ⟨moved, step⟩ := (step_stepped step).world
    · exact same ▸ held.world
    · exact held.world.step step
  owned := (step_stepped step).owned held.owned
  attended := (step_stepped step).attended held.owned held.attended
  tended := held.tended.step step
  manned := (step_stepped step).manned held.manned

/-- A writer may also end because its senders are lost. -/
theorem Held.finishWriter {writer : Writer} (held : Held setup s)
    (stored : s.writers.lookup id = some writer) (waits : writer.stage = .receiving) :
    Held setup (s.finishWriter id writer) where
  world := held.world
  owned := held.owned
  attended := ⟨held.attended.call, held.attended.task⟩
  tended := ⟨held.tended.session, held.tended.handle⟩
  manned := held.manned.finishWriter stored rfl rfl (fun _ kept => kept) (by simp [waits])

/-- Nothing is left of a connection: no task, no call, no session and callsign, no handle, and its writer
    has ended. -/
structure Quit (s : Server) (id : ConnectionId) : Prop where
  task : s.tasks.lookup id = none
  calls : ∀ call record, s.world.calls.lookup call = some record → record.connectionId ≠ id
  session : s.world.state.sessions.lookup id = none
  callsigns : ∀ callsign, s.world.state.callsigns.lookup callsign ≠ some id
  handle : s.runtime.connections.lookup id = none
  writer : ∀ writer, s.writers.lookup id = some writer → writer.stage = .finished

theorem Held.quit (held : Held setup s) (ended : s.tasks.lookup id = none) : s.Quit id := by
  obtain ⟨removed, erased⟩ := held.tended.ended ended
  refine ⟨ended, fun call record known here => ?_, removed, fun callsign listed => ?_, erased,
    fun writer stored => ?_⟩
  · obtain ⟨task, frame, context, found, -⟩ := callOf_some.mp (held.attended.task known)
    rw [here] at found
    cases ended.symm.trans found
  · obtain ⟨session, presence, active, -⟩ :=
      (reachable_consistent held.world).active_of_lookup listed
    cases removed.symm.trans active.1
  · by_contra going
    obtain ⟨task, found, -⟩ := held.manned.task stored going
    cases ended.symm.trans found

end Server

namespace Supervision

variable {setup : Setup} {s s' : Supervision} {action : Action} {i j : ListenerId} {id : ConnectionId}

/-! ## Whose task it is -/

@[simp] theorem lookup_advance (s : Supervision) (i j : ListenerId) (loop : AcceptLoop) :
    (s.advance i loop).listeners.lookup j = if j = i then some loop else s.listeners.lookup j := by
  unfold advance
  split
  · rename_i here
    subst here
    exact AList.lookup_insert _
  · exact AList.lookup_insert_ne ‹_›

theorem lookup_advance_self (s : Supervision) (i : ListenerId) (loop : AcceptLoop) :
    (s.advance i loop).listeners.lookup i = some loop := AList.lookup_insert _

theorem lookup_dropped (listeners : KeyedMap ListenerId AcceptLoop) (i j : ListenerId) :
    (listeners.erase i).lookup j = if j = i then none else listeners.lookup j := by
  split
  · rename_i here
    subst here
    exact AList.lookup_erase _ _
  · exact AList.lookup_erase_ne ‹_›

/-- A loop that stays in the set was there before. -/
theorem lookup_stays {listeners : KeyedMap ListenerId AcceptLoop} {loop : AcceptLoop}
    (found : (listeners.erase i).lookup j = some loop) : listeners.lookup j = some loop := by
  rw [lookup_dropped] at found
  split at found
  · cases found
  · exact found

/-- Every connection task is in the set of a loop, or it is aborted or lost; a loop that has ended has
    no set. -/
structure Guarded (setup : Setup) (s : Supervision) : Prop where
  held : Server.Held setup s.server
  guarded : ∀ id ∈ s.server.tasks, id ∈ s.lost ∨ id ∈ s.orphans ∨
    ∃ i loop, s.listeners.lookup i = some loop ∧ id ∈ loop.connections
  ended : ∀ i loop, s.listeners.lookup i = some loop → loop.stage.goes = false →
    loop.connections = []

/-- A step of the server that accepts nobody. -/
theorem Guarded.work {server : Server} {moved : Server.Action} (guarded : s.Guarded setup)
    (step : s.server.step setup moved = some server)
    (quiet : ∀ peer listener challenge, moved ≠ .accept peer listener challenge) :
    ({ s with server } : Supervision).Guarded setup where
  held := guarded.held.step step
  guarded id stored := by
    obtain old | ⟨⟨peer, listener, challenge, accepts⟩, -⟩ := (Server.step_stepped step).tasks_old stored
    · exact guarded.guarded id old
    · exact absurd accepts (quiet peer listener challenge)
  ended := guarded.ended

/-- A loop that changes keeps the tasks of its set, or gives them away. -/
theorem Guarded.advance {loop : AcceptLoop} (next : AcceptLoop) (guarded : s.Guarded setup)
    (found : s.listeners.lookup i = some loop) (orphans : List ConnectionId)
    (kept : ∀ id ∈ loop.connections, id ∈ s.server.tasks →
      id ∈ next.connections ∨ id ∈ orphans ∨ id ∈ s.lost)
    (more : ∀ id ∈ s.orphans, id ∈ orphans)
    (ended : next.stage.goes = false → next.connections = []) :
    ({ s with orphans }.advance i next).Guarded setup where
  held := guarded.held
  guarded id stored := by
    obtain lost | aborted | ⟨j, other, found', listed⟩ := guarded.guarded id stored
    · exact .inl lost
    · exact .inr (.inl (more id aborted))
    · by_cases here : j = i
      · subst here
        obtain rfl := Option.some.inj (found.symm.trans found')
        obtain stays | given | lost := kept id listed stored
        · exact .inr (.inr ⟨j, next, lookup_advance_self .., stays⟩)
        · exact .inr (.inl given)
        · exact .inl lost
      · exact .inr (.inr ⟨j, other, by simpa [here] using found', listed⟩)
  ended j other found' out := by
    rw [lookup_advance] at found'
    split at found'
    · cases found'
      exact ended out
    · exact guarded.ended j other found' out

/-- A loop that leaves the set of `serve` takes no task along that is not aborted. -/
theorem Guarded.leave {loop : AcceptLoop} (guarded : s.Guarded setup)
    (found : s.listeners.lookup i = some loop) (orphans : List ConnectionId)
    (given : ∀ id ∈ loop.connections, id ∈ orphans) (more : ∀ id ∈ s.orphans, id ∈ orphans)
    (cancelled : Bool) (stage : ServeStage) :
    ({ s with listeners := s.listeners.erase i, orphans, cancelled, stage } : Supervision).Guarded
      setup where
  held := guarded.held
  guarded id stored := by
    obtain lost | aborted | ⟨j, other, found', listed⟩ := guarded.guarded id stored
    · exact .inl lost
    · exact .inr (.inl (more id aborted))
    · by_cases here : j = i
      · subst here
        obtain rfl := Option.some.inj (found.symm.trans found')
        exact .inr (.inl (given id listed))
      · exact .inr (.inr ⟨j, other, by simpa [lookup_dropped, here] using found', listed⟩)
  ended j other found' := guarded.ended j other (lookup_stays found')

theorem Happens.guarded (happens : Happens setup s action s') (guarded : s.Guarded setup) :
    s'.Guarded setup := by
  -- an ended loop has no tasks to take along
  have leaves : ∀ {i loop outcome}, s.listeners.lookup i = some loop → loop.stage = .ended outcome →
      ∀ id ∈ loop.connections, id ∈ s.orphans := by
    intro i loop outcome found stage id listed
    rw [guarded.ended i loop found (by rw [stage]; rfl)] at listed
    cases listed
  cases happens with
  | cancelled => exact ⟨guarded.held, guarded.guarded, guarded.ended⟩
  | @accepted i peer challenge loop server found stage moved =>
      have held := guarded.held.step moved
      constructor
      · exact held
      · intro id stored
        have known : id ∈ s.server.tasks ∨ id = ⟨s.server.nextConnectionId⟩ :=
          ((Server.step_stepped moved).tasks_old stored).imp_right (·.2)
        by_cases here : id = ⟨s.server.nextConnectionId⟩
        · exact .inr (.inr ⟨i, _, lookup_advance_self .., by simp [here]⟩)
        · obtain lost | aborted | ⟨j, other, found', listed⟩ :=
            guarded.guarded id (known.resolve_right here)
          · exact .inl lost
          · exact .inr (.inl aborted)
          · by_cases same : j = i
            · subst same
              obtain rfl := Option.some.inj (found.symm.trans found')
              exact .inr (.inr ⟨j, _, lookup_advance_self .., List.mem_cons_of_mem _ listed⟩)
            · exact .inr (.inr ⟨j, other, by simpa [same] using found', listed⟩)
      · intro j other found' out
        rw [lookup_advance] at found'
        split at found'
        · cases found'
          rw [stage] at out
          cases out
        · exact guarded.ended j other found' out
  | acceptFailed found | loopPanicked found =>
      exact guarded.advance _ found _ (fun id listed _ => .inr (.inl (List.mem_append_left _ listed)))
        (fun id aborted => List.mem_append_right _ aborted) fun _ => rfl
  | @reaped i id loop found stage listed ended =>
      refine guarded.advance { loop with connections := loop.connections.erase id } found s.orphans
        (fun other listed' stored => ?_) (fun _ aborted => aborted) fun out => ?_
      · by_cases here : other = id
        · subst here
          exact .inr (.inr (ended.resolve_left (not_not.mpr stored)))
        · exact .inl ((List.mem_erase_of_ne here).mpr listed')
      · cases stage.symm.trans out
  | @stopped i loop found stage told =>
      exact guarded.advance { loop with stage := .draining } found s.orphans
        (fun _ listed _ => .inl listed) (fun _ aborted => aborted) fun out => (nomatch out)
  | @drained i loop found stage empty =>
      exact guarded.advance { loop with stage := .ended (.ok (.ok ())) } found s.orphans
        (fun _ listed _ => .inl listed) (fun _ aborted => aborted) fun _ => empty
  | loopDropped found failed =>
      exact guarded.leave found _ (fun id listed => List.mem_append_left _ listed)
        (fun id aborted => List.mem_append_right _ aborted) s.cancelled s.stage
  | worked permitted moved =>
      refine guarded.work moved ?_
      rintro peer listener challenge rfl
      cases permitted
  | abandoned stored found waits =>
      exact ⟨guarded.held.finishWriter stored waits, guarded.guarded, guarded.ended⟩
  | panicked runs fresh =>
      exact ⟨guarded.held,
        fun id stored => (guarded.guarded id stored).imp_left (List.mem_cons_of_mem _),
        guarded.ended⟩
  | @dropped id runs aborted =>
      refine ⟨guarded.held, fun other stored => ?_, guarded.ended⟩
      by_cases here : other = id
      · exact .inl (here ▸ List.mem_cons_self)
      · exact (guarded.guarded other stored).imp (List.mem_cons_of_mem _)
          (Or.imp_left (List.mem_erase_of_ne here).mpr)
  | ticked runs moved => exact guarded.work moved (by simp)
  | maintenanceStopped | maintenancePanicked | noticed | none_ | all | awaited =>
      exact ⟨guarded.held, guarded.guarded, guarded.ended⟩
  | joined found stage listens fine =>
      exact guarded.leave found s.orphans (leaves found stage) (fun _ aborted => aborted) _ .joining
  | failed found stage listens fails =>
      exact guarded.leave found s.orphans (leaves found stage) (fun _ aborted => aborted) s.cancelled _

theorem loops_lookup (first : Nat) (listeners : List RuntimeListenerConfig) (i : Nat) :
    (loops first listeners).lookup i =
      if i < first then none else (listeners[i - first]?).map fun config => { config } := by
  induction listeners generalizing first with
  | nil => simp [loops]
  | cons config listeners ih =>
      rw [loops]
      by_cases here : i = first
      · subst here
        simp
      · rw [AList.lookup_insert_ne here, ih]
        by_cases before : i < first
        · rw [if_pos before, if_pos (Nat.lt_succ_of_lt before)]
        · have after : i - first = i - (first + 1) + 1 := by omega
          rw [if_neg before, if_neg (by omega), after, List.getElem?_cons_succ]

/-- A loop accepts and has accepted nobody before. -/
theorem loops_fresh {listeners : List RuntimeListenerConfig} {loop : AcceptLoop}
    (found : (loops 0 listeners).lookup i = some loop) :
    loop.stage = .accepting ∧ loop.connections = [] := by
  rw [loops_lookup, if_neg (Nat.not_lt_zero i)] at found
  obtain ⟨config, -, rfl⟩ := Option.map_eq_some_iff.mp found
  exact ⟨rfl, rfl⟩

theorem reachable_guarded {listeners : List RuntimeListenerConfig}
    (reach : (supervised setup listeners).Reachable s) : s.Guarded setup := by
  refine reach.invariant (Guarded setup) ⟨Server.Held.empty setup, fun id stored => ?_, ?_⟩
    fun s action s' guarded step => (step_happens step).guarded guarded
  · exact absurd stored (AList.notMem_empty id)
  · exact fun i loop found _ => (loops_fresh found).2

/-! ## What has failed -/

/-- The failure of a supervised task, of a listener or of the maintenance task, that an action is. -/
def failure? (s : Supervision) : Action → Option ServeError
  | .acceptFails i source => (s.listeners.lookup i).map fun loop =>
      .listenerIo loop.config.name source
  | .loopPanics _ message | .maintenancePanics message => some (.listenerTask message)
  | _ => none

def failures (s : Supervision) (action : Action) : List ServeError := (s.failure? action).toList

/-- A task may have ended because it was told to, or with one of the failures. -/
def Explained (failed : List ServeError) (cancelled : Bool)
    (outcome : Except JoinError (Except ServeError Unit)) : Prop :=
  outcome = .ok (.ok ()) ∧ cancelled = true ∨
    ∃ error ∈ failed, ∀ joining, reported joining outcome = .error error

/-- How far a loop may have come. -/
def ExplainedStage (failed : List ServeError) (cancelled : Bool) : LoopStage → Prop
  | .accepting => True
  | .draining => cancelled = true
  | .ended outcome => Explained failed cancelled outcome

theorem Explained.mono {failed failed' : List ServeError} {cancelled cancelled' : Bool}
    {outcome : Except JoinError (Except ServeError Unit)} (explained : Explained failed cancelled outcome)
    (fewer : ∀ error ∈ failed, error ∈ failed') (told : cancelled = true → cancelled' = true) :
    Explained failed' cancelled' outcome :=
  explained.imp (And.imp_right told) fun ⟨error, member, reports⟩ => ⟨error, fewer error member, reports⟩

theorem ExplainedStage.mono {failed failed' : List ServeError} {cancelled cancelled' : Bool}
    {stage : LoopStage} (explained : ExplainedStage failed cancelled stage)
    (fewer : ∀ error ∈ failed, error ∈ failed') (told : cancelled = true → cancelled' = true) :
    ExplainedStage failed' cancelled' stage := by
  cases stage with
  | accepting => trivial
  | draining => exact told explained
  | ended outcome => exact Explained.mono explained fewer told

theorem Explained.ok {failed : List ServeError} {cancelled joining : Bool}
    {outcome : Except JoinError (Except ServeError Unit)} (explained : Explained failed cancelled outcome)
    (fine : reported joining outcome = .ok ()) : outcome = .ok (.ok ()) ∧ cancelled = true := by
  refine explained.resolve_right ?_
  rintro ⟨error, -, reports⟩
  cases (reports joining).symm.trans fine

theorem Explained.error {failed : List ServeError} {cancelled joining : Bool} {error : ServeError}
    {outcome : Except JoinError (Except ServeError Unit)} (explained : Explained failed cancelled outcome)
    (fails : reported joining outcome = .error error) : error ∈ failed := by
  obtain ⟨rfl, -⟩ | ⟨error', member, reports⟩ := explained
  · cases fails
  · cases (reports joining).symm.trans fails
    exact member

theorem reported_panic (joining : Bool) (message : String) :
    reported joining (.error (.panic message)) = .error (.listenerTask message) := by
  cases joining <;> rfl

/-- A failure that nobody has taken, or that `serve` has returned. -/
def Failing (s : Supervision) : Prop :=
  (∃ i loop outcome error, s.listeners.lookup i = some loop ∧ loop.stage = .ended outcome ∧
    reported true outcome = .error error) ∨
  (∃ error, s.maintenance = some (.error error)) ∨ ∃ error, s.stage = .returned (.error error)

/-- The failures are those that have happened so far. -/
structure Accounted (failed : List ServeError) (s : Supervision) : Prop where
  loops : ∀ i loop, s.listeners.lookup i = some loop → ExplainedStage failed s.cancelled loop.stage
  maintenance : ∀ outcome, s.maintenance = some outcome →
    Explained failed s.cancelled (outcome.map .ok)
  idle : s.maintenance = some (.ok ()) → s.server.maintenance = none
  told : s.stage ≠ .watching → s.cancelled = true ∨ ∃ error, s.stage = .returned (.error error)
  joined : s.stage = .awaiting ∨ s.stage = .returned (.ok ()) → ∀ i, s.listeners.lookup i = none
  done : s.stage = .returned (.ok ()) → s.maintenance = some (.ok ())
  result : ∀ error, s.stage = .returned (.error error) → error ∈ failed
  noted : failed ≠ [] → s.Failing
  aborted : failed = [] → s.orphans = []

variable {failed : List ServeError}

/-- A step that touches neither a supervised task nor `serve`. -/
theorem Accounted.keep (accounted : Accounted failed s) (listeners : s'.listeners = s.listeners)
    (maintenance : s'.maintenance = s.maintenance) (stage : s'.stage = s.stage)
    (orphans : s.orphans = [] → s'.orphans = []) (told : s.cancelled = true → s'.cancelled = true)
    (idle : s.maintenance = some (.ok ()) → s'.server.maintenance = s.server.maintenance) :
    Accounted failed s' where
  loops i loop found :=
    (accounted.loops i loop (listeners ▸ found)).mono (fun _ member => member) told
  maintenance outcome ended :=
    (accounted.maintenance outcome (maintenance ▸ ended)).mono (fun _ member => member) told
  idle ended := by
    rw [maintenance] at ended
    exact (idle ended).trans (accounted.idle ended)
  told left := by
    rw [stage] at left ⊢
    exact (accounted.told left).imp_left told
  joined := by
    rw [stage, listeners]
    exact accounted.joined
  done := by
    rw [stage, maintenance]
    exact accounted.done
  result := by
    rw [stage]
    exact accounted.result
  noted some_ := by
    unfold Failing
    rw [listeners, maintenance, stage]
    exact accounted.noted some_
  aborted none_ := orphans (accounted.aborted none_)

/-- A loop that had not ended reaches another stage, perhaps with a failure. -/
theorem Accounted.advance {loop next : AcceptLoop} {server : Server} {orphans : List ConnectionId}
    (new : List ServeError) (accounted : Accounted failed s)
    (found : s.listeners.lookup i = some loop) (goes : loop.stage.goes = true)
    (maintenance : server.maintenance = s.server.maintenance)
    (explained : ExplainedStage (failed ++ new) s.cancelled next.stage)
    (noted : new ≠ [] → ∃ outcome error, next.stage = .ended outcome ∧
      reported true outcome = .error error)
    (aborted : new = [] → orphans = s.orphans) :
    Accounted (failed ++ new) ({ s with server, orphans }.advance i next) where
  loops j other found' := by
    rw [lookup_advance] at found'
    split at found'
    · cases found'
      exact explained
    · exact (accounted.loops j other found').mono
        (fun _ member => List.mem_append_left _ member) fun told => told
  maintenance outcome ended := (accounted.maintenance outcome ended).mono
    (fun _ member => List.mem_append_left _ member) fun told => told
  idle ended := maintenance.trans (accounted.idle ended)
  told := accounted.told
  joined past := by
    cases found.symm.trans (accounted.joined past i)
  done := accounted.done
  result error returned := List.mem_append_left _ (accounted.result error returned)
  noted some_ := by
    by_cases fresh : new = []
    · obtain ⟨j, other, outcome, error, found', ended, fails⟩ | failing :=
        accounted.noted (by simpa [fresh] using some_)
      · have apart : j ≠ i := by
          rintro rfl
          cases found.symm.trans found'
          rw [ended] at goes
          cases goes
        exact .inl ⟨j, other, outcome, error, by simpa [apart] using found', ended, fails⟩
      · exact .inr failing
    · obtain ⟨outcome, error, ended, fails⟩ := noted fresh
      exact .inl ⟨i, next, outcome, error, lookup_advance_self .., ended, fails⟩
  aborted none_ := by
    obtain ⟨before, now⟩ := List.append_eq_nil_iff.mp none_
    exact (aborted now).trans (accounted.aborted before)

/-- `serve` takes an outcome that is fine. -/
theorem Accounted.joins {loop : AcceptLoop} {outcome : Except JoinError (Except ServeError Unit)}
    {joining : Bool} (accounted : Accounted failed s) (found : s.listeners.lookup i = some loop)
    (stage : loop.stage = .ended outcome) (listens : s.stage.listens? = some joining)
    (fine : reported joining outcome = .ok ()) :
    Accounted failed
      { s with
        listeners := s.listeners.erase i, cancelled := !joining || s.cancelled, stage := .joining } := by
  have explained := accounted.loops i loop found
  rw [stage] at explained
  obtain ⟨rfl, told⟩ := Explained.ok explained fine
  rw [told, Bool.or_true]
  rw [← told]
  exact {
    loops := fun j loop found' => accounted.loops j loop (lookup_stays found')
    maintenance := accounted.maintenance
    idle := accounted.idle
    told := fun _ => .inl told
    joined := fun past => by simp at past
    done := fun past => nomatch past
    result := fun _ past => nomatch past
    noted := fun some_ => by
      obtain ⟨j, other, outcome, error, found', ended, fails⟩ | failing | ⟨error, past⟩ :=
        accounted.noted some_
      · have apart : j ≠ i := by
          rintro rfl
          cases found.symm.trans found'
          cases stage.symm.trans ended
          cases fails
        exact .inl ⟨j, other, outcome, error, by simpa [lookup_dropped, apart] using found', ended, fails⟩
      · exact .inr (.inl failing)
      · rw [past] at listens
        cases listens
    aborted := accounted.aborted }

/-- A step of `serve` itself, which does not fail. -/
theorem Accounted.serve {stage : ServeStage} {cancelled : Bool} (accounted : Accounted failed s)
    (unreturned : ∀ result, s.stage ≠ .returned result) (told : cancelled = true)
    (joined : stage = .awaiting ∨ stage = .returned (.ok ()) → ∀ i, s.listeners.lookup i = none)
    (done : stage = .returned (.ok ()) → s.maintenance = some (.ok ()))
    (fine : ∀ error, stage ≠ .returned (.error error)) :
    Accounted failed { s with cancelled, stage } where
  loops i loop found := (accounted.loops i loop found).mono (fun _ member => member) fun _ => told
  maintenance outcome ended :=
    (accounted.maintenance outcome ended).mono (fun _ member => member) fun _ => told
  idle := accounted.idle
  told _ := .inl told
  joined := joined
  done := done
  result error past := absurd past (fine error)
  noted some_ := by
    obtain loops | maintenance | ⟨error, past⟩ := accounted.noted some_
    · exact .inl loops
    · exact .inr (.inl maintenance)
    · exact absurd past (unreturned _)
  aborted := accounted.aborted

/-- `serve` returns one of the failures. -/
theorem Accounted.fails {listeners : KeyedMap ListenerId AcceptLoop} {error : ServeError}
    (accounted : Accounted failed s)
    (fewer : ∀ j loop, listeners.lookup j = some loop → s.listeners.lookup j = some loop)
    (member : error ∈ failed) :
    Accounted failed { s with listeners, stage := .returned (.error error) } where
  loops j loop found := accounted.loops j loop (fewer j loop found)
  maintenance := accounted.maintenance
  idle := accounted.idle
  told _ := .inr ⟨error, rfl⟩
  joined past := by simp at past
  done past := nomatch past
  result error past := by
    cases past
    exact member
  noted _ := .inr (.inr ⟨error, rfl⟩)
  aborted := accounted.aborted

/-- The maintenance task ends. -/
theorem Accounted.maintained {outcome : Except JoinError Unit} (new : List ServeError)
    (accounted : Accounted failed s) (runs : s.maintenance = none)
    (explained : Explained (failed ++ new) s.cancelled (outcome.map .ok))
    (idle : outcome = .ok () → s.server.maintenance = none)
    (noted : new ≠ [] → ∃ error, outcome = .error error) :
    Accounted (failed ++ new) { s with maintenance := some outcome } where
  loops i loop found := (accounted.loops i loop found).mono
    (fun _ member => List.mem_append_left _ member) fun told => told
  maintenance outcome' ended := Option.some.inj ended ▸ explained
  idle ended := idle (Option.some.inj ended)
  told := accounted.told
  joined := accounted.joined
  done past := by
    cases runs.symm.trans (accounted.done past)
  result error past := List.mem_append_left _ (accounted.result error past)
  noted some_ := by
    by_cases fresh : new = []
    · obtain loops | ⟨error, ended⟩ | result := accounted.noted (by simpa [fresh] using some_)
      · exact .inl loops
      · cases runs.symm.trans ended
      · exact .inr (.inr result)
    · obtain ⟨error, rfl⟩ := noted fresh
      exact .inr (.inl ⟨error, rfl⟩)
  aborted none_ := accounted.aborted (List.append_eq_nil_iff.mp none_).1

theorem lookup_of_size {listeners : KeyedMap ListenerId AcceptLoop} (empty : listeners.size = 0)
    (i : ListenerId) : listeners.lookup i = none := by
  cases found : listeners.lookup i with
  | none => rfl
  | some loop =>
      have member := KeyedMap.mem_entries_iff.mpr found
      rw [List.eq_nil_of_length_eq_zero empty] at member
      cases member

theorem Happens.accounted (happens : Happens setup s action s') (accounted : Accounted failed s) :
    Accounted (failed ++ s.failures action) s' := by
  -- the actions that are no failure
  have fine : s.failures action = [] → Accounted failed s' →
      Accounted (failed ++ s.failures action) s' := by
    intro none_ accounted'
    rwa [none_, List.append_nil]
  cases happens with
  | cancelled =>
      exact fine rfl (accounted.keep rfl rfl rfl (fun same => same) (fun _ => rfl) fun _ => rfl)
  | accepted found stage moved =>
      refine accounted.advance [] found (by rw [stage]; rfl) ?_ ?_ (fun some_ => absurd rfl some_)
        fun _ => rfl
      · exact (Server.step_stepped moved).maintenance_same (by simp) (by simp)
      · rw [stage]
        trivial
  | @acceptFailed i source loop found stage =>
      simp only [failures, failure?, found, Option.map_some, Option.toList_some]
      refine accounted.advance _ found (by rw [stage]; rfl) rfl ?_ (fun _ => ⟨_, _, rfl, rfl⟩)
        fun none_ => absurd none_ (List.cons_ne_nil _ _)
      exact .inr ⟨_, List.mem_append_right _ (List.mem_singleton_self _), fun _ => rfl⟩
  | reaped found goes =>
      refine accounted.advance [] found goes rfl ?_ (fun some_ => absurd rfl some_) fun _ => rfl
      exact (accounted.loops _ _ found).mono (fun _ => List.mem_append_left _) fun told => told
  | stopped found stage told =>
      exact accounted.advance [] found (by rw [stage]; rfl) rfl told (fun some_ => absurd rfl some_)
        fun _ => rfl
  | drained found stage =>
      refine accounted.advance [] found (by rw [stage]; rfl) rfl (.inl ⟨rfl, ?_⟩)
        (fun some_ => absurd rfl some_) fun _ => rfl
      have explained := accounted.loops _ _ found
      rwa [stage] at explained
  | loopPanicked found goes =>
      refine accounted.advance _ found goes rfl ?_ (fun _ => ⟨_, _, rfl, rfl⟩)
        fun none_ => absurd none_ (List.cons_ne_nil _ _)
      exact .inr ⟨_, List.mem_append_right _ (List.mem_singleton_self _), fun joining => reported_panic joining _⟩
  | loopDropped found failed_ =>
      have bad := accounted.result _ failed_
      exact fine rfl {
        loops := fun j loop found' => accounted.loops j loop (lookup_stays found')
        maintenance := accounted.maintenance
        idle := accounted.idle
        told := accounted.told
        joined := fun past => by simp [failed_] at past
        done := accounted.done
        result := accounted.result
        noted := fun _ => .inr (.inr ⟨_, failed_⟩)
        aborted := fun none_ => by
          rw [none_] at bad
          cases bad }
  | worked permitted moved =>
      refine fine rfl (accounted.keep rfl rfl rfl (fun same => same) (fun told => told) fun ended => ?_)
      refine (Server.step_stepped moved).maintenance_same ?_ ?_
      · rintro rfl
        simp [permits, ended] at permitted
      · rintro speed direction rfl
        cases permitted
  | abandoned =>
      exact fine rfl (accounted.keep rfl rfl rfl (fun same => same) (fun told => told) fun _ => rfl)
  | panicked =>
      exact fine rfl (accounted.keep rfl rfl rfl (fun same => same) (fun told => told) fun _ => rfl)
  | dropped runs aborted =>
      refine fine rfl (accounted.keep rfl rfl rfl (fun same => ?_) (fun told => told) fun _ => rfl)
      rw [same] at aborted
      cases aborted
  | ticked runs moved =>
      refine fine rfl (accounted.keep rfl rfl rfl (fun same => same) (fun told => told) fun ended => ?_)
      cases runs.symm.trans ended
  | maintenanceStopped runs told idle =>
      exact accounted.maintained [] runs (.inl ⟨rfl, told⟩) (fun _ => idle)
        fun some_ => absurd rfl some_
  | @maintenancePanicked message runs =>
      refine accounted.maintained [.listenerTask message] runs ?_ (fun past => nomatch past)
        fun _ => ⟨_, rfl⟩
      refine .inr ⟨_, List.mem_append_right _ (List.mem_singleton_self _), fun joining => ?_⟩
      exact reported_panic joining message
  | noticed stage told =>
      refine fine rfl (accounted.serve (by simp [stage]) told ?_ ?_ ?_) <;> simp
  | joined found stage listens ok_ => exact fine rfl (accounted.joins found stage listens ok_)
  | failed found stage listens fails =>
      have explained := accounted.loops _ _ found
      rw [stage] at explained
      exact fine rfl (accounted.fails (fun _ _ => lookup_stays) (Explained.error explained fails))
  | none_ empty stage =>
      refine fine rfl (accounted.serve (by simp [stage]) rfl ?_ ?_ ?_) <;> simp
  | all empty stage =>
      have told := (accounted.told (by simp [stage])).resolve_right (by simp [stage])
      refine fine rfl (accounted.serve (by simp [stage]) told (fun _ => lookup_of_size empty) ?_ ?_) <;>
        simp
  | @awaited outcome ended stage =>
      have told := (accounted.told (by simp [stage])).resolve_right (by simp [stage])
      have explained := accounted.maintenance outcome ended
      change Accounted (failed ++ []) _
      rw [List.append_nil]
      cases result : reported true (outcome.map .ok) with
      | ok =>
          have same : outcome = .ok () := by
            cases outcome with
            | ok => rfl
            | error => cases (Explained.ok explained result).1
          exact accounted.serve (by simp [stage]) told (fun _ => accounted.joined (.inl stage))
            (fun _ => ended.trans (congrArg some same)) (by simp)
      | error => exact accounted.fails (fun _ _ found => found) (Explained.error explained result)

/-! ## Over runs -/

variable {listeners : List RuntimeListenerConfig} {actions : List Action}

theorem trace_accounted (trace : (supervised setup listeners).Trace actions s) :
    Accounted ((supervised setup listeners).history failures (supervised setup listeners).init actions)
      s := by
  refine trace.invariant (fun actions s => Accounted ((supervised setup listeners).history failures
    (supervised setup listeners).init actions) s) ?_ ?_
  · exact {
      loops := fun i loop found => by
        rw [(loops_fresh found).1]
        trivial
      maintenance := fun _ ended => nomatch ended
      idle := fun ended => nomatch ended
      told := fun left => absurd rfl left
      joined := fun past => by simp [supervised] at past
      done := fun past => nomatch past
      result := fun _ past => nomatch past
      noted := fun some_ => absurd rfl some_
      aborted := fun _ => rfl }
  · intro actions s action s' trace accounted step
    rw [trace.history_snoc]
    exact (step_happens step).accounted accounted

/-- A task is lost because it panicked, or because its loop failed. -/
theorem trace_lost (trace : (supervised setup listeners).Trace actions s) : ∀ id ∈ s.lost,
    .panic id ∈ actions ∨ (supervised setup listeners).history failures
      (supervised setup listeners).init actions ≠ [] := by
  refine trace.invariant (fun actions s => ∀ id ∈ s.lost, .panic id ∈ actions ∨
    (supervised setup listeners).history failures (supervised setup listeners).init actions ≠ [])
    (fun id lost => absurd lost List.not_mem_nil) ?_
  intro actions s action s' trace known step id lost
  rw [trace.history_snoc]
  have before : id ∈ s.lost → .panic id ∈ actions ++ [action] ∨
      (supervised setup listeners).history failures (supervised setup listeners).init actions ++
        failures s action ≠ [] := by
    intro lost
    refine (known id lost).imp (List.mem_append_left _) fun failed none_ => ?_
    exact failed (List.append_eq_nil_iff.mp none_).1
  cases step_happens step with
  | panicked =>
      obtain rfl | lost := List.mem_cons.mp lost
      · exact .inl (List.mem_append_right _ (List.mem_singleton_self _))
      · exact before lost
  | dropped runs aborted =>
      refine .inr fun none_ => ?_
      rw [(trace_accounted trace).aborted (List.append_eq_nil_iff.mp none_).1] at aborted
      cases aborted
  | _ => exact before lost

/-- Without a failure there is nothing failing, and the other way round once `serve` has returned. -/
theorem Accounted.returned {result : Except ServeError Unit} (accounted : Accounted failed s)
    (returned : s.stage = .returned result) : result = .ok () ↔ failed = [] := by
  constructor
  · rintro rfl
    by_contra some_
    obtain ⟨i, loop, outcome, error, found, -⟩ | ⟨error, ended⟩ | ⟨error, past⟩ := accounted.noted some_
    · cases found.symm.trans (accounted.joined (.inr returned) i)
    · cases ended.symm.trans (accounted.done returned)
    · cases returned.symm.trans past
  · rintro rfl
    cases result with
    | ok => rfl
    | error error => cases accounted.result error returned

/-! ## What `serve` does not notice -/

/-- The actions that make `serve` stop: the shutdown, and the failures of listeners. -/
def disturbs : Action → Bool
  | .cancel | .acceptFails .. | .loopPanics .. => true
  | _ => false

/-- Every listener accepts, and `serve` waits. -/
structure Serving (listeners : List RuntimeListenerConfig) (s : Supervision) : Prop where
  stage : s.stage = .watching
  untold : s.cancelled = false
  accepts : ∀ (i : Nat) config, listeners[i]? = some config →
    ∃ loop, s.listeners.lookup i = some loop ∧ loop.config = config
  loops : ∀ i loop, s.listeners.lookup i = some loop → loop.stage = .accepting

/-- A loop that goes on accepting. -/
theorem Serving.advance {loop : AcceptLoop} {server : Server} (serving : Serving listeners s)
    (found : s.listeners.lookup i = some loop) (connections : List ConnectionId) :
    Serving listeners ({ s with server }.advance i { loop with connections }) where
  stage := serving.stage
  untold := serving.untold
  accepts j config listed := by
    obtain ⟨other, found', same⟩ := serving.accepts j config listed
    by_cases here : j = i
    · subst here
      cases found.symm.trans found'
      exact ⟨_, lookup_advance_self .., same⟩
    · exact ⟨other, by simpa [here] using found', same⟩
  loops j other found' := by
    rw [lookup_advance] at found'
    split at found'
    · cases found'
      exact serving.loops i loop found
    · exact serving.loops j other found'

theorem Happens.serving (happens : Happens setup s action s') (calm : disturbs action = false)
    (some_ : listeners ≠ []) (serving : Serving listeners s) : Serving listeners s' := by
  -- an accepting loop has not ended, and `serve` waits for one that has
  have running : ∀ {i loop}, s.listeners.lookup i = some loop → ∀ {stage : LoopStage},
      loop.stage = stage → stage ≠ .accepting → False :=
    fun found _ stage other => other (stage.symm.trans (serving.loops _ _ found))
  have untold : s.cancelled ≠ true := by simp [serving.untold]
  cases happens with
  | cancelled | acceptFailed | loopPanicked => cases calm
  | accepted found => exact serving.advance found _
  | reaped found => exact serving.advance found _
  | stopped found stage told | maintenanceStopped _ told | noticed stage told =>
      exact absurd told untold
  | drained found stage | joined found stage | failed found stage =>
      exact (running found stage (by simp)).elim
  | loopDropped found past | awaited ended past | all empty past =>
      cases past.symm.trans serving.stage
  | none_ empty stage =>
      obtain ⟨config, rest, rfl⟩ := List.exists_cons_of_ne_nil some_
      obtain ⟨loop, found, -⟩ := serving.accepts 0 config rfl
      cases found.symm.trans (lookup_of_size empty 0)
  | worked | abandoned | panicked | dropped | ticked | maintenancePanicked =>
      exact ⟨serving.stage, serving.untold, serving.accepts, serving.loops⟩

/-- A server with listeners starts with all of them accepting. -/
theorem serving_init (setup : Setup) (listeners : List RuntimeListenerConfig) :
    Serving listeners (supervised setup listeners).init where
  stage := rfl
  untold := rfl
  accepts i config listed := ⟨{ config }, by simp [supervised, loops_lookup, listed], rfl⟩
  loops _ _ found := (loops_fresh found).1

/-- What disturbs `serve` and does not tell it to stop is a failure. -/
theorem calm_of_well (step : s.step setup action = some s') (well : s.failures action = [])
    (untold : action ≠ .cancel) : disturbs action = false := by
  cases step_happens step with
  | cancelled => exact absurd rfl untold
  | acceptFailed found | loopPanicked found => simp [failures, failure?, found] at well
  | _ => rfl

/-- A server with a listener in which nothing has failed goes on serving until it is told to stop. -/
theorem trace_serving (some_ : listeners ≠ []) (trace : (supervised setup listeners).Trace actions s)
    (well : (supervised setup listeners).history failures (supervised setup listeners).init actions =
      []) (untold : .cancel ∉ actions) : Serving listeners s := by
  refine trace.invariant (fun actions s => (supervised setup listeners).history failures
    (supervised setup listeners).init actions = [] → .cancel ∉ actions → Serving listeners s)
    (fun _ _ => serving_init setup listeners) ?_ well untold
  intro actions s action s' trace serving step well untold
  rw [trace.history_snoc] at well
  obtain ⟨before, here⟩ := List.append_eq_nil_iff.mp well
  obtain ⟨earlier, now⟩ := not_or.mp (mt List.mem_append.mpr untold)
  have calm := calm_of_well step here fun same => now (List.mem_singleton.mpr same.symm)
  exact (step_happens step).serving calm some_ (serving before earlier)

/-- Until it is told to stop or a listener fails, a server with a listener goes on serving: every
    listener accepts, whatever becomes of the connection tasks and of the maintenance task. -/
theorem serve_goes_on (setup : Setup) (listeners : List RuntimeListenerConfig) (some_ : listeners ≠ [])
    (actions : List Action) (s : Supervision) (trace : (supervised setup listeners).Trace actions s)
    (calm : ∀ action ∈ actions, disturbs action = false) : Serving listeners s := by
  refine trace.invariant (fun actions s => (∀ action ∈ actions, disturbs action = false) →
    Serving listeners s) (fun _ => serving_init setup listeners) ?_ calm
  intro actions s action s' trace serving step calm
  have before := serving fun action member => calm action (List.mem_append_left _ member)
  exact (step_happens step).serving
    (calm action (List.mem_append_right _ (List.mem_singleton_self _))) some_ before

/-! ## What `serve` returns -/

/-- `serve` returns that all is well exactly when no listener and no maintenance task has failed, and
    otherwise it returns one of the failures. When all is well, it was told to stop from outside or it has
    no listeners, the tasks are told, no dispatch of maintenance is under way, and nothing is left of any
    connection except those whose tasks panicked. -/
theorem serve_returns (setup : Setup) (listeners : List RuntimeListenerConfig) (actions : List Action)
    (s : Supervision) (trace : (supervised setup listeners).Trace actions s)
    (result : Except ServeError Unit) (returned : s.stage = .returned result) :
    (result = .ok () ↔ (supervised setup listeners).history failures
      (supervised setup listeners).init actions = []) ∧
    (∀ error, result = .error error → error ∈ (supervised setup listeners).history failures
      (supervised setup listeners).init actions) ∧
    (result = .ok () → (.cancel ∈ actions ∨ listeners = []) ∧ s.cancelled = true ∧
      s.server.maintenance = none ∧ ∀ id, .panic id ∉ actions → s.server.Quit id) := by
  have accounted := trace_accounted trace
  refine ⟨accounted.returned returned, ?_, ?_⟩
  · rintro error rfl
    exact accounted.result error returned
  · rintro rfl
    have well := (accounted.returned returned).mp rfl
    refine ⟨?_, ?_, accounted.idle (accounted.done returned), fun id calm => ?_⟩
    · by_contra neither
      obtain ⟨untold, some_⟩ := not_or.mp neither
      have serving := trace_serving some_ trace well untold
      cases serving.stage.symm.trans returned
    · exact (accounted.told (by simp [returned])).resolve_right (by simp [returned])
    · have guarded := reachable_guarded trace.reachable
      refine guarded.held.quit (AList.lookup_eq_none.mpr fun stored => ?_)
      obtain lost | aborted | ⟨i, loop, found, -⟩ := guarded.guarded id stored
      · obtain panicked | failed := trace_lost trace id lost
        · exact calm panicked
        · exact failed well
      · rw [accounted.aborted well] at aborted
        cases aborted
      · cases found.symm.trans (accounted.joined (.inr returned) i)

end Supervision

namespace Sample

/-- A client connects to the first listener. -/
def supervisedClient : List Supervision.Action :=
  [.accept 0 peer "", .work (.register ⟨1⟩), .work (.handshake ⟨1⟩ true), .work (.install ⟨1⟩)]

/-- The client is gone before the shutdown, and `serve` returns. -/
def orderlyShutdown : List Supervision.Action :=
  supervisedClient ++ [.work (.leave ⟨1⟩), .work (.remove ⟨1⟩), .work (.disconnect ⟨1⟩),
    .work (.dispatch (.connection ⟨1⟩)), .abandon ⟨1⟩, .work (.join ⟨1⟩), .reap 0 ⟨1⟩, .cancel,
    .notice, .stop 0, .drained 0, .stopMaintenance, .joinListener 0, .noListener, .awaitMaintenance]

/-- The task of the client panics, and so does the maintenance task. -/
def panicking : List Supervision.Action :=
  supervisedClient ++ [.panic ⟨1⟩, .reap 0 ⟨1⟩, .maintenancePanics "overflow"]

end Sample

namespace Supervision

set_option maxRecDepth 8000 in
/-- Nothing is left of the client. -/
theorem serve_returns_orderly : ∃ s,
    (supervised (Sample.setup 8) [Sample.classicListener]).Trace Sample.orderlyShutdown s ∧
      s.stage = .returned (.ok ()) ∧ s.cancelled = true ∧ s.server.Quit ⟨1⟩ := by
  have checked : ((supervised (Sample.setup 8) [Sample.classicListener]).run
      (supervised (Sample.setup 8) [Sample.classicListener]).init Sample.orderlyShutdown).any
        (fun s => s.stage.returnsOk) = true := by
    decide +kernel
  obtain ⟨s, trace, ends⟩ := (Option.any_eq_true _ _).mp checked
  have returned : s.stage = .returned (.ok ()) := ServeStage.returnsOk_iff.mp ends
  obtain ⟨-, -, well⟩ := serve_returns _ _ _ s trace _ returned
  obtain ⟨-, told, -, quit⟩ := well rfl
  refine ⟨s, trace, returned, told, quit ⟨1⟩ ?_⟩
  simp [Sample.orderlyShutdown, Sample.supervisedClient]

set_option maxRecDepth 8000 in
/-- The listener still accepts. -/
theorem serve_goes_on_panicking : ∃ s,
    (supervised (Sample.setup 8) [Sample.classicListener]).Trace Sample.panicking s ∧
      s.lost = [⟨1⟩] ∧ Serving [Sample.classicListener] s := by
  have checked : ((supervised (Sample.setup 8) [Sample.classicListener]).run
      (supervised (Sample.setup 8) [Sample.classicListener]).init Sample.panicking).any
        (fun s => decide (s.lost = [⟨1⟩])) = true := by
    decide +kernel
  obtain ⟨s, trace, ends⟩ := (Option.any_eq_true _ _).mp checked
  refine ⟨s, trace, of_decide_eq_true ends, serve_goes_on _ _ (List.cons_ne_nil _ _) _ s trace ?_⟩
  decide

end Supervision

end AsterFsd
