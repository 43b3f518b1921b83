import AsterFsd.Server.Config

/-! # Supervised tasks

A bound server runs one accept loop for each listener and the maintenance task, and waits for them; an
accept loop runs the connection tasks it has spawned, and waits for those. Here a task may also fail: an
accept loop returns the error of its socket, and any task may panic between two of its sections. What a
task set is dropped with is aborted, which the runtime of the language does in its own time.
-/

namespace AsterFsd

/-- Why a task did not return: it was cancelled or it panicked. -/
structure JoinError where
  isCancelled : Bool
  text : String
  deriving DecidableEq, Repr

def JoinError.panic (text : String) : JoinError := { isCancelled := false, text }

/-- Supervision failures surfaced by the runtime. -/
inductive ServeError where
  | listenerIo (listener source : String)
  | listenerTask (message : String)
  deriving DecidableEq, Repr

abbrev ListenerId := Nat

/-- What an accept loop is doing. -/
inductive LoopStage where
  | accepting
  | draining
  | ended (outcome : Except JoinError (Except ServeError Unit))

/-- The loop has not ended. -/
def LoopStage.goes : LoopStage → Bool
  | .ended _ => false
  | _ => true

/-- The task of a listener, with the connection tasks in its set. -/
structure AcceptLoop where
  config : RuntimeListenerConfig
  stage : LoopStage := .accepting
  connections : List ConnectionId := []

/-- What `serve` is doing: waiting for the shutdown or for a listener, joining the listeners, waiting for
    the maintenance task, or done. -/
inductive ServeStage where
  | watching
  | joining
  | awaiting
  | returned (result : Except ServeError Unit)

/-- `serve` waits for its listeners, for the first outcome or for all of them. -/
def ServeStage.listens? : ServeStage → Option Bool
  | .watching => some false
  | .joining => some true
  | _ => none

/-- `serve` has returned that all is well. -/
def ServeStage.returnsOk : ServeStage → Bool
  | .returned (.ok ()) => true
  | _ => false

theorem ServeStage.returnsOk_iff {stage : ServeStage} :
    stage.returnsOk = true ↔ stage = .returned (.ok ()) := by
  constructor
  · intro ok
    cases stage with
    | returned result =>
        cases result with
        | ok => rfl
        | error => cases ok
    | _ => cases ok
  · rintro rfl
    rfl

/-- A bound server that serves. The maintenance task and a loop keep their outcome until it is taken. -/
structure Supervision where
  server : Server := {}
  cancelled : Bool := false
  stage : ServeStage := .watching
  listeners : KeyedMap ListenerId AcceptLoop := ∅
  maintenance : Option (Except JoinError Unit) := none
  /-- Connection tasks that are aborted and not dropped yet. -/
  orphans : List ConnectionId := []
  /-- Connection tasks that panicked or were dropped. -/
  lost : List ConnectionId := []

namespace Supervision

inductive Action where
  | cancel
  | accept (i : ListenerId) (peer : SocketAddr) (challenge : String)
  | acceptFails (i : ListenerId) (source : String)
  | reap (i : ListenerId) (id : ConnectionId)
  | stop (i : ListenerId)
  | drained (i : ListenerId)
  | loopPanics (i : ListenerId) (message : String)
  | dropLoop (i : ListenerId)
  | work (action : Server.Action)
  | abandon (id : ConnectionId)
  | panic (id : ConnectionId)
  | drop (id : ConnectionId)
  | tick (speed direction : Int32)
  | stopMaintenance
  | maintenancePanics (message : String)
  | notice
  | joinListener (i : ListenerId)
  | noListener
  | awaitMaintenance

/-- The loops of the listeners, numbered from here on, none of which has accepted anything. -/
def loops (first : ListenerId) : List RuntimeListenerConfig → KeyedMap ListenerId AcceptLoop
  | [] => ∅
  | config :: listeners => (loops (first + 1) listeners).insert first { config }

def advance (s : Supervision) (i : ListenerId) (loop : AcceptLoop) : Supervision :=
  { s with listeners := s.listeners.insert i loop }

/-- The loop ends and drops the set of its connection tasks. -/
def abort (s : Supervision) (i : ListenerId) (loop : AcceptLoop)
    (outcome : Except JoinError (Except ServeError Unit)) : Supervision :=
  { s with orphans := loop.connections ++ s.orphans }.advance i
    { loop with stage := .ended outcome, connections := [] }

/-- The task of the action can still go on. The accept loops and the clock have actions of their own. -/
def permits (s : Supervision) : Server.Action → Bool
  | .accept .. | .windDelta .. => false
  | .dispatch .maintenance => s.maintenance.isNone
  | .receive _ | .send .. => true
  | .register id | .refuse id | .handshake id _ | .install id | .frame id _ | .lock id | .answered id _
  | .executed id | .leave id | .remove id | .disconnect id | .join id
  | .dispatch (.connection id) => decide (id ∉ s.lost)

/-- Some sender of the mailbox is left; what a lost task held is dropped. -/
def hasSender (s : Supervision) (id : ConnectionId) : Bool :=
  (s.server.runtime.connections.lookup id).isSome ||
    (s.maintenance.isNone && s.server.maintenance.any (Server.holdsSender id)) ||
    s.server.tasks.entries.any fun entry =>
      decide (entry.1 ∉ s.lost) && entry.2.dispatch?.any (Server.holdsSender id)

/-- A writer without senders ends. -/
def abandonStep (s : Supervision) (id : ConnectionId) : Option Supervision := do
  let writer ← s.server.writers.lookup id
  let mailbox ← s.server.runtime.mailboxes.lookup id
  if writer.stage = .receiving ∧ mailbox.recv = none ∧ s.hasSender id = false then
    return { s with server := s.server.finishWriter id writer }
  else none

/-- What `serve` makes of the outcome of a listener. Once it joins the listeners it ignores that one was
    cancelled. -/
def reported (joining : Bool) : Except JoinError (Except ServeError Unit) → Except ServeError Unit
  | .ok result => result
  | .error error =>
      if joining && error.isCancelled then .ok () else .error (.listenerTask error.text)

/-- `serve` takes the outcome of a listener. -/
def joinStep (s : Supervision) (i : ListenerId) : Option Supervision := do
  let loop ← s.listeners.lookup i
  match loop.stage with
  | .ended outcome =>
      let listeners := s.listeners.erase i
      match s.stage with
      | .watching =>
          match reported false outcome with
          | .ok () => return { s with listeners, cancelled := true, stage := .joining }
          | .error error => return { s with listeners, stage := .returned (.error error) }
      | .joining =>
          match reported true outcome with
          | .ok () => return { s with listeners }
          | .error error => return { s with listeners, stage := .returned (.error error) }
      | _ => none
  | _ => none

/-- `serve` takes the outcome of the maintenance task. -/
def awaitStep (s : Supervision) : Option Supervision := do
  let outcome ← s.maintenance
  match s.stage with
  | .awaiting =>
      match outcome with
      | .ok () => return { s with stage := .returned (.ok ()) }
      | .error error =>
          let result := if error.isCancelled then .ok () else .error (.listenerTask error.text)
          return { s with stage := .returned result }
  | _ => none

def step (setup : Setup) (s : Supervision) : Action → Option Supervision
  | .cancel => some { s with cancelled := true }
  | .accept i peer challenge => do
      let loop ← s.listeners.lookup i
      match loop.stage with
      | .accepting => do
          let server ← s.server.step setup (.accept peer loop.config.listener challenge)
          return { s with server }.advance i
            { loop with connections := ⟨s.server.nextConnectionId⟩ :: loop.connections }
      | _ => none
  | .acceptFails i source => do
      let loop ← s.listeners.lookup i
      match loop.stage with
      | .accepting => return s.abort i loop (.ok (.error (.listenerIo loop.config.name source)))
      | _ => none
  | .reap i id => do
      let loop ← s.listeners.lookup i
      match loop.stage with
      | .ended _ => none
      | _ =>
          if id ∈ loop.connections ∧ (id ∉ s.server.tasks ∨ id ∈ s.lost) then
            return s.advance i { loop with connections := loop.connections.erase id }
          else none
  | .stop i => do
      let loop ← s.listeners.lookup i
      match loop.stage with
      | .accepting =>
          if s.cancelled then return s.advance i { loop with stage := .draining } else none
      | _ => none
  | .drained i => do
      let loop ← s.listeners.lookup i
      match loop.stage, loop.connections with
      | .draining, [] => return s.advance i { loop with stage := .ended (.ok (.ok ())) }
      | _, _ => none
  | .loopPanics i message => do
      let loop ← s.listeners.lookup i
      match loop.stage with
      | .ended _ => none
      | _ => return s.abort i loop (.error (.panic message))
  | .dropLoop i => do
      let loop ← s.listeners.lookup i
      match s.stage with
      -- `serve` has dropped the set of its listeners.
      | .returned (.error _) =>
          return { s with
            listeners := s.listeners.erase i, orphans := loop.connections ++ s.orphans }
      | _ => none
  | .work action =>
      if s.permits action then do
        let server ← s.server.step setup action
        return { s with server }
      else none
  | .abandon id => s.abandonStep id
  | .panic id =>
      if id ∈ s.server.tasks ∧ id ∉ s.lost then some { s with lost := id :: s.lost } else none
  | .drop id =>
      if id ∈ s.server.tasks ∧ id ∈ s.orphans then
        some { s with orphans := s.orphans.erase id, lost := id :: s.lost }
      else none
  | .tick speed direction =>
      match s.maintenance with
      | some _ => none
      | none => do
          let server ← s.server.step setup (.windDelta speed direction)
          return { s with server }
  | .stopMaintenance =>
      if s.maintenance.isNone ∧ s.cancelled ∧ s.server.maintenance.isNone then
        some { s with maintenance := some (.ok ()) }
      else none
  | .maintenancePanics message =>
      if s.maintenance.isNone then some { s with maintenance := some (.error (.panic message)) }
      else none
  | .notice =>
      match s.stage with
      | .watching => if s.cancelled then some { s with stage := .joining } else none
      | _ => none
  | .joinListener i => s.joinStep i
  | .noListener =>
      if s.listeners.size ≠ 0 then none
      else
        match s.stage with
        | .watching => some { s with cancelled := true, stage := .joining }
        | .joining => some { s with stage := .awaiting }
        | _ => none
  | .awaitMaintenance => s.awaitStep

/-! ## Case analysis of a step -/

/-- What a step does, with what it depends on. -/
inductive Happens (setup : Setup) (s : Supervision) : Action → Supervision → Prop where
  | cancelled : Happens setup s .cancel { s with cancelled := true }
  | accepted {i : ListenerId} {peer : SocketAddr} {challenge : String} {loop : AcceptLoop}
      {server : Server} (found : s.listeners.lookup i = some loop) (stage : loop.stage = .accepting)
      (moved : s.server.step setup (.accept peer loop.config.listener challenge) = some server) :
      Happens setup s (.accept i peer challenge) ({ s with server }.advance i
        { loop with connections := ⟨s.server.nextConnectionId⟩ :: loop.connections })
  | acceptFailed {i : ListenerId} {source : String} {loop : AcceptLoop}
      (found : s.listeners.lookup i = some loop) (stage : loop.stage = .accepting) :
      Happens setup s (.acceptFails i source)
        (s.abort i loop (.ok (.error (.listenerIo loop.config.name source))))
  | reaped {i : ListenerId} {id : ConnectionId} {loop : AcceptLoop}
      (found : s.listeners.lookup i = some loop) (stage : loop.stage.goes = true)
      (listed : id ∈ loop.connections) (ended : id ∉ s.server.tasks ∨ id ∈ s.lost) :
      Happens setup s (.reap i id)
        (s.advance i { loop with connections := loop.connections.erase id })
  | stopped {i : ListenerId} {loop : AcceptLoop} (found : s.listeners.lookup i = some loop)
      (stage : loop.stage = .accepting) (told : s.cancelled = true) :
      Happens setup s (.stop i) (s.advance i { loop with stage := .draining })
  | drained {i : ListenerId} {loop : AcceptLoop} (found : s.listeners.lookup i = some loop)
      (stage : loop.stage = .draining) (empty : loop.connections = []) :
      Happens setup s (.drained i) (s.advance i { loop with stage := .ended (.ok (.ok ())) })
  | loopPanicked {i : ListenerId} {message : String} {loop : AcceptLoop}
      (found : s.listeners.lookup i = some loop) (stage : loop.stage.goes = true) :
      Happens setup s (.loopPanics i message) (s.abort i loop (.error (.panic message)))
  | loopDropped {i : ListenerId} {loop : AcceptLoop} {error : ServeError}
      (found : s.listeners.lookup i = some loop) (failed : s.stage = .returned (.error error)) :
      Happens setup s (.dropLoop i)
        { s with listeners := s.listeners.erase i, orphans := loop.connections ++ s.orphans }
  | worked {action : Server.Action} {server : Server} (permitted : s.permits action = true)
      (moved : s.server.step setup action = some server) :
      Happens setup s (.work action) { s with server }
  | abandoned {id : ConnectionId} {writer : Writer} {mailbox : Channel Outbound}
      (stored : s.server.writers.lookup id = some writer)
      (found : s.server.runtime.mailboxes.lookup id = some mailbox)
      (waits : writer.stage = .receiving) (empty : mailbox.recv = none)
      (alone : s.hasSender id = false) :
      Happens setup s (.abandon id) { s with server := s.server.finishWriter id writer }
  | panicked {id : ConnectionId} (runs : id ∈ s.server.tasks) (fresh : id ∉ s.lost) :
      Happens setup s (.panic id) { s with lost := id :: s.lost }
  | dropped {id : ConnectionId} (runs : id ∈ s.server.tasks) (aborted : id ∈ s.orphans) :
      Happens setup s (.drop id) { s with orphans := s.orphans.erase id, lost := id :: s.lost }
  | ticked {speed direction : Int32} {server : Server} (runs : s.maintenance = none)
      (moved : s.server.step setup (.windDelta speed direction) = some server) :
      Happens setup s (.tick speed direction) { s with server }
  | maintenanceStopped (runs : s.maintenance = none) (told : s.cancelled = true)
      (idle : s.server.maintenance = none) :
      Happens setup s .stopMaintenance { s with maintenance := some (.ok ()) }
  | maintenancePanicked {message : String} (runs : s.maintenance = none) :
      Happens setup s (.maintenancePanics message)
        { s with maintenance := some (.error (.panic message)) }
  | noticed (stage : s.stage = .watching) (told : s.cancelled = true) :
      Happens setup s .notice { s with stage := .joining }
  | joined {i : ListenerId} {loop : AcceptLoop} {outcome : Except JoinError (Except ServeError Unit)}
      {joining : Bool} (found : s.listeners.lookup i = some loop) (stage : loop.stage = .ended outcome)
      (listens : s.stage.listens? = some joining) (fine : reported joining outcome = .ok ()) :
      Happens setup s (.joinListener i)
        { s with
          listeners := s.listeners.erase i, cancelled := !joining || s.cancelled, stage := .joining }
  | failed {i : ListenerId} {loop : AcceptLoop} {outcome : Except JoinError (Except ServeError Unit)}
      {joining : Bool} {error : ServeError} (found : s.listeners.lookup i = some loop)
      (stage : loop.stage = .ended outcome) (listens : s.stage.listens? = some joining)
      (fails : reported joining outcome = .error error) :
      Happens setup s (.joinListener i)
        { s with listeners := s.listeners.erase i, stage := .returned (.error error) }
  | none_ (empty : s.listeners.size = 0) (stage : s.stage = .watching) :
      Happens setup s .noListener { s with cancelled := true, stage := .joining }
  | all (empty : s.listeners.size = 0) (stage : s.stage = .joining) :
      Happens setup s .noListener { s with stage := .awaiting }
  | awaited {outcome : Except JoinError Unit} (ended : s.maintenance = some outcome)
      (stage : s.stage = .awaiting) :
      Happens setup s .awaitMaintenance
        { s with stage := .returned (reported true (outcome.map .ok)) }

theorem step_happens {setup : Setup} {s s' : Supervision} {action : Action}
    (step : s.step setup action = some s') : Happens setup s action s' := by
  cases action with
  | cancel =>
      cases step
      exact .cancelled
  | accept i peer challenge =>
      obtain ⟨loop, found, step⟩ := Option.bind_eq_some_iff.mp step
      split at step
      · rename_i stage
        obtain ⟨server, moved, step⟩ := Option.bind_eq_some_iff.mp step
        cases step
        exact .accepted found stage moved
      · cases step
  | acceptFails i source =>
      obtain ⟨loop, found, step⟩ := Option.bind_eq_some_iff.mp step
      split at step
      · cases step
        exact .acceptFailed found ‹_›
      · cases step
  | reap i id =>
      obtain ⟨loop, found, step⟩ := Option.bind_eq_some_iff.mp step
      split at step
      · cases step
      · rename_i goes
        split_ifs at step with ended
        cases step
        refine .reaped found ?_ ended.1 ended.2
        cases stage : loop.stage with
        | ended outcome => exact (goes outcome stage).elim
        | _ => rfl
  | stop i =>
      obtain ⟨loop, found, step⟩ := Option.bind_eq_some_iff.mp step
      split at step
      · split_ifs at step with told
        cases step
        exact .stopped found ‹_› told
      · cases step
  | drained i =>
      obtain ⟨loop, found, step⟩ := Option.bind_eq_some_iff.mp step
      split at step
      · cases step
        exact .drained found ‹_› ‹_›
      · cases step
  | loopPanics i message =>
      obtain ⟨loop, found, step⟩ := Option.bind_eq_some_iff.mp step
      split at step
      · cases step
      · rename_i goes
        cases step
        refine .loopPanicked found ?_
        cases stage : loop.stage with
        | ended outcome => exact (goes outcome stage).elim
        | _ => rfl
  | dropLoop i =>
      obtain ⟨loop, found, step⟩ := Option.bind_eq_some_iff.mp step
      split at step
      · cases step
        exact .loopDropped found ‹_›
      · cases step
  | work action =>
      simp only [Supervision.step] at step
      split_ifs at step with permitted
      obtain ⟨server, moved, step⟩ := Option.bind_eq_some_iff.mp step
      cases step
      exact .worked permitted moved
  | abandon id =>
      obtain ⟨writer, stored, step⟩ := Option.bind_eq_some_iff.mp step
      obtain ⟨mailbox, found, step⟩ := Option.bind_eq_some_iff.mp step
      split_ifs at step with done
      cases step
      exact .abandoned stored found done.1 done.2.1 done.2.2
  | panic id =>
      simp only [Supervision.step] at step
      split_ifs at step with runs
      cases step
      exact .panicked runs.1 runs.2
  | drop id =>
      simp only [Supervision.step] at step
      split_ifs at step with runs
      cases step
      exact .dropped runs.1 runs.2
  | tick speed direction =>
      simp only [Supervision.step] at step
      split at step
      · cases step
      · obtain ⟨server, moved, step⟩ := Option.bind_eq_some_iff.mp step
        cases step
        exact .ticked ‹_› moved
  | stopMaintenance =>
      simp only [Supervision.step] at step
      split_ifs at step with free
      cases step
      exact .maintenanceStopped (by simpa using free.1) free.2.1 (by simpa using free.2.2)
  | maintenancePanics message =>
      simp only [Supervision.step] at step
      split_ifs at step with runs
      cases step
      exact .maintenancePanicked (by simpa using runs)
  | notice =>
      simp only [Supervision.step] at step
      split at step
      · split_ifs at step with told
        cases step
        exact .noticed ‹_› told
      · cases step
  | joinListener i =>
      obtain ⟨loop, found, step⟩ := Option.bind_eq_some_iff.mp step
      split at step
      · rename_i outcome ended
        split at step
        · rename_i stage
          have listens : s.stage.listens? = some false := by rw [stage]; rfl
          split at step
          · cases step
            exact .joined found ended listens ‹_›
          · cases step
            exact .failed found ended listens ‹_›
        · rename_i stage
          have listens : s.stage.listens? = some true := by rw [stage]; rfl
          split at step
          · cases step
            have joined : Happens setup s (.joinListener i) _ := .joined found ended listens ‹_›
            simpa [stage] using joined
          · cases step
            exact .failed found ended listens ‹_›
        · cases step
      · cases step
  | noListener =>
      simp only [Supervision.step] at step
      split_ifs at step with some_
      have empty : s.listeners.size = 0 := not_not.mp some_
      split at step
      · cases step
        exact .none_ empty ‹_›
      · cases step
        exact .all empty ‹_›
      · cases step
  | awaitMaintenance =>
      obtain ⟨outcome, ended, step⟩ := Option.bind_eq_some_iff.mp step
      split at step
      · rename_i stage
        have awaited : Happens setup s .awaitMaintenance _ := .awaited ended stage
        split at step <;> cases step <;> exact awaited
      · cases step

end Supervision

/-- A bound server that serves these listeners. -/
def supervised (setup : Setup) (listeners : List RuntimeListenerConfig) :
    Machine Supervision Supervision.Action where
  init := { listeners := Supervision.loops 0 listeners }
  step := Supervision.step setup

end AsterFsd
