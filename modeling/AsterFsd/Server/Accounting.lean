import AsterFsd.Server.Order
import AsterFsd.Server.Rest

/-! # The books of a mailbox

Every event that the steps of a run bring about for a connection is accounted for: its task still owes
it, it was dropped for want of a handle, of frames or of room, or it was encoded in the dialect of the
connection and enqueued. What was enqueued is queued, with the writer, or written.
-/

namespace AsterFsd

/-- The frames that a writer has taken and not written yet. -/
def WriterStage.holds : WriterStage → List WireFrame
  | .sending frames => frames
  | _ => []

namespace Server

variable {setup : Setup} {s s' : Server} {action : Server.Action} {actions : List Server.Action}
  {j : ConnectionId}

/-! ## The books -/

/-- The events that the tasks of the run enqueued for `j` or dropped, in that order. -/
def handled (setup : Setup) (j : ConnectionId) (actions : List Server.Action) :
    List (Attempt (TaskId × Event)) :=
  (server setup).history (fun s action => (move setup j s action).settles (s.owes j))
    (server setup).init actions

/-- What has become of the events that the run brought about for `j`. -/
structure Accounted (setup : Setup) (actions : List Server.Action) (s : Server) (j : ConnectionId) :
    Prop where
  /-- At most one listener accepted the connection. -/
  admitted : (admissions setup j actions).length ≤ 1
  /-- What each task was to deliver it has enqueued or dropped, in order, or still owes. -/
  served : ∀ task, produced setup j actions task =
    Feed.ofProducer task (handled setup j actions) ++ s.owes j task
  /-- What was enqueued was encoded in the dialect of the connection, once. -/
  encoded : List.Forall₂
    (fun entry batch => Encodes setup j (admissions setup j actions) entry.2 (.ok batch))
    (Attempt.taken (handled setup j actions)) (Outbound.batches (posted setup j actions))
  /-- What was dropped found no handle or no room when its turn came, or does not encode. -/
  dropped : ∀ first entry last, handled setup j actions = first ++ entry :: last →
    entry.accepted = false → ∃ before after mid,
      actions = before ++ .dispatch entry.message.1 :: after ∧ (server setup).Trace before mid ∧
        handled setup j before = first ∧ (mid.owes j entry.message.1).head? = some entry.message.2 ∧
        (mid.runtime.connections.lookup j = none ∨ ¬ mid.runtime.HasRoom j ∨
          ∃ error, Encodes setup j (admissions setup j actions) entry.message.2 (.error error))
  /-- While the writer goes on, what was enqueued is written, with the writer, or queued. -/
  conveyed : ∀ mailbox writer, s.runtime.mailboxes.lookup j = some mailbox →
    s.writers.lookup j = some writer → writer.stage ≠ .finished →
      written setup j actions ++ writer.stage.holds ++ (Outbound.batches mailbox.queue).flatten =
        (Outbound.batches (posted setup j actions)).flatten
  /-- At rest nothing is owed, and what was enqueued is written unless the writer has ended. -/
  rest : s.AtRest → (∀ task, s.owes j task = []) ∧
    ∀ writer, s.writers.lookup j = some writer → writer.stage ≠ .finished →
      written setup j actions = (Outbound.batches (posted setup j actions)).flatten

/-- What a move of the feed commits for a task is what the step brings about for it. -/
theorem brings_move (s : Server) (action : Server.Action) (task : TaskId) :
    (move setup j s action).brings task =
      match s.produces setup action with
      | some (producer, effects) => if producer = task then eventsTo j effects.deliveries else []
      | none => [] := by
  cases made : s.produces setup action with
  | some made_ => simp [move, made, Feed.Move.brings]
  | none =>
      cases moves : move setup j s action with
      | commit producer values =>
          obtain ⟨effects, other, -⟩ := move_commit moves
          cases made.symm.trans other
      | _ => rfl

theorem handled_concat (trace : (server setup).Trace actions s) (action : Server.Action) :
    handled setup j (actions ++ [action]) =
      handled setup j actions ++ (move setup j s action).settles (s.owes j) :=
  trace.history_snoc action fun s action => (move setup j s action).settles (s.owes j)

/-- What a step brings about for a task adds to what the task owes, and what it settles is taken off. -/
theorem trace_served (trace : (server setup).Trace actions s) (j : ConnectionId) (task : TaskId) :
    produced setup j actions task =
      Feed.ofProducer task (handled setup j actions) ++ s.owes j task := by
  refine trace.invariant (fun actions s => produced setup j actions task =
    Feed.ofProducer task (handled setup j actions) ++ s.owes j task) (by cases task <;> rfl) ?_
  intro actions s action s' trace served step
  have owes := (step_stepped step).owes (reachable_owned trace.reachable) j
  have balance := Feed.balanced (s.owes j) (move setup j s action) task
  rw [brings_move, ← owes] at balance
  unfold produced at served ⊢
  rw [trace.history_snoc, served, handled_concat trace, Feed.ofProducer_append, List.append_assoc,
    List.append_assoc]
  exact congrArg _ balance

theorem trace_encoded (trace : (server setup).Trace actions s) (j : ConnectionId) :
    List.Forall₂
      (fun entry batch => Encodes setup j (admissions setup j actions) entry.2 (.ok batch))
      (Attempt.taken (handled setup j actions)) (Outbound.batches (posted setup j actions)) := by
  refine trace.invariant (fun actions s => List.Forall₂
    (fun entry batch => Encodes setup j (admissions setup j actions) entry.2 (.ok batch))
    (Attempt.taken (handled setup j actions)) (Outbound.batches (posted setup j actions))) .nil ?_
  intro actions s action s' trace encoded step
  have admitted : admissions setup j (actions ++ [action]) =
      admissions setup j actions ++ admits j s action := trace.history_snoc action (admits j)
  have logged : posted setup j (actions ++ [action]) =
      posted setup j actions ++ posts setup j s action := trace.history_snoc action (posts setup j)
  rw [handled_concat trace, logged, Attempt.taken_append, Outbound.batches_append, admitted]
  exact List.rel_append (encoded.imp fun _ _ encodes => encodes.append _)
    ((settles_posts s action (trace_suits trace)).imp fun _ _ encodes => encodes.append _)

/-- A dispatch drops an event of a recipient that has no handle or no room, or that the event does not
    encode for. -/
theorem drops_for {listeners : List ListenerConfig} {task : TaskId} {dispatch : Dispatch} {event : Event}
    (held : s.dispatchOf task = some dispatch) (suits : Suits setup j listeners dispatch)
    (drops : dispatch.move setup.json s.runtime j task = .drop task)
    (first : (s.owes j task).head? = some event) :
    s.runtime.connections.lookup j = none ∨ ¬ s.runtime.HasRoom j ∨
      ∃ error, Encodes setup j listeners event (.error error) := by
  rw [owes_dispatchOf held] at first
  obtain ⟨deliveries, encodedByDialect, close, cursor⟩ := dispatch
  cases cursor with
  | next =>
      cases deliveries with
      | nil => cases drops
      | cons delivery rest =>
          obtain ⟨recipients, _⟩ := delivery
          cases recipients with
          | nil => cases drops
          | cons id recipients =>
              simp only [Dispatch.move] at drops
              split at drops
              · rename_i absent
                exact .inl (absent.1 ▸ absent.2)
              · cases drops
  | fetched | closing => cases drops
  | addressed id handle event' context =>
      by_cases here : id = j
      · subst here
        obtain rfl : event' = event := by
          simpa [Dispatch.eventsTo] using first
        obtain ⟨⟨coherent, -⟩, encodes⟩ := suits
        by_cases room : s.runtime.HasRoom id
        · refine .inr (.inr ?_)
          have encoded := coherent.encodeCached_fst handle.backend context
          cases made : handle.backend.encode setup.json context event' with
          | error error => exact ⟨error, made ▸ encodes rfl⟩
          | ok frames =>
              rw [made] at encoded
              simp [Dispatch.move, Dispatch.posts, Dispatch.message?, encoded, Except.map, room] at drops
        · exact .inr (.inl room)
      · simp [Dispatch.move, here] at drops

/-- An event is dropped in a section of the dispatch of the task that owes it. -/
theorem move_drop {task : TaskId} (drops : move setup j s action = .drop task) :
    ∃ dispatch, action = .dispatch task ∧ s.dispatchOf task = some dispatch ∧
      dispatch.move setup.json s.runtime j task = .drop task := by
  unfold move at drops
  split at drops
  · cases drops
  · cases action with
    | dispatch producer =>
        cases held : s.dispatchOf producer with
        | none => simp [held] at drops
        | some dispatch =>
            simp only [held, Option.elim_some] at drops
            have same : producer = task := by
              unfold Dispatch.move at drops
              split at drops
              · split at drops
                · exact Feed.Move.drop.inj drops
                · cases drops
              · split at drops
                · cases drops
                · split at drops
                  · exact Feed.Move.drop.inj drops
                  · cases drops
              · cases drops
            subst same
            exact ⟨dispatch, rfl, held, drops⟩
    | _ => cases drops

theorem handled_dropped {first last : List (Attempt (TaskId × Event))}
    {entry : Attempt (TaskId × Event)} (settled : handled setup j actions = first ++ entry :: last)
    (refused : entry.accepted = false) :
    ∃ before after mid, actions = before ++ .dispatch entry.message.1 :: after ∧
      (server setup).Trace before mid ∧ handled setup j before = first ∧
      (mid.owes j entry.message.1).head? = some entry.message.2 ∧
      (mid.runtime.connections.lookup j = none ∨ ¬ mid.runtime.HasRoom j ∨
        ∃ error, Encodes setup j (admissions setup j actions) entry.message.2 (.error error)) := by
  obtain ⟨before, action, after, mid, first', last', split, ran, moved, earlier⟩ :=
    Machine.history_split settled
  -- the section settles nothing before the entry
  obtain rfl := Feed.settles_alone moved
  rw [List.append_nil] at earlier
  have settles : entry ∈ (move setup j mid action).settles (mid.owes j) := by simp [moved]
  obtain ⟨drops, owed⟩ := Feed.dropped_settles settles refused
  obtain ⟨dispatch, rfl, held, dropped⟩ := move_drop drops
  have admitted : admissions setup j actions = admissions setup j before ++
      (server setup).history (admits j) mid (.dispatch entry.message.1 :: after) := by
    rw [admissions, split]
    exact Machine.history_append ran
  refine ⟨before, after, mid, split, ran, earlier.symm, owed, ?_⟩
  obtain absent | full | ⟨error, encodes⟩ := drops_for held ((trace_suits ran).of held) dropped owed
  · exact .inl absent
  · exact .inr (.inl full)
  · exact .inr (.inr ⟨error, admitted ▸ encodes.append _⟩)

/-- While its writer goes on, what was enqueued for `j` is written, with the writer, or queued. -/
theorem trace_conveyed (trace : (server setup).Trace actions s) {mailbox : Channel Outbound}
    {writer : Writer} (found : s.runtime.mailboxes.lookup j = some mailbox)
    (stored : s.writers.lookup j = some writer) (goes : writer.stage ≠ .finished) :
    written setup j actions ++ writer.stage.holds ++ (Outbound.batches mailbox.queue).flatten =
      (Outbound.batches (posted setup j actions)).flatten := by
  have conveys := trace_conveys (j := j) trace
  have opened : s.lane j = ⟨some mailbox, some writer⟩ := by simp [lane, found, stored]
  rw [opened] at conveys
  obtain ⟨carries, wrote⟩ := conveys
  have whole : written setup j actions ++ writer.stage.holds =
      (Outbound.batches (taken setup j actions)).flatten := by
    obtain ⟨maxFrameBytes, stage⟩ := writer
    cases stage with
    | receiving => exact (List.append_nil _).trans wrote
    | sending frames => exact wrote
    | finished => exact absurd rfl goes
  rw [whole, carries, Outbound.batches_append, List.flatten_append]

/-- A server at rest owes nobody anything. -/
theorem AtRest.owes (rest : s.AtRest) (j : ConnectionId) (task : TaskId) : s.owes j task = [] := by
  cases task with
  | maintenance => simp [Server.owes, rest.maintenance]
  | connection id =>
      cases found : s.tasks.lookup id with
      | none => simp [Server.owes, found]
      | some task => simp [Server.owes, found, rest.tasks id task found, stageOwes]

/-- In every run, every event that is brought about for a connection is accounted for: nothing is lost
    but what is dropped for a reason, and nothing is delivered twice. -/
theorem deliveries_accounted (setup : Setup) (actions : List Server.Action) (s : Server)
    (trace : (server setup).Trace actions s) (j : ConnectionId) : Accounted setup actions s j where
  admitted := (trace_lodged trace).once
  served := trace_served trace j
  encoded := trace_encoded trace j
  dropped _ _ _ := handled_dropped
  conveyed _ _ := trace_conveyed trace
  rest rest := by
    refine ⟨rest.owes j, fun writer stored goes => ?_⟩
    obtain ended | ⟨waits, mailbox, found, empty⟩ := rest.writers j writer stored
    · exact absurd ended goes
    · have conveyed := trace_conveyed trace found stored goes
      simpa [waits, WriterStage.holds, empty] using conveyed

set_option maxRecDepth 8000 in
/-- The first pilot is welcomed, and then told of the second by the task of the second. -/
theorem deliveries_accounted_companions :
    ∃ s, (server (Sample.setup 8)).Trace Sample.companions s ∧
      (handled (Sample.setup 8) ⟨1⟩ Sample.companions).map
          (fun entry => (entry.message.1, entry.accepted)) =
        [(.connection ⟨1⟩, true), (.connection ⟨2⟩, true)] ∧
      produced (Sample.setup 8) ⟨1⟩ Sample.companions (.connection ⟨2⟩) =
        Feed.ofProducer (.connection ⟨2⟩) (handled (Sample.setup 8) ⟨1⟩ Sample.companions) ++
          s.owes ⟨1⟩ (.connection ⟨2⟩) := by
  have trace := (server (Sample.setup 8)).trace_final Sample.companions (by decide)
  exact ⟨_, trace, by decide, (deliveries_accounted (Sample.setup 8) _ _ trace ⟨1⟩).served _⟩

end Server

end AsterFsd
