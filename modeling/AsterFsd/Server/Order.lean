import AsterFsd.Server.Lodging
import Mathlib.Data.List.Forall2

/-! # The order of deliveries

A task dispatches effects after the core has released its lock, so what different tasks commit for the
same recipient may reach its mailbox in another order. A batch is overtaken only while it is still to be
delivered, and what one task commits stays in order. An announcement can be overtaken by another about
the same callsign, and then the recipient ends up with the wrong view of that callsign, but of no other.
-/

namespace AsterFsd

/-- The event announces that the callsign comes or leaves. -/
def Event.tells (k : Callsign) (event : Event) : Bool := event.notice.any (·.key = k)

/-- The announcements of some events about a callsign are those of the events that tell of it. -/
theorem filter_notices {α : Type} (k : Callsign) (event : α → Event) (items : List α) :
    (items.filterMap fun item => (event item).notice).filter (·.key = k) =
      (items.filter fun item => (event item).tells k).filterMap fun item => (event item).notice := by
  induction items with
  | nil => rfl
  | cons item items ih =>
      cases said : (event item).notice with
      | none => simpa [List.filter_cons, Event.tells, said] using ih
      | some notice =>
          by_cases about : notice.key = k
          · simpa [List.filter_cons, Event.tells, said, about] using ih
          · simpa [List.filter_cons, Event.tells, said, about] using ih

namespace Server

variable {setup : Setup} {s s' : Server} {action : Server.Action} {j : ConnectionId}

/-! ## Announcements -/

/-- The announcements that a step commits for a recipient. -/
def notices : Feed.Move TaskId Event → List (Notice Callsign)
  | .commit _ values => values.filterMap Event.notice
  | _ => []

/-- The announcement that a step puts into the mailbox of `j`. -/
def heard (setup : Setup) (j : ConnectionId) (s : Server) (action : Server.Action) :
    List (Notice Callsign) :=
  match move setup j s action with
  | .enqueue task => (s.owes j task).head?.toList.filterMap Event.notice
  | _ => []

theorem notices_dispatch (task : TaskId) : notices (move setup j s (.dispatch task)) = [] := by
  cases held : s.dispatchOf task with
  | none => simp [move, produces, held, notices]
  | some dispatch =>
      rw [move_dispatch held]
      cases moves : dispatch.move setup.json s.runtime j task with
      | commit producer values => exact absurd moves Dispatch.move_ne_commit
      | _ => rfl

/-- The announcements of a step are those among the effects it brings about. -/
theorem notices_move (s : Server) (action : Server.Action) :
    notices (move setup j s action) = noticesTo j (s.effects setup action).deliveries := by
  unfold move effects
  cases made : s.produces setup action with
  | some made => simp [notices, filterMap_eventsTo]
  | none =>
      cases action with
      | dispatch task =>
          have silent : notices (move setup j s (.dispatch task)) = [] := notices_dispatch task
          rw [move, made] at silent
          exact silent
      | _ => rfl

/-- The announcements of a step are those that the core commits in it. -/
theorem Stepped.notices_committed (stepped : Stepped setup s action s') (j : ConnectionId) :
    s'.world = s.world ∧ notices (move setup j s action) = [] ∨
      ∃ moved, s.world.step setup.core moved = some s'.world ∧
        notices (move setup j s action) =
          noticesTo j (s.world.committed setup.core moved).deliveries := by
  obtain ⟨same, quiet⟩ | ⟨moved, step, commits⟩ := stepped.effects
  · refine .inl ⟨same, ?_⟩
    obtain none_ | ⟨context, error, refused⟩ := quiet
    · rw [notices_move, none_]
      rfl
    · rw [notices_move, refused]
      simp [noticesTo, decodeErrorEffects, Event.notice]
  · exact .inr ⟨moved, step, by rw [notices_move, commits]⟩

/-- What a step announces to an active session is what it changes for the others. -/
theorem Stepped.others (stepped : Stepped setup s action s') (reach : (server setup).Reachable s)
    (active : s.world.state.isActive j = true) :
    Notice.follow (s.world.state.others j) (notices (move setup j s action)) =
      s'.world.state.others j := by
  obtain ⟨same, none_⟩ | ⟨moved, step, told⟩ := stepped.notices_committed j
  · rw [same, none_, Notice.follow_nil]
  · rw [told]
    exact (step_follows (reachable_world reach) step active).2

/-- Only sessions that were active before the step are told its announcements. -/
theorem Stepped.told (stepped : Stepped setup s action s') (reach : (server setup).Reachable s)
    (told : notices (move setup j s action) ≠ []) : s.world.state.isActive j = true := by
  obtain ⟨-, none_⟩ | ⟨moved, step, same⟩ := stepped.notices_committed j
  · exact absurd none_ told
  · exact step_told (reachable_world reach) step (same ▸ told)

/-- The session of the connection has been removed. -/
def Gone (s : Server) (j : ConnectionId) : Prop :=
  j ∈ s.world.registered ∧ s.world.state.sessions.lookup j = none

theorem Stepped.gone (stepped : Stepped setup s action s') (gone : s.Gone j) : s'.Gone j := by
  obtain same | ⟨moved, step⟩ := stepped.world
  · exact ⟨same ▸ gone.1, same ▸ gone.2⟩
  · exact ⟨World.step_registered step gone.1, World.step_gone step gone.1 gone.2⟩

/-! ## Runs -/

section Runs

variable (setup) (j) (actions : List Server.Action)

/-- What the steps of the run do to the mailbox of `j`. -/
def moves : List (Feed.Move TaskId Event) :=
  (server setup).history (fun s action => [move setup j s action]) (server setup).init actions

/-- The events put into the mailbox of `j`, the oldest first, each with the task that dispatched it and
    the step that brought it about. -/
def mailbox : List (Item TaskId Event) := (Feed.run (moves setup j actions)).queue

/-- The events for `j` that were dropped. -/
def dropped : List (Item TaskId Event) := (Feed.run (moves setup j actions)).dropped

/-- The announcements committed for `j`. -/
def announced : List (Notice Callsign) :=
  (Feed.committed (moves setup j actions)).filterMap (·.value.notice)

/-- The announcements put into the mailbox of `j`. -/
def told : List (Notice Callsign) := (mailbox setup j actions).filterMap (·.value.notice)

/-- The events that the steps of the run brought about for `j` and this task to dispatch. -/
def produced (task : TaskId) : List Event :=
  (server setup).history (fun s action =>
    match s.produces setup action with
    | some (producer, effects) => if producer = task then eventsTo j effects.deliveries else []
    | none => []) (server setup).init actions

/-- The view of `j` over the run: it starts with the callsigns in use when `j` logs in, and follows the
    announcements in the order in which they are put into its mailbox. -/
def mailboxView : Set Callsign :=
  (server setup).foldAlong (fun s action s' view =>
    if s.world.state.isActive j then Notice.follow view (heard setup j s action)
    else s'.world.state.others j) (server setup).init ∅ actions

end Runs

/-- A move that commits an event that tells of `k` does so only while no other task owes `j` one. -/
def Solitary (s : Server) (j : ConnectionId) (k : Callsign) : Feed.Move TaskId Event → Prop
  | .commit task values => values.any (·.tells k) = true →
      ∀ other, other ≠ task → (s.owes j other).any (·.tells k) = false
  | _ => True

/-- An announcement about `k` for `j` is committed only while no other task owes `j` one. -/
def InTurn (setup : Setup) (j : ConnectionId) (k : Callsign) (s : Server) (action : Server.Action) :
    Prop := s.Solitary j k (move setup j s action)

variable {actions : List Server.Action}

/-- The feed of a run owes what the tasks owe. -/
theorem trace_owes (trace : (server setup).Trace actions s) (j : ConnectionId) :
    (fun task => ((Feed.run (moves setup j actions)).owed task).map Item.value) = s.owes j := by
  refine trace.invariant (fun actions s =>
    (fun task => ((Feed.run (moves setup j actions)).owed task).map Item.value) = s.owes j) ?_ ?_
  · funext task
    cases task <;> rfl
  · intro actions s action s' trace held step
    have stepped := step_stepped step
    unfold moves at held ⊢
    rw [trace.history_snoc, Feed.run_concat, Feed.values_step, held,
      stepped.owes (reachable_owned trace.reachable) j]

/-- The items of a run that one task committed are what its steps brought about. -/
theorem committed_produced (trace : (server setup).Trace actions s) (j : ConnectionId)
    (task : TaskId) :
    ((Feed.committed (moves setup j actions)).filter (·.producer = task)).map Item.value =
      produced setup j actions task := by
  refine trace.invariant (fun actions _ =>
    ((Feed.committed (moves setup j actions)).filter (·.producer = task)).map Item.value =
      produced setup j actions task) rfl ?_
  intro actions s action s' trace held step
  unfold moves produced at held ⊢
  rw [trace.history_snoc, trace.history_snoc, Feed.committed_concat, List.filter_append,
    List.map_append, held]
  congr 1
  cases made : s.produces setup action with
  | some made_ =>
      obtain ⟨producer, effects⟩ := made_
      have commits : move setup j s action = .commit producer (eventsTo j effects.deliveries) := by
        simp [move, made]
      rw [commits, Feed.values_commit]
  | none =>
      cases moves : move setup j s action with
      | commit producer values =>
          obtain ⟨effects, other, -⟩ := move_commit moves
          cases made.symm.trans other
      | _ => rfl

theorem mailbox_concat (trace : (server setup).Trace actions s) (j : ConnectionId)
    (action : Server.Action) : mailbox setup j (actions ++ [action]) =
      ((Feed.run (moves setup j actions)).step (move setup j s action)).queue := by
  unfold mailbox moves
  rw [trace.history_snoc, Feed.run_concat]

/-- What a step enqueues for `j` is encoded to the batch that it posts. -/
theorem settles_posts {listeners : List ListenerConfig} (s : Server) (action : Server.Action)
    (each : s.EachDispatch (Suits setup j listeners)) :
    List.Forall₂ (fun entry batch => Encodes setup j listeners entry.2 (.ok batch))
      (Attempt.taken ((move setup j s action).settles (s.owes j)))
      (Outbound.batches (posts setup j s action)) := by
  cases action with
  | dispatch task =>
      cases held : s.dispatchOf task with
      | none =>
          have idle : move setup j s (.dispatch task) = .idle := by simp [move, produces, held]
          have silent : posts setup j s (.dispatch task) = [] := by simp [posts, held]
          rw [idle, silent]
          exact .nil
      | some dispatch =>
          have posted : posts setup j s (.dispatch task) = dispatch.posts setup.json s.runtime j := by
            simp [posts, held]
          rw [posted, move_dispatch held]
          obtain ⟨handle, event, context, frames, cursor, enqueues, batches, encoded⟩ | ⟨quiet, none_⟩ :=
            dispatch.batches_move setup.json s.runtime j task
          · have owes : s.owes j task = event :: eventsTo j dispatch.deliveries := by
              rw [owes_dispatchOf held]
              simp [Dispatch.eventsTo, cursor]
            have taken : Attempt.taken ((Feed.Move.enqueue task).settles (s.owes j)) = [(task, event)] := by
              simp [Feed.Move.settles, owes, Attempt.taken]
            rw [enqueues, batches, taken]
            refine .cons ?_ .nil
            have suits := each.of held
            simp only [Suits, cursor, Dispatch.Coherent] at suits
            obtain ⟨⟨coherent, -⟩, encodes⟩ := suits
            rw [coherent.encodeCached_fst] at encoded
            exact encoded ▸ encodes trivial
          · rw [Feed.taken_settles quiet, none_]
            exact .nil
  | _ =>
      rw [Feed.taken_settles]
      · exact .nil
      · intro task
        unfold move
        split
        · exact fun same => by cases same
        · exact fun same => by cases same

/-- An event in the mailbox of a connection stands for a batch there, the frames that it is encoded to in
    the dialect of the connection. -/
theorem trace_carried (trace : (server setup).Trace actions s) (j : ConnectionId) :
    List.Forall₂ (fun item batch => Encodes setup j (admissions setup j actions) item.value (.ok batch))
      (mailbox setup j actions) (Outbound.batches (posted setup j actions)) := by
  refine List.forall₂_map_left_iff.mp (trace.invariant (fun actions _ => List.Forall₂
    (fun event batch => Encodes setup j (admissions setup j actions) event (.ok batch))
    ((mailbox setup j actions).map Item.value) (Outbound.batches (posted setup j actions))) .nil ?_)
  intro actions s action s' trace carried step
  have logged : posted setup j (actions ++ [action]) =
      posted setup j actions ++ posts setup j s action := trace.history_snoc action (posts setup j)
  have admitted : admissions setup j (actions ++ [action]) =
      admissions setup j actions ++ admits j s action := trace.history_snoc action (admits j)
  have settled := settles_posts s action (trace_suits (j := j) trace)
  rw [mailbox_concat trace, Feed.values_queue, trace_owes trace, logged, Outbound.batches_append, admitted]
  exact List.rel_append (carried.imp fun _ _ encodes => encodes.append _)
    (List.forall₂_map_left_iff.mpr (settled.imp fun _ _ encodes => encodes.append _))

/-! ## The view of a recipient -/

theorem announced_concat (trace : (server setup).Trace actions s) (j : ConnectionId)
    (action : Server.Action) : announced setup j (actions ++ [action]) =
      announced setup j actions ++ notices (move setup j s action) := by
  unfold announced moves
  rw [trace.history_snoc, Feed.committed_concat, List.filterMap_append]
  refine congrArg _ ?_
  cases move setup j s action with
  | commit task values => simp [Feed.Move.commits, notices, List.filterMap_map]
  | _ => rfl

theorem told_concat (trace : (server setup).Trace actions s) (j : ConnectionId)
    (action : Server.Action) : told setup j (actions ++ [action]) =
      told setup j actions ++ heard setup j s action := by
  unfold told heard
  rw [mailbox_concat trace]
  cases move setup j s action with
  | enqueue task =>
      have owes := congrFun (trace_owes trace j) task
      simp only [Feed.step, List.filterMap_append, ← owes, mailbox]
      cases (Feed.run (moves setup j actions)).owed task <;> rfl
  | _ => exact (List.append_nil _).symm

/-- Nothing is put into a mailbox but what was committed for it. -/
theorem told_nil (none_ : announced setup j actions = []) : told setup j actions = [] :=
  List.filterMap_eq_nil_iff.mpr fun item member =>
    List.filterMap_eq_nil_iff.mp none_ item (Feed.queue_committed member)

/-- Announcements are committed only for sessions that are active or have been removed. -/
theorem announced_active (trace : (server setup).Trace actions s)
    (some_ : announced setup j actions ≠ []) : s.world.state.isActive j = true ∨ s.Gone j := by
  refine trace.invariant (fun actions s => announced setup j actions ≠ [] →
    s.world.state.isActive j = true ∨ s.Gone j) (absurd rfl) ?_ some_
  intro actions s action s' trace held step some_
  have stepped := step_stepped step
  have before : s.world.state.isActive j = true ∨ s.Gone j := by
    by_cases old : announced setup j actions = []
    · rw [announced_concat trace, old, List.nil_append] at some_
      exact .inl (stepped.told trace.reachable some_)
    · exact held old
  obtain active | gone := before
  · obtain same | ⟨moved, step⟩ := stepped.world
    · exact .inl (same ▸ active)
    · obtain still | removed := step_active step active
      · exact .inl still
      · obtain ⟨own, stored, -⟩ := isActive_iff.mp active
        have known : j ∈ s.world.registered :=
          reachable_registered (reachable_world trace.reachable) stored
        exact .inr ⟨World.step_registered step known, removed⟩
  · exact .inr (stepped.gone gone)

/-- The callsigns of the others follow what is committed for an active session, and its view follows what
    is put into its mailbox, both from the callsigns in use when it logged in. -/
theorem view_follows (trace : (server setup).Trace actions s)
    (active : s.world.state.isActive j = true) : ∃ view,
      mailboxView setup j actions = Notice.follow view (told setup j actions) ∧
      s.world.state.others j = Notice.follow view (announced setup j actions) := by
  refine trace.invariant (fun actions s => s.world.state.isActive j = true → ∃ view,
    mailboxView setup j actions = Notice.follow view (told setup j actions) ∧
      s.world.state.others j = Notice.follow view (announced setup j actions)) (fun active => ?_) ?_
    active
  · cases active
  intro actions s action s' trace held step active'
  have stepped := step_stepped step
  have view' : mailboxView setup j (actions ++ [action]) =
      if s.world.state.isActive j then
        Notice.follow (mailboxView setup j actions) (heard setup j s action)
      else s'.world.state.others j := Machine.foldAlong_concat trace step
  by_cases active : s.world.state.isActive j = true
  · obtain ⟨view, hears, follows⟩ := held active
    refine ⟨view, ?_, ?_⟩
    · rw [view', if_pos active, hears, told_concat trace, Notice.follow_append]
    · rw [← stepped.others trace.reachable active, follows, announced_concat trace,
        Notice.follow_append]
  · -- `j` logs in with this step: nothing was committed for it before, and the step tells it nothing.
    have before : announced setup j actions = [] := by
      by_contra some_
      obtain now | gone := announced_active trace some_
      · exact active now
      · obtain ⟨session, stored, -⟩ := isActive_iff.mp active'
        cases (stepped.gone gone).2.symm.trans stored
    have quiet : notices (move setup j s action) = [] := by
      by_contra some_
      exact active (stepped.told trace.reachable some_)
    have none_ : announced setup j (actions ++ [action]) = [] := by
      rw [announced_concat trace, before, quiet]
      rfl
    exact ⟨s'.world.state.others j, by rw [view', if_neg active, told_nil none_]; rfl,
      by rw [none_]; rfl⟩

/-- Where no announcement about a callsign is owed, dropped or overtaken by another, the view has the
    callsign exactly if the others do. -/
theorem mem_mailboxView (trace : (server setup).Trace actions s) {k : Callsign}
    (order : ∀ x y, [x, y].Sublist (mailbox setup j actions) → x.value.tells k = true →
      y.value.tells k = true → x.commit ≤ y.commit)
    (kept : ∀ x ∈ dropped setup j actions, x.value.tells k = false)
    (settled : ∀ task, (s.owes j task).any (·.tells k) = false)
    (active : s.world.state.isActive j = true) :
    k ∈ mailboxView setup j actions ↔ k ∈ s.world.state.others j := by
  have same : (mailbox setup j actions).filter (·.value.tells k) =
      (Feed.committed (moves setup j actions)).filter (·.value.tells k) := by
    refine Feed.queue_eq_committed (fun task item owed => ?_) kept ?_
    · have owes := congrFun (trace_owes trace j) task
      have quiet := List.any_eq_false.mp (owes ▸ settled task) item.value (List.mem_map_of_mem owed)
      exact Bool.eq_false_iff.mpr quiet
    · refine List.pairwise_iff_forall_sublist.mpr fun {x y} both => ?_
      have tells : ∀ item ∈ [x, y], item.value.tells k = true :=
        fun item member => (List.mem_filter.mp (both.subset member)).2
      exact order x y (both.trans List.filter_sublist) (tells x (by simp)) (tells y (by simp))
  obtain ⟨view, hears, follows⟩ := view_follows trace active
  rw [hears, follows, Notice.mem_follow_filter, Notice.mem_follow_filter view (announced ..), told,
    announced, filter_notices, filter_notices, same]

/-! ## The order -/

/-- What can be said of the order in which the dispatches of different tasks reach the mailbox of `j`. -/
structure Ordered (setup : Setup) (actions : List Server.Action) (s : Server) (j : ConnectionId) :
    Prop where
  /-- The mailbox holds the events whose batches were enqueued, in that order. -/
  carried : List.Forall₂
    (fun item batch => Encodes setup j (admissions setup j actions) item.value (.ok batch))
    (mailbox setup j actions) (Outbound.batches (posted setup j actions))
  /-- Each event was committed by its task in the step that its mark names. -/
  committed : ∀ x ∈ mailbox setup j actions, ∃ before action after mid effects,
    actions = before ++ action :: after ∧ before.length = x.commit ∧ (server setup).Trace before mid ∧
      mid.produces setup action = some (x.producer, effects) ∧
      x.value ∈ eventsTo j effects.deliveries
  /-- An event is overtaken only by events that another task committed while it was owed. -/
  overtaken : ∀ x y, [x, y].Sublist (mailbox setup j actions) → y.commit < x.commit →
    y.producer ≠ x.producer ∧ ∀ before after mid, actions = before ++ after →
      before.length = x.commit → (server setup).Trace before mid → y.value ∈ mid.owes j y.producer
  /-- What one task enqueues is in the order of its commits and of their effects. -/
  ordered : ∀ task, (((mailbox setup j actions).filter (·.producer = task)).map Item.value).Sublist
    (produced setup j actions task)
  /-- Announcements about one callsign do not overtake each other when each is committed only while no
      other task owes one. -/
  inTurn : ∀ k, (server setup).Along (InTurn setup j k) (server setup).init actions →
    ∀ x y, [x, y].Sublist (mailbox setup j actions) → x.value.tells k = true →
      y.value.tells k = true → x.commit ≤ y.commit
  /-- When those about a callsign have not overtaken each other and none of them is dropped or still owed,
      the view of `j` has the callsign exactly if it is in use by another client. -/
  learns : ∀ k, (∀ x y, [x, y].Sublist (mailbox setup j actions) → x.value.tells k = true →
      y.value.tells k = true → x.commit ≤ y.commit) →
    (∀ x ∈ dropped setup j actions, x.value.tells k = false) →
    (∀ task, (s.owes j task).any (·.tells k) = false) →
    ∀ session presence, s.world.state.ActiveAs j session presence →
      (k ∈ mailboxView setup j actions ↔
        k ∈ s.world.state.callsigns ∧ k ≠ presence.callsign)

theorem trace_committed (trace : (server setup).Trace actions s) {x : Item TaskId Event}
    (member : x ∈ mailbox setup j actions) : ∃ before action after mid effects,
      actions = before ++ action :: after ∧ before.length = x.commit ∧
        (server setup).Trace before mid ∧ mid.produces setup action = some (x.producer, effects) ∧
        x.value ∈ eventsTo j effects.deliveries := by
  obtain ⟨values, found, named⟩ := Feed.mem_committed.mp (Feed.queue_committed member)
  obtain ⟨before, action, after, mid, split, length, ran, commits⟩ :=
    (Machine.history_getElem? trace).mp found
  obtain ⟨effects, made, rfl⟩ := move_commit commits
  exact ⟨before, action, after, mid, effects, split, length, ran, made, named⟩

theorem trace_overtaken {x y : Item TaskId Event}
    (before : [x, y].Sublist (mailbox setup j actions)) (later : y.commit < x.commit) :
    y.producer ≠ x.producer ∧ ∀ prior after mid, actions = prior ++ after →
      prior.length = x.commit → (server setup).Trace prior mid → y.value ∈ mid.owes j y.producer := by
  constructor
  · intro same
    exact absurd (Feed.same_producer before same.symm) (Nat.not_le_of_lt later)
  · intro prior after mid split length ran
    have owed := Feed.overtaken before later
    have moved : (moves setup j actions).take x.commit = moves setup j prior := by
      have taken : actions.take x.commit = prior := by
        rw [split, ← length, List.take_left]
      rw [moves, Machine.history_take, taken]
      rfl
    rw [moved] at owed
    have owes := congrFun (trace_owes ran j) y.producer
    rw [← owes]
    exact List.mem_map_of_mem owed

/-- In every run of the server and for every connection, a batch is overtaken in the mailbox only by
    batches that another task committed while it was still to be delivered; what one task commits stays
    in order; and the view of a callsign is exact unless announcements about this callsign overtook each
    other, which takes two tasks that have one at the same time. -/
theorem deliveries_ordered (setup : Setup) (actions : List Server.Action) (s : Server)
    (trace : (server setup).Trace actions s) (j : ConnectionId) : Ordered setup actions s j where
  carried := trace_carried trace j
  committed _ := trace_committed trace
  overtaken _ _ := trace_overtaken
  ordered task := by
    rw [← committed_produced trace j task]
    exact (((List.sublist_append_left _ _).trans
      (Feed.handed_over (moves setup j actions) task))).map Item.value
  inTurn k turns x y before tells tells' := by
    by_contra later
    obtain ⟨apart, owed⟩ := trace_overtaken before (Nat.lt_of_not_le later)
    obtain ⟨prior, action, after, mid, effects, split, length, ran, made, named⟩ :=
      trace_committed trace (before.subset List.mem_cons_self)
    -- `y` was owed by another task when `x` was committed
    have turn := Machine.along_iff.mp turns prior action after mid split ran
    have commits : move setup j mid action = .commit x.producer (eventsTo j effects.deliveries) := by
      simp [move, made]
    rw [InTurn, commits] at turn
    have quiet := turn (List.any_eq_true.mpr ⟨x.value, named, tells⟩) y.producer apart
    exact List.any_eq_false.mp quiet y.value (owed prior (action :: after) mid split length ran) tells'
  learns k order kept settled session presence active := by
    have isActive : s.world.state.isActive j = true := isActive_iff.mpr ⟨session, active.1, active.2.1⟩
    rw [mem_mailboxView trace order kept settled isActive,
      others_eq (reachable_consistent (reachable_world trace.reachable)) active]
    rfl

/-! ## An overtaking -/

/-- Only tasks that there are owe anything. -/
theorem owes_none {task : TaskId} (absent : ∀ id, task = .connection id → id ∉ s.tasks.keys)
    (other : task ≠ .maintenance) : s.owes j task = [] := by
  cases task with
  | maintenance => exact absurd rfl other
  | connection id => simp [owes, AList.lookup_eq_none.mpr (absent id rfl)]

instance decidableSettled (s : Server) (j : ConnectionId) (k : Callsign) (But : TaskId → Prop)
    [DecidablePred But] :
    Decidable (∀ task, ¬ But task → (s.owes j task).any (·.tells k) = false) :=
  decidable_of_iff
    (∀ task ∈ TaskId.maintenance :: s.tasks.keys.map TaskId.connection, ¬ But task →
      (s.owes j task).any (·.tells k) = false) (by
      refine ⟨fun listed task other => ?_, fun all task _ => all task⟩
      by_cases known : task ∈ TaskId.maintenance :: s.tasks.keys.map TaskId.connection
      · exact listed task known other
      · rw [List.mem_cons, not_or] at known
        rw [owes_none (fun id same stored => known.2 (List.mem_map.mpr ⟨id, stored, same.symm⟩)) known.1]
        rfl)

instance decidableOwesNone (s : Server) (j : ConnectionId) (k : Callsign) :
    Decidable (∀ task, (s.owes j task).any (·.tells k) = false) :=
  decidable_of_iff (∀ task, ¬ False → (s.owes j task).any (·.tells k) = false)
    (forall_congr' fun _ => forall_prop_of_true not_false)

instance decidableSolitary (s : Server) (j : ConnectionId) (k : Callsign) :
    ∀ move, Decidable (s.Solitary j k move)
  | .commit task values =>
      inferInstanceAs (Decidable (values.any (·.tells k) = true →
        ∀ other, ¬ other = task → (s.owes j other).any (·.tells k) = false))
  | .idle | .enqueue _ | .drop _ => isTrue trivial

instance decidableInTurn (setup : Setup) (j : ConnectionId) (k : Callsign) (s : Server)
    (action : Server.Action) : Decidable (InTurn setup j k s action) :=
  decidableSolitary s j k _

end Server

namespace Sample

/-- Two pilots log in, and the second is announced to the first. -/
def companions : List Server.Action :=
  connecting ⟨1⟩ ++ loggingIn ⟨1⟩ "AFR12" ++ sections 5 (.connection ⟨1⟩) ++
    connecting ⟨2⟩ ++ loggingIn ⟨2⟩ "BAW34" ++ sections 9 (.connection ⟨2⟩)

/-- The second pilot logs off and logs in again on another connection. The new login is dispatched
    before the old connection dispatches the logoff. -/
def relogin : List Server.Action :=
  companions ++ [.frame ⟨2⟩ (Text.bytes "#DPBAW34:1000"), .lock ⟨2⟩] ++
    connecting ⟨3⟩ ++ loggingIn ⟨3⟩ "BAW34" ++ sections 9 (.connection ⟨3⟩) ++
    [.executed ⟨2⟩] ++ sections 6 (.connection ⟨2⟩)

end Sample

namespace Server

set_option maxRecDepth 8000 in
/-- The logoff is committed before the login and enqueued after it: the first pilot ends up without a
    callsign that is in use. -/
theorem relogin_overtakes : ∃ s, (server (Sample.setup 8)).Trace Sample.relogin s ∧
    (∀ attempt ∈ offered (Sample.setup 8) ⟨1⟩ Sample.relogin, attempt.accepted = true) ∧
    (s.maintenance.isNone && s.tasks.values.all (·.dispatch?.isNone)) = true ∧
    ¬ (mailbox (Sample.setup 8) ⟨1⟩ Sample.relogin).Pairwise (·.commit ≤ ·.commit) ∧
    Sample.otherCallsign ∈ s.world.state.callsigns ∧
    ∀ view, Sample.otherCallsign ∉ Notice.follow view
      ((mailbox (Sample.setup 8) ⟨1⟩ Sample.relogin).filterMap (·.value.notice)) := by
  have checked : ((server (Sample.setup 8)).run {} Sample.relogin).any (fun s =>
      (s.maintenance.isNone && s.tasks.values.all (·.dispatch?.isNone)) &&
        decide (Sample.otherCallsign ∈ s.world.state.callsigns)) = true := by decide +kernel
  have log : (mailbox (Sample.setup 8) ⟨1⟩ Sample.relogin).map
      (fun item => (item.commit, item.value.notice)) =
        [(7, none), (21, some (.joined Sample.otherCallsign)),
          (41, some (.joined Sample.otherCallsign)), (33, some (.left Sample.otherCallsign))] := by
    decide +kernel
  obtain ⟨s, trace, ends⟩ := (Option.any_eq_true _ _).mp checked
  obtain ⟨done, listed⟩ := Bool.and_eq_true_iff.mp ends
  refine ⟨s, trace, by decide +kernel, done, fun sorted => ?_, of_decide_eq_true listed, fun view => ?_⟩
  · have marks : ((mailbox (Sample.setup 8) ⟨1⟩ Sample.relogin).map
        (fun item => (item.commit, item.value.notice))).Pairwise (·.1 ≤ ·.1) :=
      List.pairwise_map.mpr sorted
    rw [log] at marks
    revert marks
    decide
  · have told : (mailbox (Sample.setup 8) ⟨1⟩ Sample.relogin).filterMap (·.value.notice) =
        ((mailbox (Sample.setup 8) ⟨1⟩ Sample.relogin).map
          (fun item => (item.commit, item.value.notice))).filterMap (·.2) := by
      rw [List.filterMap_map]
      rfl
    rw [told, log]
    simp [Notice.apply]

set_option maxRecDepth 8000 in
/-- The first pilot has learnt of the second. -/
theorem deliveries_ordered_companions :
    ∃ s, (server (Sample.setup 8)).Trace Sample.companions s ∧
      Sample.otherCallsign ∈ mailboxView (Sample.setup 8) ⟨1⟩ Sample.companions := by
  have trace := (server (Sample.setup 8)).trace_final Sample.companions (by decide)
  have found := (Option.some_get (x := ((server (Sample.setup 8)).final Sample.companions
    (by decide)).world.state.sessions.lookup ⟨1⟩) (by decide)).symm
  have ordered := deliveries_ordered (Sample.setup 8) _ _ trace ⟨1⟩
  have learns := ordered.learns Sample.otherCallsign
    (ordered.inTurn Sample.otherCallsign (by decide)) (by decide) (by decide) _
    (Network.loginPresence { Sample.login with simulatorType := some 1 } Sample.identity)
    ⟨found, by decide, by decide⟩
  exact ⟨_, trace, learns.mpr (by decide)⟩

end Server

end AsterFsd
