import AsterFsd.Server.Lodging
import AsterFsd.Server.Mailboxes

/-! # Silent gaps

A batch that a mailbox refuses, or that does not encode, is dropped and the connection is cancelled. The
cancellation only triggers a token: until the reader notices it and removes the handle, dispatches go on
offering batches, and a writer that frees a slot in between lets one through. What the client reads then
has a hole. Between a drop and a later offer, only the messages that the writer takes free a slot, and
only the close messages that kills send take one.
-/

namespace AsterFsd

namespace Outbound

/-- How many of the messages are closes. -/
def closes (messages : List Outbound) : Nat := messages.count .close

theorem length_eq_closes {messages : List Outbound} (none_ : batches messages = []) :
    messages.length = closes messages := by
  induction messages with
  | nil => rfl
  | cons message messages ih =>
      cases message with
      | frames batch => cases none_
      | close =>
          have rest : batches messages = [] := none_
          simp [closes, ih rest]

end Outbound

namespace Server

variable {setup : Setup} {s t : Server} {j : ConnectionId}
  {actions before between : List Server.Action}

/-! ## Offers and drops -/

/-- What the task has for `j` in its next section, encoded by the backend of the handle it holds. -/
def holding (setup : Setup) (j : ConnectionId) (s : Server) (task : TaskId) : Option Batch :=
  (s.dispatchOf task).bind fun dispatch =>
    match dispatch.cursor with
    | .addressed id handle event context =>
        if id = j then some (handle.backend.encode setup.json context event) else none
    | _ => none

/-- The task has an event for `j` that encodes. -/
def Offers (setup : Setup) (j : ConnectionId) (s : Server) (task : TaskId) : Prop :=
  ∃ frames, holding setup j s task = some (.ok frames)

/-- The task has an event for `j` that does not encode, or for which the mailbox has no free slot or no
    receiver. -/
def Drops (setup : Setup) (j : ConnectionId) (s : Server) (task : TaskId) : Prop :=
  ∃ batch, holding setup j s task = some batch ∧ (batch.isOk = true → ¬ s.runtime.HasRoom j)

/-- The messages waiting in the mailbox of `j`. -/
def queuedFor (s : Server) (j : ConnectionId) : Nat :=
  (s.runtime.mailboxes.lookup j).elim 0 (·.queue.length)

section Gaps

variable (setup) (j) (actions)

/-- Once a batch offered to `j` was dropped none is enqueued, the batches its writer takes are a prefix
    of the batches offered, and the frames it writes a prefix of theirs. -/
structure NoSilentGap : Prop where
  gapless : Attempt.Gapless (offered setup j actions)
  batches : (Outbound.batches (taken setup j actions)).map .ok <+:
    (offered setup j actions).map (·.message)
  frames : written setup j actions <+: (Outbound.batches (taken setup j actions)).flatten

/-- Between a drop and a later section that has an event for `j` which encodes, the writer of `j` has
    ended, or close messages have taken the slots free at the drop and those that the writer freed
    since. Without a kill there are no close messages: a full mailbox is not read from in between, and a
    failed encoding leaves no slot. -/
def SlotsStayTaken : Prop :=
  ∀ before drop between offer after s t mailbox,
    actions = before ++ .dispatch drop :: (between ++ .dispatch offer :: after) →
    (server setup).Trace before s → (server setup).Trace (before ++ .dispatch drop :: between) t →
    Drops setup j s drop → Offers setup j t offer →
    t.runtime.mailboxes.lookup j = some mailbox → mailbox.closed = false →
      mailbox.capacity + ((server setup).history (takes j) s (.dispatch drop :: between)).length ≤
        s.queuedFor j +
          Outbound.closes ((server setup).history (posts setup j) s (.dispatch drop :: between))

end Gaps

/-- A section offers what its task holds for `j`; the cache changes nothing. -/
theorem attempts_dispatch (trace : (server setup).Trace before s) (task : TaskId) :
    attempts setup j s (.dispatch task) = ((holding setup j s task).map fun batch =>
      (⟨batch, batch.isOk && decide (s.runtime.HasRoom j)⟩ : Attempt Batch)).toList := by
  simp only [attempts, holding]
  cases held : s.dispatchOf task with
  | none => rfl
  | some dispatch =>
      have coherent : dispatch.Coherent setup.json := ((trace_suits (j := j) trace).of held).1
      simp only [Option.elim_some, Option.bind_some, Dispatch.attempts, Dispatch.batch?]
      cases cursor : dispatch.cursor with
      | addressed id handle event context =>
          simp only [Dispatch.Coherent, cursor] at coherent
          dsimp only
          rw [coherent.1.encodeCached_fst]
          split <;> rfl
      | _ => rfl

theorem mem_attempts {action : Server.Action} {attempt : Attempt Batch}
    (trace : (server setup).Trace before s) (member : attempt ∈ attempts setup j s action) :
    attempts setup j s action = [attempt] ∧ ∃ task, action = .dispatch task ∧
      holding setup j s task = some attempt.message ∧
        (attempt.accepted = true ↔ attempt.message.isOk = true ∧ s.runtime.HasRoom j) := by
  cases action with
  | dispatch task =>
      rw [attempts_dispatch trace] at member ⊢
      cases held : holding setup j s task with
      | none => simp [held] at member
      | some batch =>
          simp only [held, Option.map_some, Option.toList_some, List.mem_singleton] at member ⊢
          subst member
          exact ⟨rfl, task, rfl, held, by simp⟩
  | _ => cases member

theorem attempts_drop {task : TaskId} (trace : (server setup).Trace before s)
    (drops : Drops setup j s task) : ∃ batch, attempts setup j s (.dispatch task) = [⟨batch, false⟩] := by
  obtain ⟨batch, held, full⟩ := drops
  refine ⟨batch, ?_⟩
  rw [attempts_dispatch trace, held]
  cases batch with
  | error error => rfl
  | ok frames => simp [full rfl]

theorem attempts_offer {task : TaskId} (trace : (server setup).Trace before s)
    (offers : Offers setup j s task) :
    ∃ frames, attempts setup j s (.dispatch task) = [⟨.ok frames, decide (s.runtime.HasRoom j)⟩] := by
  obtain ⟨frames, held⟩ := offers
  refine ⟨frames, ?_⟩
  rw [attempts_dispatch trace, held]
  rfl

/-! ## Slots -/

theorem posted_length (trace : (server setup).Trace actions s) :
    (posted setup j actions).length = (taken setup j actions).length + s.queuedFor j := by
  have conveys := trace_conveys trace (j := j)
  unfold lane at conveys
  unfold queuedFor
  cases mailbox : s.runtime.mailboxes.lookup j with
  | none =>
      cases writer : s.writers.lookup j with
      | none =>
          rw [mailbox, writer] at conveys
          obtain ⟨noPosts, noTakes, -⟩ := conveys
          simp [noPosts, noTakes]
      | some writer' =>
          rw [mailbox, writer] at conveys
          exact conveys.elim
  | some mailbox' =>
      cases writer : s.writers.lookup j with
      | none =>
          rw [mailbox, writer] at conveys
          exact conveys.elim
      | some writer' =>
          rw [mailbox, writer] at conveys
          have carries : posted setup j actions = taken setup j actions ++ mailbox'.queue := conveys.1
          simp [carries]

/-- Where no batch was accepted, the queue has grown by the closes and shrunk by the messages taken. -/
theorem queuedFor_between (first : (server setup).Trace before s)
    (second : (server setup).Trace (before ++ between) t)
    (refused : Attempt.taken ((server setup).history (attempts setup j) s between) = []) :
    t.queuedFor j + ((server setup).history (takes j) s between).length =
      s.queuedFor j + Outbound.closes ((server setup).history (posts setup j) s between) := by
  have start := posted_length first (j := j)
  have finish := posted_length second (j := j)
  have noBatches :
      Outbound.batches ((server setup).history (posts setup j) s between) = [] := by
    rw [taken_history] at refused
    exact List.map_eq_nil_iff.mp refused
  have closes := Outbound.length_eq_closes noBatches
  simp only [posted, taken] at start finish
  rw [Machine.history_append first, Machine.history_append first, List.length_append,
    List.length_append] at finish
  omega

/-! ## Gaps -/

/-- A batch is dropped in a section that drops it, and what is offered later is offered in the sections
    after that one. -/
theorem offered_drop (trace : (server setup).Trace actions s) {front back : List (Attempt Batch)}
    {dropped : Attempt Batch} (log : offered setup j actions = front ++ dropped :: back)
    (refused : dropped.accepted = false) :
    ∃ before drop between mid, actions = before ++ .dispatch drop :: between ∧
      (server setup).Trace before mid ∧ Drops setup j mid drop ∧
      (server setup).history (attempts setup j) mid (.dispatch drop :: between) = dropped :: back := by
  obtain ⟨before, action, between, mid, first, last, rfl, ran, seen, front_eq⟩ :=
    Machine.history_split log
  have member : dropped ∈ attempts setup j mid action := by simp [seen]
  obtain ⟨single, drop, rfl, held, accepts⟩ := mem_attempts ran member
  have noFirst : first = [] := by
    have lengths := congrArg List.length (seen.symm.trans single)
    simp only [List.length_append, List.length_cons, List.length_nil] at lengths
    exact List.eq_nil_of_length_eq_zero (by omega)
  refine ⟨before, drop, between, mid, rfl, ran, ⟨_, held, ?_⟩, ?_⟩
  · intro encodes room
    exact absurd (accepts.mpr ⟨encodes, room⟩) (by simp [refused])
  · unfold offered at log
    rw [Machine.history_append ran, front_eq, noFirst, List.append_nil] at log
    exact List.append_cancel_left log

/-- Between a drop and a later offer of a log without gaps no batch is accepted, and the mailbox refuses
    the offer as well. -/
theorem gapless_between {after : List Server.Action} {drop offer : TaskId}
    (gapless : Attempt.Gapless
      (offered setup j (before ++ .dispatch drop :: (between ++ .dispatch offer :: after))))
    (first : (server setup).Trace before s)
    (second : (server setup).Trace (before ++ .dispatch drop :: between) t)
    (drops : Drops setup j s drop) (offers : Offers setup j t offer) :
    Attempt.taken ((server setup).history (attempts setup j) s (.dispatch drop :: between)) = [] ∧
      ¬ t.runtime.HasRoom j := by
  obtain ⟨batch, dropped⟩ := attempts_drop first drops
  obtain ⟨frames, offered_⟩ := attempts_offer second offers
  -- the log of the run, cut at the drop and at the offer
  obtain ⟨rest, later⟩ : ∃ rest, (server setup).history (attempts setup j) s
      (.dispatch drop :: between) = ⟨batch, false⟩ :: rest := by
    simp only [Machine.history, dropped]
    exact ⟨_, rfl⟩
  obtain ⟨last, ends⟩ : ∃ last, (server setup).history (attempts setup j) t
      (.dispatch offer :: after) = ⟨.ok frames, decide (t.runtime.HasRoom j)⟩ :: last := by
    simp only [Machine.history, offered_]
    exact ⟨_, rfl⟩
  have log : offered setup j (before ++ .dispatch drop :: (between ++ .dispatch offer :: after)) =
      offered setup j before ++ ⟨batch, false⟩ ::
        (rest ++ ⟨.ok frames, decide (t.runtime.HasRoom j)⟩ :: last) := by
    unfold offered
    rw [← List.cons_append, ← List.append_assoc, Machine.history_append second,
      Machine.history_append first, later, ends, List.append_assoc, List.cons_append]
  rw [log] at gapless
  constructor
  · rw [later, Attempt.taken_eq_nil]
    intro attempt member
    obtain rfl | member := List.mem_cons.mp member
    · rfl
    · exact gapless.refused rfl (List.mem_append_left _ member)
  · have last := gapless.refused rfl (List.mem_append_right rest List.mem_cons_self)
    simpa using last

theorem slots_of_gapless (gapless : Attempt.Gapless (offered setup j actions)) :
    SlotsStayTaken setup j actions := by
  rintro before drop between offer after s t mailbox rfl first second drops offers found open_
  obtain ⟨refused, noRoom⟩ := gapless_between gapless first second drops offers
  have length : t.queuedFor j = mailbox.queue.length := by simp [queuedFor, found]
  have full : mailbox.capacity ≤ mailbox.queue.length := by
    by_contra room
    exact noRoom ⟨mailbox, found, open_, by omega⟩
  have slots := queuedFor_between first second refused
  omega

/-- Where the slots stay taken, nothing is accepted once something was dropped. -/
theorem refused_of_slots (trace : (server setup).Trace actions s) {action : Server.Action}
    (taken : SlotsStayTaken setup j (actions ++ [action]))
    (gapless : Attempt.Gapless (offered setup j actions)) {earlier attempt : Attempt Batch}
    (member : earlier ∈ offered setup j actions) (dropped : earlier.accepted = false)
    (offers : attempt ∈ attempts setup j s action) : attempt.accepted = false := by
  by_contra accepted
  obtain ⟨-, offer, rfl, held, accepts⟩ := mem_attempts trace offers
  obtain ⟨encodes, mailbox, found, open_, free⟩ := accepts.mp (by simpa using accepted)
  obtain ⟨front, back, log⟩ : ∃ front back, offered setup j actions = front ++ earlier :: back :=
    List.append_of_mem member
  obtain ⟨before, drop, between, mid, rfl, first, drops, later⟩ := offered_drop trace log dropped
  have refused : Attempt.taken ((server setup).history (attempts setup j) mid
      (.dispatch drop :: between)) = [] := by
    rw [later, Attempt.taken_eq_nil]
    intro next member
    obtain rfl | member := List.mem_cons.mp member
    · exact dropped
    · rw [log] at gapless
      exact gapless.refused dropped member
  obtain ⟨frames, same⟩ : ∃ frames, attempt.message = .ok frames := by
    cases message : attempt.message with
    | error error => simp [message, Except.isOk, Except.toBool] at encodes
    | ok frames => exact ⟨frames, rfl⟩
  have slots := queuedFor_between first trace refused
  have kept := taken before drop between offer [] mid s mailbox (by simp) first trace drops
    ⟨frames, same ▸ held⟩ found open_
  have length : s.queuedFor j = mailbox.queue.length := by simp [queuedFor, found]
  omega

/-- After a drop nothing is enqueued if and only if the writer frees no slot that a batch finds. -/
theorem gapless_iff (trace : (server setup).Trace actions s) :
    Attempt.Gapless (offered setup j actions) ↔ SlotsStayTaken setup j actions := by
  refine ⟨slots_of_gapless, ?_⟩
  refine trace.invariant (fun actions _ =>
    SlotsStayTaken setup j actions → Attempt.Gapless (offered setup j actions)) (fun _ => .nil) ?_
  intro actions s action s' trace ih step taken
  have gapless : Attempt.Gapless (offered setup j actions) := by
    refine ih ?_
    rintro before drop between offer after s t mailbox rfl
    exact taken before drop between offer (after ++ [action]) s t mailbox (by simp)
  unfold offered
  rw [trace.history_snoc, Attempt.gapless_append]
  refine ⟨gapless, ?_, fun earlier member attempt offers dropped =>
    refused_of_slots trace taken gapless member dropped offers⟩
  cases log : attempts setup j s action with
  | nil => exact .nil
  | cons attempt rest =>
      obtain ⟨single, -⟩ := mem_attempts trace (log ▸ List.mem_cons_self)
      rw [← log, single]
      exact List.pairwise_singleton ..

/-- What the writer of `j` takes is a prefix of what its mailbox accepted. -/
theorem taken_isPrefix (trace : (server setup).Trace actions s) :
    (Outbound.batches (taken setup j actions)).map .ok <+:
      Attempt.taken (offered setup j actions) := by
  unfold offered
  rw [taken_history]
  exact ((trace_conveys trace).isPrefix.1.filterMap _).map _

/-- In every run, a connection reads the batches offered to it without a gap exactly when its writer
    frees no slot between a drop and a later section that has an event for it which encodes. -/
theorem noSilentGap_iff (setup : Setup) (actions : List Server.Action) (s : Server)
    (trace : (server setup).Trace actions s) (j : ConnectionId) :
    NoSilentGap setup j actions ↔ SlotsStayTaken setup j actions := by
  rw [← gapless_iff trace]
  constructor
  · exact NoSilentGap.gapless
  · intro gapless
    exact
      { gapless
        batches := (taken_isPrefix trace).trans gapless.isPrefix
        frames := (trace_conveys trace).isPrefix.2 }

end Server

/-! ## A gap -/

namespace Sample

/-- The server broadcasts a wind change to the logged in client. -/
def gust (speed : Int32) : List Server.Action :=
  .windDelta speed speed :: sections 5 .maintenance

/-- A pilot behind a mailbox of one slot. The second gust finds the slot taken; the writer frees it
    before the reader notices, and the third gust gets through. -/
def slowReader : List Server.Action :=
  connecting ⟨1⟩ ++ loggingIn ⟨1⟩ "AFR12" ++ sections 5 (.connection ⟨1⟩) ++ writing ⟨1⟩ ++
    gust 1 ++ gust 2 ++ writing ⟨1⟩ ++ gust 3 ++ writing ⟨1⟩

end Sample

namespace Server

set_option maxRecDepth 8000 in
/-- The pilot reads the first gust and the third. -/
theorem slowReader_gap :
    ((server (Sample.setup 1)).run {} Sample.slowReader).isSome = true ∧
      (offered (Sample.setup 1) ⟨1⟩ Sample.slowReader).map (·.accepted) =
        [true, true, false, true] ∧
      (written (Sample.setup 1) ⟨1⟩ Sample.slowReader).map (·.bytes) =
        ["#TMserver:AFR12:AsterFSD", "#DLSERVER:*:1:1", "#DLSERVER:*:3:3"].map Text.bytes ∧
      ¬ NoSilentGap (Sample.setup 1) ⟨1⟩ Sample.slowReader := by
  refine ⟨by decide, by decide, by decide, ?_⟩
  intro faithful
  exact absurd faithful.batches (by decide)

set_option maxRecDepth 8000 in
theorem noSilentGap_iff_slowReader :
    ¬ SlotsStayTaken (Sample.setup 1) ⟨1⟩ Sample.slowReader := by
  have trace := (server (Sample.setup 1)).trace_final Sample.slowReader (by decide)
  have gap : ¬ NoSilentGap (Sample.setup 1) ⟨1⟩ Sample.slowReader :=
    fun faithful => absurd faithful.batches (by decide)
  exact fun full => gap ((noSilentGap_iff _ _ _ trace ⟨1⟩).mpr full)

end Server

end AsterFsd
