import Mathlib.Data.List.Induction
import Mathlib.Logic.Relation

/-! # Deterministic labelled machines

A machine moves from one state to the next on an action, or refuses the action. Nondeterminism is in
the choice of actions, so a run is a list of actions and an execution is decidable whenever the step
is. The rules here are the ones a development needs once: invariants over runs and over their
histories, conditions on every step of a run, and forward simulation between two machines.
-/

universe u v w

/-- An initial state and a partial step function. -/
structure Machine (σ : Type u) (α : Type v) where
  init : σ
  step : σ → α → Option σ

namespace Machine

variable {σ : Type u} {α : Type v} (m : Machine σ α)

/-- Perform the actions in order; `none` as soon as one is refused. -/
def run : σ → List α → Option σ
  | s, [] => some s
  | s, a :: as => (m.step s a).bind (fun next => run next as)

/-- The actions `as`, performed from the initial state, lead to `s`. -/
def Trace (as : List α) (s : σ) : Prop := m.run m.init as = some s

/-- Some run from the initial state ends in `s`. -/
def Reachable (s : σ) : Prop := ∃ as, m.Trace as s

variable {m}

@[simp] theorem run_nil (s : σ) : m.run s [] = some s := rfl

theorem run_cons {s s' : σ} {a : α} {as : List α} :
    m.run s (a :: as) = some s' ↔ ∃ mid, m.step s a = some mid ∧ m.run mid as = some s' := by
  simp [run, Option.bind_eq_some_iff]

theorem run_append {s s' : σ} {as bs : List α} :
    m.run s (as ++ bs) = some s' ↔ ∃ mid, m.run s as = some mid ∧ m.run mid bs = some s' := by
  induction as generalizing s with
  | nil => simp
  | cons a as ih =>
      simp only [List.cons_append, run_cons, ih]
      constructor
      · rintro ⟨next, stepped, mid, first, second⟩
        exact ⟨mid, ⟨next, stepped, first⟩, second⟩
      · rintro ⟨mid, ⟨next, stepped, first⟩, second⟩
        exact ⟨next, stepped, mid, first, second⟩

theorem run_concat {s s' : σ} {as : List α} {a : α} :
    m.run s (as ++ [a]) = some s' ↔ ∃ mid, m.run s as = some mid ∧ m.step mid a = some s' := by
  simp [run_append, run_cons]

theorem Trace.snoc {as : List α} {a : α} {s s' : σ} (trace : m.Trace as s)
    (step : m.step s a = some s') : m.Trace (as ++ [a]) s' :=
  run_concat.mpr ⟨s, trace, step⟩

theorem Trace.append {as bs : List α} {s s' : σ} (trace : m.Trace as s)
    (rest : m.run s bs = some s') : m.Trace (as ++ bs) s' :=
  run_append.mpr ⟨s, trace, rest⟩

theorem Trace.reachable {as : List α} {s : σ} (trace : m.Trace as s) : m.Reachable s := ⟨as, trace⟩

variable (m) in
/-- The state a run ends in. -/
def final (as : List α) (ran : (m.run m.init as).isSome = true) : σ := (m.run m.init as).get ran

variable (m) in
theorem trace_final (as : List α) (ran : (m.run m.init as).isSome = true) :
    m.Trace as (m.final as ran) := (Option.some_get ran).symm

theorem Reachable.step {s s' : σ} {a : α} (reach : m.Reachable s) (step : m.step s a = some s') :
    m.Reachable s' := by
  obtain ⟨as, trace⟩ := reach
  exact ⟨as ++ [a], trace.snoc step⟩

/-! ## Invariants -/

/-- A relation between the history and the state that starts true and survives every step holds
    after every run. -/
theorem Trace.invariant (Holds : List α → σ → Prop) (start : Holds [] m.init)
    (next : ∀ as s a s', m.Trace as s → Holds as s → m.step s a = some s' → Holds (as ++ [a]) s')
    {as : List α} {s : σ} (trace : m.Trace as s) : Holds as s := by
  induction as using List.reverseRecOn generalizing s with
  | nil =>
      obtain rfl : m.init = s := Option.some.inj trace
      exact start
  | append_singleton as a ih =>
      obtain ⟨mid, before, step⟩ := run_concat.mp trace
      exact next as mid a s before (ih before) step

theorem Reachable.invariant (Holds : σ → Prop) (start : Holds m.init)
    (next : ∀ s a s', Holds s → m.step s a = some s' → Holds s')
    {s : σ} (reach : m.Reachable s) : Holds s := by
  obtain ⟨as, trace⟩ := reach
  exact trace.invariant (fun _ s => Holds s) start
    (fun _ s a s' _ held step => next s a s' held step)

/-- A property of states that every step keeps is kept by a run from any state. -/
theorem run_keeps (Holds : σ → Prop) (next : ∀ s a s', Holds s → m.step s a = some s' → Holds s')
    {as : List α} {s s' : σ} (held : Holds s) (ran : m.run s as = some s') : Holds s' := by
  induction as generalizing s with
  | nil =>
      obtain rfl : s = s' := Option.some.inj ran
      exact held
  | cons a as ih =>
      obtain ⟨mid, step, rest⟩ := run_cons.mp ran
      exact ih (next s a mid held step) rest

/-- A view that every step leaves alone or moves along a relation is moved along it by a run, any number of
    times. -/
theorem run_moves {τ : Type w} (view : σ → τ) {Becomes : τ → τ → Prop}
    (next : ∀ s a s', m.Reachable s → m.step s a = some s' →
      view s' = view s ∨ Becomes (view s) (view s'))
    {as : List α} {s s' : σ} (reach : m.Reachable s) (ran : m.run s as = some s') :
    Relation.ReflTransGen Becomes (view s) (view s') := by
  induction as generalizing s with
  | nil =>
      obtain rfl : s = s' := Option.some.inj ran
      exact .refl
  | cons a as ih =>
      obtain ⟨mid, step, rest⟩ := run_cons.mp ran
      have later := ih (reach.step step) rest
      obtain same | moved := next s a mid reach step
      · rwa [same] at later
      · exact .head moved later

/-! ## Conditions on the steps of a run -/

variable (m) in
/-- Every action of the run is taken in a state that admits it. -/
def Along (Admits : σ → α → Prop) : σ → List α → Prop
  | _, [] => True
  | s, a :: as => Admits s a ∧ ∀ next, m.step s a = some next → Along Admits next as

instance decidableAlong {Admits : σ → α → Prop} [∀ s a, Decidable (Admits s a)] :
    (s : σ) → (as : List α) → Decidable (m.Along Admits s as)
  | _, [] => .isTrue trivial
  | s, a :: as =>
      match step : m.step s a with
      | none => decidable_of_iff (Admits s a) (by simp [Along, step])
      | some next =>
          have rest : Decidable (m.Along Admits next as) := decidableAlong next as
          decidable_of_iff (Admits s a ∧ m.Along Admits next as) (by simp [Along, step])

theorem Along.append {Admits : σ → α → Prop} {as bs : List α} {s mid : σ}
    (all : m.Along Admits s (as ++ bs)) (ran : m.run s as = some mid) :
    m.Along Admits s as ∧ m.Along Admits mid bs := by
  induction as generalizing s with
  | nil =>
      obtain rfl : s = mid := Option.some.inj ran
      exact ⟨trivial, all⟩
  | cons a as ih =>
      obtain ⟨next, step, rest⟩ := run_cons.mp ran
      refine ⟨⟨all.1, fun next' step' => ?_⟩, (ih (all.2 next step) rest).2⟩
      obtain rfl : next = next' := Option.some.inj (step.symm.trans step')
      exact (ih (all.2 next step) rest).1

/-- A condition on every step, read off the splits of the run. -/
theorem along_iff {Admits : σ → α → Prop} {as : List α} {s : σ} :
    m.Along Admits s as ↔
      ∀ before a after mid, as = before ++ a :: after → m.run s before = some mid →
        Admits mid a := by
  induction as generalizing s with
  | nil => simp [Along]
  | cons a as ih =>
      constructor
      · rintro ⟨first, rest⟩ before b after mid split ran
        cases before with
        | nil =>
            obtain ⟨rfl, rfl⟩ := List.cons.inj split
            obtain rfl : s = mid := Option.some.inj ran
            exact first
        | cons c before =>
            obtain ⟨rfl, rfl⟩ := List.cons.inj split
            obtain ⟨next, step, ran⟩ := run_cons.mp ran
            exact ih.mp (rest next step) before b after mid rfl ran
      · intro all
        refine ⟨all [] a as s rfl rfl, fun next step => ih.mpr ?_⟩
        intro before b after mid split ran
        exact all (a :: before) b after mid (by rw [split]; rfl) (run_cons.mpr ⟨next, step, ran⟩)

variable (m) in
/-- What an observer of each step sees over a run. -/
def history {ω : Type w} (observe : σ → α → List ω) : σ → List α → List ω
  | _, [] => []
  | s, a :: as =>
      observe s a ++ match m.step s a with
        | none => []
        | some next => history observe next as

theorem history_append {ω : Type w} {observe : σ → α → List ω} {as bs : List α} {s mid : σ}
    (ran : m.run s as = some mid) :
    m.history observe s (as ++ bs) = m.history observe s as ++ m.history observe mid bs := by
  induction as generalizing s with
  | nil =>
      obtain rfl : s = mid := Option.some.inj ran
      rfl
  | cons a as ih =>
      obtain ⟨next, step, rest⟩ := run_cons.mp ran
      simp only [List.cons_append, history, step, ih rest, List.append_assoc]

theorem Trace.history_snoc {ω : Type w} {as : List α} {s : σ} (trace : m.Trace as s) (a : α)
    (observe : σ → α → List ω) :
    m.history observe m.init (as ++ [a]) = m.history observe m.init as ++ observe s a := by
  rw [history_append (m := m) trace]
  cases step : m.step s a <;> simp [history, step]

/-- An observer who sees one thing at each step sees the `n`-th in the state after `n` actions. -/
theorem history_getElem? {ω : Type w} {observe : σ → α → ω} {as : List α} {s s' : σ}
    (ran : m.run s as = some s') {n : Nat} {o : ω} :
    (m.history (fun s a => [observe s a]) s as)[n]? = some o ↔
      ∃ before a after mid, as = before ++ a :: after ∧ before.length = n ∧
        m.run s before = some mid ∧ observe mid a = o := by
  induction as generalizing s n with
  | nil =>
      constructor
      · intro none_
        simp [history] at none_
      · rintro ⟨before, a, after, mid, split, -⟩
        simp at split
  | cons a as ih =>
      obtain ⟨next, step, rest⟩ := run_cons.mp ran
      simp only [history, step, List.singleton_append]
      cases n with
      | zero =>
          constructor
          · intro first
            exact ⟨[], a, as, s, rfl, rfl, rfl, Option.some.inj first⟩
          · rintro ⟨before, b, after, mid, split, none_, ran, seen⟩
            obtain rfl := List.eq_nil_of_length_eq_zero none_
            obtain ⟨rfl, -⟩ := List.cons.inj split
            obtain rfl : s = mid := Option.some.inj ran
            exact congrArg some seen
      | succ n =>
          rw [List.getElem?_cons_succ, ih rest]
          constructor
          · rintro ⟨before, b, after, mid, rfl, rfl, ran, seen⟩
            exact ⟨a :: before, b, after, mid, rfl, rfl, run_cons.mpr ⟨next, step, ran⟩, seen⟩
          · rintro ⟨before, b, after, mid, split, length, prior, seen⟩
            cases before with
            | nil => cases length
            | cons c before =>
                obtain ⟨rfl, rfl⟩ := List.cons.inj split
                obtain ⟨next', step', prior⟩ := run_cons.mp prior
                obtain rfl := Option.some.inj (step.symm.trans step')
                exact ⟨before, b, after, mid, rfl, Nat.succ.inj length, prior, seen⟩

theorem history_take {ω : Type w} (observe : σ → α → ω) (s : σ) (as : List α) (n : Nat) :
    (m.history (fun s a => [observe s a]) s as).take n =
      m.history (fun s a => [observe s a]) s (as.take n) := by
  induction as generalizing s n with
  | nil => simp [history]
  | cons a as ih =>
      cases n with
      | zero => rfl
      | succ n =>
          simp only [history, List.take_succ_cons, List.singleton_append]
          cases m.step s a with
          | none => simp
          | some next => simp only [ih next n]

variable (m) in
/-- A value that moves along with the steps of a run. -/
def foldAlong {β : Type w} (next : σ → α → σ → β → β) : σ → β → List α → β
  | _, value, [] => value
  | s, value, a :: as =>
      match m.step s a with
      | none => value
      | some s' => foldAlong next s' (next s a s' value) as

theorem foldAlong_concat {β : Type w} {next : σ → α → σ → β → β} {as : List α} {a : α}
    {start s s' : σ} {value : β} (ran : m.run start as = some s) (step : m.step s a = some s') :
    m.foldAlong next start value (as ++ [a]) = next s a s' (m.foldAlong next start value as) := by
  induction as generalizing start value with
  | nil =>
      obtain rfl : start = s := Option.some.inj ran
      simp [foldAlong, step]
  | cons first as ih =>
      obtain ⟨mid, stepped, rest⟩ := run_cons.mp ran
      simp only [List.cons_append, foldAlong, stepped]
      exact ih rest

/-- Forward simulation: related states answer each admitted step of the first machine by a run of
    the second with the same observations, so every run of the first is matched, observation for
    observation, by a run of the second. -/
theorem Trace.simulated {τ : Type u} {β : Type v} {ω : Type w} {n : Machine τ β}
    {observe : σ → α → List ω} {observe' : τ → β → List ω}
    (Related : σ → τ → Prop) {Admits : σ → α → Prop}
    (start : Related m.init n.init)
    (next : ∀ s t a s', m.Reachable s → Related s t → Admits s a → m.step s a = some s' →
      ∃ bs t', n.run t bs = some t' ∧ Related s' t' ∧ n.history observe' t bs = observe s a)
    {as : List α} {s : σ} (trace : m.Trace as s) (all : m.Along Admits m.init as) :
    ∃ bs t, n.Trace bs t ∧ Related s t ∧
      n.history observe' n.init bs = m.history observe m.init as := by
  induction as using List.reverseRecOn generalizing s with
  | nil =>
      obtain rfl : m.init = s := Option.some.inj trace
      exact ⟨[], n.init, rfl, start, rfl⟩
  | append_singleton as a ih =>
      obtain ⟨mid, before, step⟩ := run_concat.mp trace
      obtain ⟨prior, last⟩ := all.append before
      obtain ⟨bs, t, matched, related, seen⟩ := ih before prior
      obtain ⟨cs, t', ran, related', seen'⟩ :=
        next mid t a s (Trace.reachable before) related last.1 step
      refine ⟨bs ++ cs, t', matched.append ran, related', ?_⟩
      rw [history_append (m := n) matched, history_append (m := m) before, seen, seen']
      simp [history, step]

/-! ## Projections -/

/-- An observation of a run is made at one of its steps, after those of the steps before. -/
theorem history_split {ω : Type w} {observe : σ → α → List ω} {as : List α} {s : σ}
    {first last : List ω} {o : ω} (seen : m.history observe s as = first ++ o :: last) :
    ∃ before a after mid first' last', as = before ++ a :: after ∧ m.run s before = some mid ∧
      observe mid a = first' ++ o :: last' ∧ first = m.history observe s before ++ first' := by
  induction as generalizing s first with
  | nil => simp [history] at seen
  | cons a as ih =>
      -- the observation is one of those of `a`, or of those of a later step
      have located : (∃ last', observe s a = first ++ o :: last') ∨
          ∃ first' next, m.step s a = some next ∧ first = observe s a ++ first' ∧
            m.history observe next as = first' ++ o :: last := by
        obtain ⟨first', split, rest⟩ | ⟨rest, split, tail⟩ := List.append_eq_append_iff.mp seen
        · cases step : m.step s a with
          | none => simp [step] at rest
          | some next => exact .inr ⟨first', next, rfl, split, by simpa [step] using rest⟩
        · cases rest with
          | nil =>
              cases step : m.step s a with
              | none => simp [step] at tail
              | some next =>
                  refine .inr ⟨[], next, rfl, by simpa using split.symm, ?_⟩
                  simpa [step] using tail.symm
          | cons o' last' =>
              obtain ⟨rfl, -⟩ := List.cons.inj tail
              exact .inl ⟨last', split⟩
      obtain ⟨last', here⟩ | ⟨first', next, step, rfl, later⟩ := located
      · exact ⟨[], a, as, s, first, last', rfl, rfl, here, rfl⟩
      · obtain ⟨before, b, after, mid, first'', last', rfl, ran, observed, rfl⟩ := ih later
        refine ⟨a :: before, b, after, mid, first'', last', rfl, run_cons.mpr ⟨next, step, ran⟩,
          observed, ?_⟩
        simp only [history, step, List.append_assoc]

theorem mem_history {ω : Type w} {observe : σ → α → List ω} {as : List α} {s : σ} {o : ω}
    (seen : o ∈ m.history observe s as) :
    ∃ before a after mid, as = before ++ a :: after ∧ m.run s before = some mid ∧
      o ∈ observe mid a := by
  obtain ⟨first, last, split⟩ := List.append_of_mem seen
  obtain ⟨before, a, after, mid, first', last', rfl, ran, observed, -⟩ := history_split split
  exact ⟨before, a, after, mid, rfl, ran, by simp [observed]⟩

/-- When every step of one machine performs actions of another on a part of its state, its runs are
    runs of the other on that part. -/
theorem Trace.projected {τ : Type u} {β : Type v} {n : Machine τ β} (view : σ → τ)
    {performs : σ → α → List β} (start : view m.init = n.init)
    (next : ∀ s a s', m.step s a = some s' → n.run (view s) (performs s a) = some (view s'))
    {as : List α} {s : σ} (trace : m.Trace as s) :
    n.Trace (m.history performs m.init as) (view s) := by
  induction as using List.reverseRecOn generalizing s with
  | nil =>
      obtain rfl : m.init = s := Option.some.inj trace
      exact congrArg some start.symm
  | append_singleton as a ih =>
      obtain ⟨mid, before, step⟩ := run_concat.mp trace
      rw [Trace.history_snoc before]
      exact (ih before).append (next mid a s step)

/-! ## Settling -/

variable (m) in
/-- No action of this kind is possible. -/
def Settled (Inner : α → Prop) (s : σ) : Prop := ∀ a, Inner a → m.step s a = none

section Settling

variable {τ : Type w} {Inner : α → Prop} {Less : τ → τ → Prop} {measure : σ → τ}

/-- When every action of a kind makes a state less, such actions come to an end. -/
theorem exists_settled (wellFounded : WellFounded Less)
    (decreases : ∀ s a s', Inner a → m.step s a = some s' → Less (measure s') (measure s)) (s : σ) :
    ∃ as s', (∀ a ∈ as, Inner a) ∧ m.run s as = some s' ∧ m.Settled Inner s' := by
  induction s using (InvImage.wf measure wellFounded).induction with
  | h s ih =>
      by_cases settled : m.Settled Inner s
      · exact ⟨[], s, by simp, rfl, settled⟩
      · obtain ⟨a, inner, enabled⟩ : ∃ a, Inner a ∧ m.step s a ≠ none := by
          simpa [Settled] using settled
        obtain ⟨next, step⟩ := Option.ne_none_iff_exists'.mp enabled
        obtain ⟨as, s', inners, ran, settled⟩ := ih next (decreases s a next inner step)
        refine ⟨a :: as, s', ?_, run_cons.mpr ⟨next, step, ran⟩, settled⟩
        intro b member
        cases member with
        | head => exact inner
        | tail _ later => exact inners b later

/-- Nor do they go on for ever. -/
theorem no_endless (wellFounded : WellFounded Less)
    (decreases : ∀ s a s', Inner a → m.step s a = some s' → Less (measure s') (measure s))
    (states : Nat → σ) :
    ¬ ∀ n, ∃ a, Inner a ∧ m.step (states n) a = some (states (n + 1)) := by
  intro endless
  have finite : ∀ s n, states n = s → False := by
    intro s
    induction s using (InvImage.wf measure wellFounded).induction with
    | h s ih =>
        rintro n rfl
        obtain ⟨a, inner, step⟩ := endless n
        exact ih (states (n + 1)) (decreases _ a _ inner step) (n + 1) rfl
  exact finite (states 0) 0 rfl

end Settling

/-! ## Two runs -/

/-- Actions that the machine does not tell apart lead to the same state. -/
theorem run_map {f : α → α} (same : ∀ s a, m.step s (f a) = m.step s a) (s : σ) (as : List α) :
    m.run s (as.map f) = m.run s as := by
  induction as generalizing s with
  | nil => rfl
  | cons a as ih => simp only [List.map_cons, run, same, ih]

theorem history_map {ω : Type w} {f : α → α} {observe : σ → α → List ω}
    (same : ∀ s a, m.step s (f a) = m.step s a) (seen : ∀ s a, observe s (f a) = observe s a) (s : σ)
    (as : List α) : m.history observe s (as.map f) = m.history observe s as := by
  induction as generalizing s with
  | nil => rfl
  | cons a as ih => simp only [List.map_cons, history, same, seen, ih]

variable (m) in
/-- Two lists of actions agree, step by step, as judged in the states that the first one goes
    through. -/
def Alike (Agree : σ → α → α → Prop) : σ → List α → List α → Prop
  | _, [], [] => True
  | s, a :: as, b :: bs => Agree s a b ∧ ∀ next, m.step s a = some next → Alike Agree next as bs
  | _, _, _ => False

theorem Alike.take {Agree : σ → α → α → Prop} {as as' bs bs' : List α} {s : σ}
    (alike : m.Alike Agree s (as ++ as') (bs ++ bs')) (length : as.length = bs.length) :
    m.Alike Agree s as bs := by
  induction as generalizing s bs with
  | nil =>
      obtain rfl := List.eq_nil_of_length_eq_zero length.symm
      trivial
  | cons a as ih =>
      cases bs with
      | nil => cases length
      | cons b bs => exact ⟨alike.1, fun next step => ih (alike.2 next step) (Nat.succ.inj length)⟩

theorem Alike.refl {Agree : σ → α → α → Prop} (same : ∀ s a, Agree s a a) (s : σ) (as : List α) :
    m.Alike Agree s as as := by
  induction as generalizing s with
  | nil => trivial
  | cons a as ih => exact ⟨same s a, fun next _ => ih next⟩

theorem Alike.append {Agree : σ → α → α → Prop} {as as' bs bs' : List α} {s : σ}
    (first : m.Alike Agree s as bs) (rest : ∀ mid, m.run s as = some mid → m.Alike Agree mid as' bs') :
    m.Alike Agree s (as ++ as') (bs ++ bs') := by
  induction as generalizing s bs with
  | nil =>
      cases bs with
      | nil => exact rest s rfl
      | cons b bs => exact first.elim
  | cons a as ih =>
      cases bs with
      | nil => exact first.elim
      | cons b bs =>
          refine ⟨first.1, fun next step => ih (first.2 next step) fun mid ran => rest mid ?_⟩
          exact run_cons.mpr ⟨next, step, ran⟩

/-- The unwinding rule: when agreeing actions lead related states to related states and show the same,
    agreeing runs end in related states and show the same. -/
theorem Alike.unwind {ω : Type w} {observe : σ → α → List ω} {Agree : σ → α → α → Prop}
    (Related : σ → σ → Prop)
    (next : ∀ s t a b s' t', Related s t → Agree s a b → m.step s a = some s' →
      m.step t b = some t' → Related s' t' ∧ observe s a = observe t b)
    {as bs : List α} {s t s' t' : σ} (related : Related s t) (alike : m.Alike Agree s as bs)
    (ran : m.run s as = some s') (ran' : m.run t bs = some t') :
    Related s' t' ∧ m.history observe s as = m.history observe t bs := by
  induction as generalizing s t bs with
  | nil =>
      cases bs with
      | nil =>
          obtain rfl : s = s' := Option.some.inj ran
          obtain rfl : t = t' := Option.some.inj ran'
          exact ⟨related, rfl⟩
      | cons b bs => exact alike.elim
  | cons a as ih =>
      cases bs with
      | nil => exact alike.elim
      | cons b bs =>
          obtain ⟨mid, step, rest⟩ := run_cons.mp ran
          obtain ⟨mid', step', rest'⟩ := run_cons.mp ran'
          obtain ⟨related, seen⟩ := next s t a b mid mid' related alike.1 step step'
          obtain ⟨last, later⟩ := ih related (alike.2 mid step) rest rest'
          refine ⟨last, ?_⟩
          simp only [history, step, step', seen, later]

end Machine
