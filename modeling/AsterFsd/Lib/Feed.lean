import AsterFsd.Lib.Channel
import Mathlib.Data.List.Induction
import Mathlib.Logic.Function.Basic

/-! # Producers of one queue

Several producers commit items, and each hands the items it committed to one queue, one at a time and in
its own order, or drops them. Commits and handovers of different producers interleave. An item is
overtaken only by items that were committed while it was still owed; what one producer hands over stays
in the order in which it was committed, and nothing it commits is lost or handed over twice.
-/

universe u v

/-- An item with its producer and the move that committed it. -/
structure Item (π : Type u) (ε : Type v) where
  producer : π
  commit : Nat
  value : ε
  deriving DecidableEq

namespace Feed

inductive Move (π : Type u) (ε : Type v) where
  | idle
  | commit (producer : π) (values : List ε)
  | enqueue (producer : π)
  | drop (producer : π)

end Feed

/-- The items that each producer owes the queue, the items in it and those that were dropped, the oldest
    first. -/
structure Feed (π : Type u) (ε : Type v) where
  clock : Nat := 0
  owed : π → List (Item π ε) := fun _ => []
  queue : List (Item π ε) := []
  dropped : List (Item π ε) := []

namespace Feed

variable {π : Type u} {ε : Type v} [DecidableEq π]

def step (feed : Feed π ε) : Move π ε → Feed π ε
  | .idle => { feed with clock := feed.clock + 1 }
  | .commit p values =>
      { feed with
        clock := feed.clock + 1
        owed := Function.update feed.owed p
          (feed.owed p ++ values.map fun value => ⟨p, feed.clock, value⟩) }
  | .enqueue p =>
      { feed with
        clock := feed.clock + 1
        owed := Function.update feed.owed p (feed.owed p).tail
        queue := feed.queue ++ (feed.owed p).head?.toList }
  | .drop p =>
      { feed with
        clock := feed.clock + 1
        owed := Function.update feed.owed p (feed.owed p).tail
        dropped := feed.dropped ++ (feed.owed p).head?.toList }

def run (moves : List (Move π ε)) : Feed π ε := moves.foldl step {}

/-- What the producers owe after a move, without the marks. -/
def after (owed : π → List ε) : Move π ε → π → List ε
  | .idle => owed
  | .commit p values => Function.update owed p (owed p ++ values)
  | .enqueue p | .drop p => Function.update owed p (owed p).tail

/-- The items that a move commits at the given time. -/
def Move.commits (n : Nat) : Move π ε → List (Item π ε)
  | .commit p values => values.map fun value => ⟨p, n, value⟩
  | _ => []

/-- The items committed, in the order of their commits. -/
def committed (moves : List (Move π ε)) : List (Item π ε) :=
  moves.zipIdx.flatMap fun (move, n) => move.commits n

variable {moves : List (Move π ε)} {move : Move π ε} {p : π} {x y : Item π ε}

/-- A producer that owed nothing owes what it commits. -/
theorem after_commit {owed : π → List ε} {values : List ε} (nothing : owed p = []) :
    after owed (.commit p values) = Function.update owed p values := by
  rw [after, nothing, List.nil_append]

@[simp] theorem run_concat (moves : List (Move π ε)) (move : Move π ε) :
    run (moves ++ [move]) = (run moves).step move := by
  simp [run]

@[simp] theorem clock_step (feed : Feed π ε) (move : Move π ε) :
    (feed.step move).clock = feed.clock + 1 := by
  cases move <;> rfl

theorem clock_run (moves : List (Move π ε)) : (run moves).clock = moves.length := by
  induction moves using List.reverseRecOn with
  | nil => rfl
  | append_singleton moves move ih => simp [ih]

omit [DecidableEq π] in
theorem committed_concat (moves : List (Move π ε)) (move : Move π ε) :
    committed (moves ++ [move]) = committed moves ++ move.commits moves.length := by
  simp [committed, List.zipIdx_append]

omit [DecidableEq π] in
/-- An item was committed by the move that its mark names. -/
theorem mem_committed : x ∈ committed moves ↔
    ∃ values, moves[x.commit]? = some (.commit x.producer values) ∧ x.value ∈ values := by
  obtain ⟨producer, commit, value⟩ := x
  simp only [committed, List.mem_flatMap, Prod.exists, List.mem_zipIdx_iff_getElem?]
  constructor
  · rintro ⟨move, n, found, member⟩
    cases move with
    | commit p values =>
        obtain ⟨value, named, same⟩ := List.mem_map.mp member
        cases same
        exact ⟨values, found, named⟩
    | _ => cases member
  · rintro ⟨values, found, named⟩
    exact ⟨_, commit, found, List.mem_map.mpr ⟨value, named, rfl⟩⟩

theorem values_commit (n : Nat) (q p : π) (values : List ε) :
    (((Move.commit q values).commits n).filter (·.producer = p)).map Item.value =
      if q = p then values else [] := by
  by_cases here : q = p
  · simp [Move.commits, List.filter_map, here, Function.comp_def]
  · simp [Move.commits, List.filter_map, here, Function.comp_def]

/-! ## What is owed -/

/-- What a producer owes after a move it owed before, or it has just committed it. -/
theorem owed_step {feed : Feed π ε} (member : x ∈ (feed.step move).owed p) :
    x ∈ feed.owed p ∨ x ∈ move.commits feed.clock ∧ x.producer = p := by
  cases move with
  | idle => exact .inl member
  | commit q values =>
      by_cases here : p = q
      · subst here
        simp only [step, Function.update_self, List.mem_append] at member
        obtain old | new_ := member
        · exact .inl old
        · obtain ⟨value, -, rfl⟩ := List.mem_map.mp new_
          exact .inr ⟨new_, rfl⟩
      · exact .inl (by simpa [step, Function.update_of_ne here] using member)
  | enqueue q | drop q =>
      by_cases here : p = q
      · subst here
        exact .inl (List.mem_of_mem_tail (by simpa [step] using member))
      · exact .inl (by simpa [step, Function.update_of_ne here] using member)

omit [DecidableEq π] in
theorem commit_of_mem {n : Nat} (member : x ∈ move.commits n) : x.commit = n := by
  cases move with
  | commit q values =>
      obtain ⟨value, -, rfl⟩ := List.mem_map.mp member
      rfl
  | _ => cases member

theorem producer_of_owed (member : x ∈ (run moves).owed p) : x.producer = p := by
  induction moves using List.reverseRecOn with
  | nil => cases member
  | append_singleton moves move ih =>
      rw [run_concat] at member
      obtain old | ⟨-, own⟩ := owed_step member
      · exact ih old
      · exact own

/-- What is owed now was owed ever since it was committed. -/
theorem owed_since (member : x ∈ (run moves).owed p) {n : Nat} (later : x.commit < n)
    (earlier : n ≤ moves.length) : x ∈ (run (moves.take n)).owed p := by
  induction moves using List.reverseRecOn with
  | nil => cases member
  | append_singleton moves move ih =>
      rw [List.length_append, List.length_singleton] at earlier
      obtain last | past := Nat.eq_or_lt_of_le earlier
      · rw [last, ← List.length_singleton (a := move), ← List.length_append, List.take_length]
        exact member
      · have past : n ≤ moves.length := Nat.le_of_lt_succ past
        rw [List.take_append_of_le_length past]
        rw [run_concat] at member
        obtain old | ⟨new_, -⟩ := owed_step member
        · exact ih old past
        · rw [commit_of_mem new_, clock_run] at later
          exact absurd past (Nat.not_le_of_lt later)

/-- Without their marks, the items owed move as `after` says. -/
theorem values_step (feed : Feed π ε) (move : Move π ε) :
    (fun p => ((feed.step move).owed p).map Item.value) =
      after (fun p => (feed.owed p).map Item.value) move := by
  funext p
  cases move with
  | idle => rfl
  | commit q values =>
      by_cases here : p = q
      · subst here
        simp [step, after, Function.comp_def]
      · simp [step, after, Function.update_of_ne here]
  | enqueue q | drop q =>
      by_cases here : p = q
      · subst here
        simp [step, after]
      · simp [step, after, Function.update_of_ne here]

/-! ## The books of a producer -/

/-- The values that a move commits for a producer. -/
def Move.brings (p : π) : Move π ε → List ε
  | .commit q values => if q = p then values else []
  | _ => []

/-- What a move hands over or drops: the first value that its producer owes. -/
def Move.settles (owed : π → List ε) : Move π ε → List (Attempt (π × ε))
  | .enqueue p => (owed p).head?.toList.map fun value => ⟨(p, value), true⟩
  | .drop p => (owed p).head?.toList.map fun value => ⟨(p, value), false⟩
  | _ => []

/-- The values in a log that are a producer's. -/
def ofProducer (p : π) (log : List (Attempt (π × ε))) : List ε :=
  ((log.map Attempt.message).filter (·.1 = p)).map (·.2)

theorem ofProducer_append (p : π) (first second : List (Attempt (π × ε))) :
    ofProducer p (first ++ second) = ofProducer p first ++ ofProducer p second := by
  simp [ofProducer]

private theorem ofProducer_first (p q : π) (accepted : Bool) (values : List ε) :
    ofProducer p (values.head?.toList.map fun value => ⟨(q, value), accepted⟩) =
      if q = p then values.head?.toList else [] := by
  by_cases here : q = p
  · cases values <;> simp [ofProducer, here]
  · cases values <;> simp [ofProducer, here]

/-- What a producer owes and what a move brings it is what the move settles of it and what it owes
    afterwards. -/
theorem balanced (owed : π → List ε) (move : Move π ε) (p : π) :
    owed p ++ move.brings p = ofProducer p (move.settles owed) ++ after owed move p := by
  cases move with
  | idle => simp [Move.brings, Move.settles, ofProducer, after]
  | commit q values =>
      by_cases here : q = p
      · subst here
        simp [Move.brings, Move.settles, ofProducer, after]
      · simp [Move.brings, Move.settles, ofProducer, after, here, Function.update_of_ne (Ne.symm here)]
  | enqueue q | drop q =>
      simp only [Move.brings, Move.settles, after, List.append_nil, ofProducer_first]
      by_cases here : q = p
      · subst here
        rw [if_pos rfl, Function.update_self]
        cases owed q <;> rfl
      · rw [if_neg here, Function.update_of_ne (Ne.symm here), List.nil_append]

omit [DecidableEq π] in
/-- A move that hands over nothing settles nothing that is accepted. -/
theorem taken_settles {owed : π → List ε} {move : Move π ε} (none_ : ∀ p, move ≠ .enqueue p) :
    Attempt.taken (move.settles owed) = [] := by
  cases move with
  | enqueue p => exact absurd rfl (none_ p)
  | drop p => cases owes : owed p <;> simp [Move.settles, Attempt.taken, owes]
  | _ => rfl

/-- A move adds to the queue what it settles and is accepted. -/
theorem values_queue (feed : Feed π ε) (move : Move π ε) :
    (feed.step move).queue.map Item.value = feed.queue.map Item.value ++
      (Attempt.taken (move.settles fun p => (feed.owed p).map Item.value)).map (·.2) := by
  cases move with
  | idle | commit => exact (List.append_nil _).symm
  | enqueue p | drop p => cases owes : feed.owed p <;> simp [step, Move.settles, Attempt.taken, owes]

omit [DecidableEq π] in
/-- What a move settles is refused only when its producer drops it. -/
theorem dropped_settles {owed : π → List ε} {move : Move π ε} {entry : Attempt (π × ε)}
    (settled : entry ∈ move.settles owed) (refused : entry.accepted = false) :
    move = .drop entry.message.1 ∧ (owed entry.message.1).head? = some entry.message.2 := by
  cases move with
  | idle | commit => cases settled
  | enqueue p =>
      obtain ⟨value, -, rfl⟩ := List.mem_map.mp settled
      cases refused
  | drop p =>
      obtain ⟨value, first, rfl⟩ := List.mem_map.mp settled
      exact ⟨rfl, Option.mem_toList.mp first⟩

omit [DecidableEq π] in
/-- A move settles no more than one value. -/
theorem settles_alone {owed : π → List ε} {move : Move π ε} {first last : List (Attempt (π × ε))}
    {entry : Attempt (π × ε)} (settled : move.settles owed = first ++ entry :: last) : first = [] := by
  have short : (move.settles owed).length ≤ 1 := by
    cases move with
    | idle | commit => exact Nat.zero_le 1
    | enqueue p | drop p => cases owes : owed p <;> simp [Move.settles, owes]
  rw [settled, List.length_append, List.length_cons] at short
  exact List.length_eq_zero_iff.mp (by omega)

/-! ## The order of the queue -/

/-- What a producer has committed is what it handed over or dropped, one after the other, and what it
    owes. -/
theorem exists_log (moves : List (Move π ε)) (p : π) : ∃ log : List (Attempt (Item π ε)),
    Attempt.taken log = (run moves).queue.filter (·.producer = p) ∧
    (∀ entry ∈ log, entry.accepted = false → entry.message ∈ (run moves).dropped) ∧
    log.map Attempt.message ++ (run moves).owed p =
      (committed moves).filter (·.producer = p) := by
  induction moves using List.reverseRecOn with
  | nil => exact ⟨[], rfl, nofun, rfl⟩
  | append_singleton moves move ih =>
      obtain ⟨log, taken, refused, whole⟩ := ih
      rw [run_concat, committed_concat, List.filter_append, ← whole]
      cases move with
      | idle => exact ⟨log, taken, refused, by simp [step, Move.commits]⟩
      | commit q values =>
          refine ⟨log, taken, refused, ?_⟩
          by_cases here : q = p
          · subst here
            have own : ((Move.commit q values).commits moves.length).filter (·.producer = q) =
                values.map fun value => ⟨q, moves.length, value⟩ := by
              refine List.filter_eq_self.mpr fun item member => ?_
              obtain ⟨value, -, rfl⟩ := List.mem_map.mp member
              exact decide_eq_true rfl
            simp [step, own, clock_run]
          · simp [step, Move.commits, List.filter_map, here, Function.comp_def,
              Function.update_of_ne (Ne.symm here)]
      | enqueue q =>
          simp only [step, Move.commits, List.filter_nil, List.append_nil, List.filter_append]
          cases owes : (run moves).owed q with
          | nil =>
              refine ⟨log, by simpa using taken, refused, ?_⟩
              by_cases here : p = q
              · simp [here, owes]
              · simp [Function.update_of_ne here]
          | cons first rest =>
              have mine : first.producer = q := producer_of_owed (by rw [owes]; exact List.mem_cons_self)
              by_cases here : p = q
              · subst here
                refine ⟨log ++ [⟨first, true⟩], ?_, fun entry member no => ?_, ?_⟩
                · rw [Attempt.taken_append, taken]
                  simp [mine, Attempt.taken]
                · obtain old | new_ := List.mem_append.mp member
                  · exact refused entry old no
                  · obtain rfl := List.mem_singleton.mp new_
                    cases no
                · simp [owes]
              · refine ⟨log, ?_, refused, ?_⟩
                · simp [taken, mine, Ne.symm here]
                · simp [Function.update_of_ne here]
      | drop q =>
          simp only [step, Move.commits, List.filter_nil, List.append_nil]
          by_cases here : p = q
          · subst here
            cases owes : (run moves).owed p with
            | nil => exact ⟨log, taken, by simpa using refused, by simp⟩
            | cons first rest =>
                refine ⟨log ++ [⟨first, false⟩], ?_, fun entry member no => ?_, by simp⟩
                · rw [Attempt.taken_append, taken]
                  simp [Attempt.taken]
                · obtain old | new_ := List.mem_append.mp member
                  · exact List.mem_append_left _ (refused entry old no)
                  · obtain rfl := List.mem_singleton.mp new_
                    exact List.mem_append_right _ (List.mem_singleton_self _)
          · refine ⟨log, taken, fun entry member no => ?_, by simp [Function.update_of_ne here]⟩
            exact List.mem_append_left _ (refused entry member no)

/-- What a producer has handed over, followed by what it owes, is among what it committed, in order. -/
theorem handed_over (moves : List (Move π ε)) (p : π) :
    ((run moves).queue.filter (·.producer = p) ++ (run moves).owed p).Sublist
      ((committed moves).filter (·.producer = p)) := by
  obtain ⟨log, taken, -, whole⟩ := exists_log moves p
  rw [← whole, ← taken]
  exact (List.filter_sublist.map Attempt.message).append_right _

theorem queue_committed (member : x ∈ (run moves).queue) : x ∈ committed moves := by
  have own : x ∈ (run moves).queue.filter (·.producer = x.producer) :=
    List.mem_filter.mpr ⟨member, decide_eq_true rfl⟩
  exact (List.mem_filter.mp ((handed_over moves x.producer).subset (List.mem_append_left _ own))).1

omit [DecidableEq π] in
theorem commit_lt (member : x ∈ committed moves) : x.commit < moves.length := by
  obtain ⟨values, found, -⟩ := mem_committed.mp member
  exact (List.getElem?_eq_some_iff.mp found).1

omit [DecidableEq π] in
/-- Items are committed in the order of their marks. -/
theorem committed_sorted (moves : List (Move π ε)) :
    (committed moves).Pairwise (·.commit ≤ ·.commit) := by
  induction moves using List.reverseRecOn with
  | nil => exact .nil
  | append_singleton moves move ih =>
      rw [committed_concat, List.pairwise_append]
      refine ⟨ih, ?_, fun old member new_ member' => ?_⟩
      · exact List.pairwise_of_forall_mem_list fun item member item' member' =>
          Nat.le_of_eq ((commit_of_mem member).trans (commit_of_mem member').symm)
      · rw [commit_of_mem member']
        exact Nat.le_of_lt (commit_lt member)

/-- One producer's items come in the order of its commits. -/
theorem same_producer (before : [x, y].Sublist (run moves).queue) (same : x.producer = y.producer) :
    x.commit ≤ y.commit := by
  have own : [x, y].Sublist ((run moves).queue.filter (·.producer = y.producer)) := by
    have kept := before.filter (·.producer = y.producer)
    simpa [same] using kept
  have listed := (own.trans (List.sublist_append_left _ _)).trans
    ((handed_over moves y.producer).trans List.filter_sublist)
  exact List.pairwise_iff_forall_sublist.mp (committed_sorted moves) listed

/-- A move leaves the queue as it is, or adds the first item that a producer owes. -/
theorem queue_step (feed : Feed π ε) (move : Move π ε) : (feed.step move).queue = feed.queue ∨
    ∃ p first, first ∈ feed.owed p ∧ (feed.step move).queue = feed.queue ++ [first] := by
  cases move with
  | enqueue p =>
      cases owes : feed.owed p with
      | nil => exact .inl (by simp [step, owes])
      | cons first rest =>
          exact .inr ⟨p, first, by rw [owes]; exact List.mem_cons_self, by simp [step, owes]⟩
  | _ => exact .inl rfl

/-- An item is overtaken only by items that were committed while it was owed. -/
theorem overtaken (before : [x, y].Sublist (run moves).queue) (later : y.commit < x.commit) :
    y ∈ (run (moves.take x.commit)).owed y.producer := by
  have all : (run moves).queue.Pairwise fun x y => y.commit < x.commit →
      y ∈ (run (moves.take x.commit)).owed y.producer := by
    clear before later
    induction moves using List.reverseRecOn with
    | nil => exact .nil
    | append_singleton moves move ih =>
        have past : ∀ x ∈ (run moves).queue, x.commit ≤ moves.length :=
          fun x member => Nat.le_of_lt (commit_lt (queue_committed member))
        have kept : (run moves).queue.Pairwise fun x y => y.commit < x.commit →
            y ∈ (run ((moves ++ [move]).take x.commit)).owed y.producer := by
          refine ih.imp_of_mem fun {x y} member _ held later => ?_
          rw [List.take_append_of_le_length (past x member)]
          exact held later
        rw [run_concat]
        obtain same | ⟨p, first, owes, added⟩ := queue_step (run moves) move
        · rw [same]
          exact kept
        · rw [added, List.pairwise_append]
          refine ⟨kept, List.pairwise_singleton .., fun x member y here later => ?_⟩
          obtain rfl := List.mem_singleton.mp here
          rw [List.take_append_of_le_length (past x member)]
          obtain rfl := producer_of_owed owes
          exact owed_since owes later (past x member)
  exact List.pairwise_iff_forall_sublist.mp all before later

/-! ## A queue that nothing is missing from -/

/-- Of the kind of items of which none was dropped, a producer has handed over or owes all it committed. -/
theorem handed_over_kept {kind : Item π ε → Bool}
    (kept : ∀ item ∈ (run moves).dropped, kind item = false) (p : π) :
    ((run moves).queue.filter (·.producer = p) ++ (run moves).owed p).filter kind =
      ((committed moves).filter (·.producer = p)).filter kind := by
  obtain ⟨log, taken, refused, whole⟩ := exists_log moves p
  rw [← whole, ← taken, List.filter_append, List.filter_append]
  refine congrArg (· ++ _) ?_
  rw [Attempt.taken, List.filter_map, List.filter_map, List.filter_filter]
  refine congrArg _ (List.filter_congr fun entry member => ?_)
  cases accepted : entry.accepted with
  | true => simp
  | false => simp [kept entry.message (refused entry member accepted)]

omit [DecidableEq π] in
/-- Items of one mark have one producer. -/
theorem producer_unique (moves : List (Move π ε)) (n : Nat) :
    (∃ p, ∀ item ∈ committed moves, item.commit = n → item.producer = p) ∨
      ∀ item ∈ committed moves, item.commit ≠ n := by
  by_cases some_ : ∃ item ∈ committed moves, item.commit = n
  · obtain ⟨first, member, rfl⟩ := some_
    obtain ⟨values, found, -⟩ := mem_committed.mp member
    refine .inl ⟨first.producer, fun item member' same => ?_⟩
    obtain ⟨values', found', -⟩ := mem_committed.mp member'
    rw [same, found, Option.some.injEq, Move.commit.injEq] at found'
    exact found'.1.symm
  · exact .inr fun item member same => some_ ⟨item, member, same⟩

/-- Lists in the order of a mark are the same when they agree for every mark. -/
theorem eq_of_marks {α : Type v} {mark : α → Nat} {first second : List α}
    (sorted : first.Pairwise (mark · ≤ mark ·)) (sorted' : second.Pairwise (mark · ≤ mark ·))
    (agree : ∀ n, first.filter (mark · = n) = second.filter (mark · = n)) : first = second := by
  induction first generalizing second with
  | nil =>
      cases second with
      | nil => rfl
      | cons b rest => simpa using agree (mark b)
  | cons a rest ih =>
      cases second with
      | nil => simpa using agree (mark a)
      | cons b rest' =>
          obtain ⟨least, ordered⟩ := List.pairwise_cons.mp sorted
          obtain ⟨least', ordered'⟩ := List.pairwise_cons.mp sorted'
          have mem : ∀ {c} {l l' : List α}, (∀ n, l.filter (mark · = n) = l'.filter (mark · = n)) →
              c ∈ l → c ∈ l' := by
            intro c l l' agree member
            have listed : c ∈ l.filter (mark · = mark c) := List.mem_filter.mpr ⟨member, by simp⟩
            rw [agree] at listed
            exact (List.mem_filter.mp listed).1
          have low : mark b ≤ mark a := by
            obtain rfl | later := List.mem_cons.mp (mem agree List.mem_cons_self)
            · exact Nat.le_refl _
            · exact least' a later
          have high : mark a ≤ mark b := by
            obtain rfl | later := List.mem_cons.mp (mem (fun n => (agree n).symm) List.mem_cons_self)
            · exact Nat.le_refl _
            · exact least b later
          have same : mark a = mark b := Nat.le_antisymm high low
          obtain rfl : a = b := by
            have firsts := agree (mark a)
            rw [List.filter_cons_of_pos (by simp), List.filter_cons_of_pos (by simp [same])] at firsts
            exact (List.cons.inj firsts).1
          refine congrArg _ (ih ordered ordered' fun n => ?_)
          have tails := agree n
          by_cases here : mark a = n
          · rw [List.filter_cons_of_pos (by simpa using here),
              List.filter_cons_of_pos (by simpa using here)] at tails
            exact (List.cons.inj tails).2
          · rwa [List.filter_cons_of_neg (by simpa using here),
              List.filter_cons_of_neg (by simpa using here)] at tails

/-- When the items of a kind are neither owed nor dropped and none of them overtook another, the queue has
    them as they were committed. -/
theorem queue_eq_committed {kind : Item π ε → Bool}
    (settled : ∀ p, ∀ item ∈ (run moves).owed p, kind item = false)
    (kept : ∀ item ∈ (run moves).dropped, kind item = false)
    (sorted : ((run moves).queue.filter kind).Pairwise (·.commit ≤ ·.commit)) :
    (run moves).queue.filter kind = (committed moves).filter kind := by
  refine eq_of_marks sorted ((committed_sorted moves).filter kind) fun n => ?_
  obtain ⟨p, own⟩ | none_ := producer_unique moves n
  · -- what is marked with `n` is the producer's, whose items are all in the queue
    have narrowed : ∀ items : List (Item π ε), (∀ item ∈ items, item ∈ committed moves) →
        (items.filter kind).filter (·.commit = n) =
          ((items.filter (·.producer = p)).filter kind).filter (·.commit = n) := by
      intro items known
      simp only [List.filter_filter]
      refine List.filter_congr fun item member => ?_
      by_cases here : item.commit = n
      · simp [here, own item (known item member) here]
      · simp [here]
    have all := handed_over_kept kept p
    have none_ : ((run moves).owed p).filter kind = [] :=
      List.filter_eq_nil_iff.mpr fun item member => by simp [settled p item member]
    rw [List.filter_append, none_, List.append_nil] at all
    rw [narrowed _ fun item => queue_committed, narrowed _ fun item => id, all]
  · have empty : ∀ items : List (Item π ε), (∀ item ∈ items, item ∈ committed moves) →
        (items.filter kind).filter (·.commit = n) = [] := by
      intro items known
      refine List.filter_eq_nil_iff.mpr fun item member => ?_
      simpa using none_ item (known item (List.mem_filter.mp member).1)
    rw [empty _ fun item => queue_committed, empty _ fun item => id]

end Feed
