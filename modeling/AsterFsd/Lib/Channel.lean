import Mathlib.Tactic.Common

/-! # Bounded channels

A first-in first-out channel of bounded capacity with one receiver. Sending does not wait: it fails when
the channel is full or its receiver is gone. What was received followed by what is queued is what was
sent, in order, whatever the interleaving. A log of attempts in which nothing is accepted after a
refusal accepts a prefix of what was offered.
-/

universe u

inductive TrySendError where
  | full
  | closed
  deriving DecidableEq, Repr

/-- A channel is closed once its receiver is dropped; the messages still queued are then never
    received. -/
structure Channel (α : Type u) where
  capacity : Nat
  queue : List α := []
  closed : Bool := false
  deriving DecidableEq

namespace Channel

variable {α : Type u} {channel next : Channel α} {message : α} {sent received : List α}

/-- There is a receiver and a free slot. -/
def HasRoom (channel : Channel α) : Prop :=
  channel.closed = false ∧ channel.queue.length < channel.capacity

instance decidableHasRoom (channel : Channel α) : Decidable channel.HasRoom :=
  inferInstanceAs (Decidable (_ ∧ _))

def trySend (channel : Channel α) (message : α) : Except TrySendError (Channel α) :=
  if channel.closed then .error .closed
  else if channel.capacity ≤ channel.queue.length then .error .full
  else .ok { channel with queue := channel.queue ++ [message] }

/-- Take the oldest message; `none` when the receiver would wait. -/
def recv (channel : Channel α) : Option (α × Channel α) :=
  match channel.queue with
  | [] => none
  | message :: queue => some (message, { channel with queue })

/-- The receiver is dropped. -/
def close (channel : Channel α) : Channel α := { channel with closed := true }

theorem trySend_ok : channel.trySend message = .ok next ↔
    channel.HasRoom ∧ next = { channel with queue := channel.queue ++ [message] } := by
  unfold trySend HasRoom
  by_cases closed : channel.closed = true
  · simp [closed]
  · have open_ : channel.closed = false := Bool.eq_false_iff.mpr closed
    by_cases full : channel.capacity ≤ channel.queue.length
    · rw [if_neg closed, if_pos full]
      exact ⟨fun accepted => (nomatch accepted), fun ⟨room, _⟩ => absurd room.2 (by omega)⟩
    · rw [if_neg closed, if_neg full]
      exact ⟨fun accepted => ⟨⟨open_, by omega⟩, (Except.ok.inj accepted).symm⟩,
        fun ⟨_, same⟩ => by rw [same]⟩

theorem trySend_isOk : (∃ next, channel.trySend message = .ok next) ↔ channel.HasRoom := by
  simp [trySend_ok]

theorem trySend_error : (∃ error, channel.trySend message = .error error) ↔ ¬ channel.HasRoom := by
  have accepted : (∃ next, channel.trySend message = .ok next) ↔ channel.HasRoom := trySend_isOk
  rw [← accepted]
  cases channel.trySend message <;> simp

theorem recv_eq_some : channel.recv = some (message, next) ↔
    ∃ queue, channel.queue = message :: queue ∧ next = { channel with queue } := by
  unfold recv
  split
  · simp_all
  · rename_i first rest queued
    simp only [queued, Option.some.injEq, Prod.mk.injEq, List.cons.injEq]
    constructor
    · rintro ⟨rfl, rfl⟩
      exact ⟨rest, ⟨rfl, rfl⟩, rfl⟩
    · rintro ⟨queue, ⟨rfl, rfl⟩, rfl⟩
      exact ⟨rfl, rfl⟩

/-- The messages sent are the messages received, followed by those queued. -/
def Carries (channel : Channel α) (sent received : List α) : Prop :=
  sent = received ++ channel.queue

theorem Carries.trySend (carries : channel.Carries sent received)
    (accepted : channel.trySend message = .ok next) : next.Carries (sent ++ [message]) received := by
  obtain ⟨-, rfl⟩ := trySend_ok.mp accepted
  unfold Carries at carries ⊢
  rw [carries, List.append_assoc]

theorem Carries.recv (carries : channel.Carries sent received)
    (taken : channel.recv = some (message, next)) : next.Carries sent (received ++ [message]) := by
  obtain ⟨queue, queued, rfl⟩ := recv_eq_some.mp taken
  unfold Carries at carries ⊢
  rw [carries, queued, List.append_assoc, List.singleton_append]

theorem Carries.close (carries : channel.Carries sent received) :
    channel.close.Carries sent received := carries

theorem Carries.isPrefix (carries : channel.Carries sent received) : received <+: sent :=
  ⟨channel.queue, carries.symm⟩

end Channel

/-! ## Logs of attempts -/

/-- An attempt to send a message. -/
structure Attempt (β : Type u) where
  message : β
  accepted : Bool
  deriving DecidableEq

namespace Attempt

variable {β : Type u} {log : List (Attempt β)}

/-- The messages accepted. -/
def taken (log : List (Attempt β)) : List β := (log.filter (·.accepted)).map message

/-- Once an attempt is refused, every later one is. -/
def Gapless (log : List (Attempt β)) : Prop :=
  log.Pairwise fun earlier later => earlier.accepted = false → later.accepted = false

instance decidableGapless (log : List (Attempt β)) : Decidable (Gapless log) :=
  inferInstanceAs (Decidable (log.Pairwise _))

theorem taken_append (first second : List (Attempt β)) :
    taken (first ++ second) = taken first ++ taken second := by
  simp [taken]

theorem Gapless.isPrefix (gapless : Gapless log) : taken log <+: log.map message := by
  induction log with
  | nil => exact List.prefix_rfl
  | cons attempt log ih =>
      obtain ⟨later, rest⟩ := List.pairwise_cons.mp gapless
      cases accepted : attempt.accepted with
      | true => simpa [taken, accepted] using ih rest
      | false =>
          have none_ : log.filter (·.accepted) = [] := by
            rw [List.filter_eq_nil_iff]
            intro next member
            simp [later next member accepted]
          simp [taken, accepted, none_]

theorem Gapless.refused {first rest : List (Attempt β)} {attempt later : Attempt β}
    (gapless : Gapless (first ++ attempt :: rest)) (dropped : attempt.accepted = false)
    (member : later ∈ rest) : later.accepted = false :=
  (List.pairwise_cons.mp (List.pairwise_append.mp gapless).2.1).1 later member dropped

/-- Nothing was taken of a log that was refused throughout. -/
theorem taken_eq_nil : taken log = [] ↔ ∀ attempt ∈ log, attempt.accepted = false := by
  simp [taken]

theorem gapless_append {first second : List (Attempt β)} : Gapless (first ++ second) ↔
    Gapless first ∧ Gapless second ∧ ∀ earlier ∈ first, ∀ later ∈ second,
      earlier.accepted = false → later.accepted = false := List.pairwise_append

end Attempt
