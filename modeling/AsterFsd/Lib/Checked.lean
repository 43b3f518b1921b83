import AsterFsd.Lib.Text

/-! # Computations that may panic

A fallible computation gives a value or an error. Taking an element or a slice out of range gives neither:
it panics. A computation is followed together with its result, which is what it gives if it does not.
-/

/-- A computation with errors, or a panic. -/
abbrev Checked (ε α : Type) := ExceptT ε Option α

namespace Checked

variable {ε α β : Type}

/-- What cannot panic. -/
def lift (result : Except ε α) : Checked ε α := ExceptT.mk (some result)

/-- A value, or a panic. -/
def orPanic (value : Option α) : Checked ε α := ExceptT.mk (value.map .ok)

/-- `items[i]`. -/
def index (items : List α) (i : Nat) : Checked ε α := orPanic items[i]?

/-- `items[start..]`. -/
def sliceFrom (items : List α) (start : Nat) : Checked ε (List α) :=
  orPanic (if start ≤ items.length then some (items.drop start) else none)

/-- The characters before and after a byte index. There are none if the text is shorter, or if a character
    lies across the index. -/
def splitChars : List Char → Nat → Option (List Char × List Char)
  | l, 0 => some ([], l)
  | [], _ + 1 => none
  | c :: l, n + 1 =>
      if n + 1 < c.utf8Size then none
      else (splitChars l (n + 1 - c.utf8Size)).map fun (before, after) => (c :: before, after)

/-- `&text[..stop]`. -/
def textTo (text : String) (stop : Nat) : Checked ε String :=
  orPanic ((splitChars text.toList stop).map fun pieces => String.ofList pieces.1)

/-- `&text[start..]`. -/
def textFrom (text : String) (start : Nat) : Checked ε String :=
  orPanic ((splitChars text.toList start).map fun pieces => String.ofList pieces.2)

example : splitChars "aé".toList 1 = some (['a'], ['é']) ∧ splitChars "aé".toList 2 = none := by decide

def mapError {ε' : Type} (f : ε → ε') (x : Checked ε α) : Checked ε' α :=
  ExceptT.mk (x.run.map (·.mapError f))

/-- The computation does not panic, and this is its result. -/
def Gives (x : Checked ε α) (result : Except ε α) : Prop := x.run = some result

section Rules

variable {x : Checked ε α} {f : α → Checked ε β} {result : Except ε β}

theorem gives_pure (a : α) : Gives (pure a : Checked ε α) (.ok a) := rfl

theorem gives_throw (e : ε) : Gives (throw e : Checked ε α) (.error e) := rfl

theorem gives_lift (r : Except ε α) : Gives (lift r) r := rfl

theorem gives_ite {p : Prop} [Decidable p] {y : Checked ε α} {r r' : Except ε α} {x : Checked ε α}
    (yes : Gives x r) (no : Gives y r') : Gives (if p then x else y) (if p then r else r') := by
  split
  · exact yes
  · exact no

theorem Gives.mapError {ε' : Type} {r : Except ε α} (gives : Gives x r) (f : ε → ε') :
    Gives (mapError f x) (r.mapError f) := congrArg (Option.map (Except.mapError f)) gives

theorem Gives.bind {r : Except ε α} {g : α → Except ε β} (gives : Gives x r)
    (later : ∀ a, r = .ok a → Gives (f a) (g a)) : Gives (x >>= f) (r >>= g) := by
  unfold Gives at gives ⊢
  rw [ExceptT.run_bind, gives]
  cases r with
  | error e => rfl
  | ok a => exact later a rfl

theorem Gives.lift_bind {r : Except ε α} {g : α → Except ε β}
    (later : ∀ a, r = .ok a → Gives (f a) (g a)) : Gives (lift r >>= f) (r >>= g) :=
  (gives_lift r).bind later

theorem Gives.orPanic_bind {value : Option α} {a : α} (found : value = some a)
    (later : Gives (f a) result) : Gives (orPanic value >>= f) result := by
  subst found
  exact later

theorem Gives.index_bind {items : List α} {i : Nat} (inside : i < items.length)
    {f : α → Checked ε β} (later : Gives (f items[i]) result) : Gives (index items i >>= f) result :=
  .orPanic_bind (List.getElem?_eq_getElem inside) later

end Rules

theorem splitChars_ascii {l : List Char} {n : Nat} (ascii : ∀ c ∈ l, c.toNat < 128)
    (inside : n ≤ l.length) : splitChars l n = some (l.take n, l.drop n) := by
  induction l generalizing n with
  | nil =>
      obtain rfl := Nat.le_zero.mp inside
      rfl
  | cons c l ih =>
      cases n with
      | zero => rfl
      | succ n =>
          obtain ⟨first, rest⟩ := List.forall_mem_cons.mp ascii
          rw [splitChars, Text.utf8Size_ascii first, if_neg (by omega), Nat.add_sub_cancel,
            ih rest (by rw [List.length_cons] at inside; omega)]
          rfl

end Checked
