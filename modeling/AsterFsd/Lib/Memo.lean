import AsterFsd.Lib.KeyedMap

/-! # A cache in front of a fallible function

Arguments that share a key have the same result. The cache keeps the results of the calls that succeeded
and answers from them, so that it answers as the function does.
-/

universe u v w x

namespace Memo

variable {κ : Type u} {α : Type v} {ν : Type w} {ε : Type x} [DecidableEq κ]
  (key : α → κ) (compute : α → Except ε ν)

/-- Every result kept is the one that the function computes. -/
def Coherent (cache : KeyedMap κ ν) : Prop :=
  ∀ a v, cache.lookup (key a) = some v → compute a = .ok v

/-- Answer from the cache, or compute and keep the result. -/
def fetch (cache : KeyedMap κ ν) (a : α) : Except ε ν × KeyedMap κ ν :=
  match cache.lookup (key a) with
  | some v => (.ok v, cache)
  | none =>
      match compute a with
      | .ok v => (.ok v, cache.insert (key a) v)
      | .error error => (.error error, cache)

variable {key compute} {cache : KeyedMap κ ν}

theorem Coherent.empty : Coherent key compute ∅ := fun _ _ found => nomatch found

theorem Coherent.fetch_eq (coherent : Coherent key compute cache) (a : α) :
    (fetch key compute cache a).1 = compute a := by
  unfold fetch
  cases found : cache.lookup (key a) with
  | some v => exact (coherent a v found).symm
  | none => cases compute a <;> rfl

theorem Coherent.fetch (respects : ∀ a b, key a = key b → compute a = compute b)
    (coherent : Coherent key compute cache) (a : α) :
    Coherent key compute (fetch key compute cache a).2 := by
  unfold Memo.fetch
  cases found : cache.lookup (key a) with
  | some v => exact coherent
  | none =>
      cases computed : compute a with
      | error => exact coherent
      | ok v =>
          intro b u stored
          by_cases same : key b = key a
          · rw [same] at stored
            obtain rfl := Option.some.inj ((AList.lookup_insert cache).symm.trans stored)
            rw [respects b a same, computed]
          · exact coherent b u ((AList.lookup_insert_ne same).symm.trans stored)

end Memo
