import AsterFsd.Lib.KeyedMap

/-! # Secondary indexes

A table holds values by their primary key and an index finds some of them by a second key that the
value carries. The index is exact when it finds an entry precisely under the key that the entry
carries; the lemmas say which updates of the pair keep it exact.
-/

universe u v w

namespace KeyedMap

variable {κ : Type u} {ι : Type v} {ν : Type w} [DecidableEq κ] [DecidableEq ι]

/-- `index` finds each entry of `table` under the key it carries, and finds nothing else. -/
def Indexes (index : KeyedMap κ ι) (table : KeyedMap ι ν) (key : ν → Option κ) : Prop :=
  ∀ k i, index.lookup k = some i ↔ ∃ v, table.lookup i = some v ∧ key v = some k

namespace Indexes

variable {index : KeyedMap κ ι} {table : KeyedMap ι ν} {key : ν → Option κ}

theorem empty (key : ν → Option κ) : Indexes (∅ : KeyedMap κ ι) (∅ : KeyedMap ι ν) key := by
  intro k i
  simp

/-- No two entries carry the same key. -/
theorem unique (agree : Indexes index table key) {i j : ι} {v w : ν} {k : κ}
    (first : table.lookup i = some v) (second : table.lookup j = some w) (keyed : key v = some k)
    (same : key w = some k) : i = j := by
  have found := (agree k i).mpr ⟨v, first, keyed⟩
  rw [(agree k j).mpr ⟨w, second, same⟩] at found
  exact (Option.some.inj found).symm

theorem insert_unkeyed (agree : Indexes index table key) {i : ι} {v : ν}
    (absent : table.lookup i = none) (unkeyed : key v = none) :
    Indexes index (table.insert i v) key := by
  intro k j
  rw [agree k j]
  by_cases here : j = i
  · subst here
    simp [absent, unkeyed]
  · rw [AList.lookup_insert_ne here]

/-- An update that leaves the key of its entry alone leaves the index exact. -/
theorem modify_keyed (agree : Indexes index table key) {i : ι} {f : ν → ν}
    (kept : ∀ v, table.lookup i = some v → key (f v) = key v) :
    Indexes index (table.modify i f) key := by
  intro k j
  rw [agree k j]
  by_cases here : j = i
  · subst here
    simp only [lookup_modify_self]
    cases found : table.lookup j with
    | none => simp
    | some v => simp [kept v found]
  · rw [lookup_modify_ne table here]

/-- An entry without a key takes a key that is not in use. -/
theorem assign (agree : Indexes index table key) {i : ι} {v : ν} {k : κ} {f : ν → ν}
    (found : table.lookup i = some v) (unkeyed : key v = none) (keyed : key (f v) = some k)
    (unused : k ∉ index) : Indexes (index.insert k i) (table.modify i f) key := by
  have free : index.lookup k = none := AList.lookup_eq_none.mpr unused
  intro k' j
  by_cases here : j = i
  · subst here
    simp only [lookup_modify_self, found, Option.map_some, Option.some.injEq, exists_eq_left', keyed]
    by_cases asked : k' = k
    · subst asked
      simp
    · have elsewhere : index.lookup k' ≠ some j := by
        intro listed
        obtain ⟨w, stored, carries⟩ := (agree k' j).mp listed
        rw [found] at stored
        cases stored
        simp [unkeyed] at carries
      simp [AList.lookup_insert_ne asked, elsewhere, Ne.symm asked]
  · rw [lookup_modify_ne table here, ← agree k' j]
    by_cases asked : k' = k
    · subst asked
      simp [free, Ne.symm here]
    · rw [AList.lookup_insert_ne asked]

theorem erase_unkeyed (agree : Indexes index table key) {i : ι} {v : ν}
    (found : table.lookup i = some v) (unkeyed : key v = none) :
    Indexes index (table.erase i) key := by
  intro k j
  rw [agree k j]
  by_cases here : j = i
  · subst here
    simp [found, unkeyed]
  · rw [AList.lookup_erase_ne here]

/-- Erasing an entry together with its key. -/
theorem erase_keyed (agree : Indexes index table key) {i : ι} {v : ν} {k : κ}
    (found : table.lookup i = some v) (keyed : key v = some k) :
    Indexes (index.erase k) (table.erase i) key := by
  intro k' j
  by_cases here : j = i
  · subst here
    simp only [AList.lookup_erase, reduceCtorEq, false_and, exists_false, iff_false]
    by_cases asked : k' = k
    · subst asked
      simp
    · rw [AList.lookup_erase_ne asked, agree k' j]
      rintro ⟨w, stored, carries⟩
      rw [found] at stored
      cases stored
      rw [keyed] at carries
      exact asked (Option.some.inj carries).symm
  · rw [AList.lookup_erase_ne here, ← agree k' j]
    by_cases asked : k' = k
    · subst asked
      have listed := (agree k' i).mpr ⟨v, found, keyed⟩
      simp [listed, Ne.symm here]
    · rw [AList.lookup_erase_ne asked]

end Indexes

end KeyedMap
