import Mathlib.Algebra.Order.BigOperators.Group.List
import Mathlib.Algebra.Order.Ring.Nat
import Mathlib.Data.List.AList

/-! # Keyed maps with in-place update

Association lists with distinct keys, read as hash maps: at most one value per key, an iteration
order that the operations do not promise, and an update that changes the value of a present key
without touching any other entry. Lookup laws of `insert` and `erase` are those of `AList`; this
file adds in-place update, the list of values and the number of entries.
-/

universe u v w

/-- A finite map from `κ` to `ν`. -/
abbrev KeyedMap (κ : Type u) (ν : Type v) := AList (fun _ : κ => ν)

namespace KeyedMap

variable {κ : Type u} {ν : Type v}

/-- The values in iteration order. -/
def values (m : KeyedMap κ ν) : List ν := m.entries.map Sigma.snd

/-- The number of entries. -/
def size (m : KeyedMap κ ν) : Nat := m.entries.length

theorem size_eq_keys (m : KeyedMap κ ν) : m.size = m.keys.length := by
  simp [size, AList.keys, List.keys]

@[simp] theorem size_empty : size (∅ : KeyedMap κ ν) = 0 := rfl

@[simp] theorem values_empty : values (∅ : KeyedMap κ ν) = [] := rfl

variable [DecidableEq κ]

theorem mem_entries_iff {m : KeyedMap κ ν} {k : κ} {v : ν} :
    (⟨k, v⟩ : Sigma fun _ : κ => ν) ∈ m.entries ↔ m.lookup k = some v :=
  (AList.mem_lookup_iff (s := m)).symm

theorem mem_values_iff {m : KeyedMap κ ν} {v : ν} :
    v ∈ values m ↔ ∃ k, m.lookup k = some v := by
  simp only [values, List.mem_map]
  constructor
  · rintro ⟨⟨k, w⟩, member, rfl⟩
    exact ⟨k, mem_entries_iff.mp member⟩
  · rintro ⟨k, found⟩
    exact ⟨⟨k, v⟩, mem_entries_iff.mpr found, rfl⟩

theorem mem_of_lookup {m : KeyedMap κ ν} {k : κ} {v : ν} (found : m.lookup k = some v) : k ∈ m :=
  AList.lookup_isSome.mp (by simp [found])

theorem exists_lookup {m : KeyedMap κ ν} {k : κ} (member : k ∈ m) : ∃ v, m.lookup k = some v :=
  Option.isSome_iff_exists.mp (AList.lookup_isSome.mpr member)

/-- When every value carries its own key, reading the keys off the values gives the keys. -/
theorem map_values_eq_keys {m : KeyedMap κ ν} {key : ν → κ}
    (carried : ∀ k v, m.lookup k = some v → key v = k) : (values m).map key = m.keys := by
  simp only [values, AList.keys, List.keys, List.map_map]
  apply List.map_congr_left
  rintro ⟨k, v⟩ member
  exact carried k v (mem_entries_iff.mp member)

/-- A selection of values, reduced to the keys they carry, repeats no key. -/
theorem nodup_selected {m : KeyedMap κ ν} {key : ν → κ}
    (carried : ∀ k v, m.lookup k = some v → key v = k) (p : ν → Bool) :
    (((values m).filter p).map key).Nodup := by
  have sublist : (((values m).filter p).map key).Sublist ((values m).map key) :=
    List.filter_sublist.map key
  rw [map_values_eq_keys carried] at sublist
  exact sublist.nodup m.keys_nodup

theorem mem_selected {m : KeyedMap κ ν} {key : ν → κ}
    (carried : ∀ k v, m.lookup k = some v → key v = k) {p : ν → Bool} {k : κ} :
    k ∈ ((values m).filter p).map key ↔ ∃ v, m.lookup k = some v ∧ p v = true := by
  simp only [List.mem_map, List.mem_filter, mem_values_iff]
  constructor
  · rintro ⟨v, ⟨⟨k', found⟩, selected⟩, rfl⟩
    exact ⟨v, by rw [carried k' v found]; exact found, selected⟩
  · rintro ⟨v, found, selected⟩
    exact ⟨v, ⟨⟨k, found⟩, selected⟩, carried k v found⟩

/-! ## Size -/

theorem size_insert_of_notMem {m : KeyedMap κ ν} {k : κ} (absent : k ∉ m) (v : ν) :
    size (m.insert k v) = size m + 1 := by
  rw [size, AList.entries_insert_of_notMem absent, List.length_cons, size]

theorem size_erase_le (m : KeyedMap κ ν) (k : κ) : size (m.erase k) ≤ size m := by
  rw [size_eq_keys, size_eq_keys, AList.keys_erase]
  exact List.length_erase_le

/-! ## In-place update -/

/-- Change the value of a present key. An absent key stays absent. -/
def modify (m : KeyedMap κ ν) (k : κ) (f : ν → ν) : KeyedMap κ ν :=
  match m.lookup k with
  | none => m
  | some v => m.replace k (f v)

private theorem kreplace_cons_self (k : κ) (v old : ν) (l : List (Sigma fun _ : κ => ν)) :
    List.kreplace k v (⟨k, old⟩ :: l) = ⟨k, v⟩ :: l :=
  List.lookmap_cons_some _ _ (by simp)

private theorem kreplace_cons_ne {k key : κ} (other : k ≠ key) (v old : ν)
    (l : List (Sigma fun _ : κ => ν)) :
    List.kreplace k v (⟨key, old⟩ :: l) = ⟨key, old⟩ :: List.kreplace k v l :=
  List.lookmap_cons_none _ _ (by simp [other])

private theorem dlookup_kreplace (k k' : κ) (v : ν) (l : List (Sigma fun _ : κ => ν)) :
    (l.kreplace k v).dlookup k' =
      if k' = k then (l.dlookup k).map (fun _ => v) else l.dlookup k' := by
  induction l with
  | nil => simp [List.kreplace]
  | cons entry rest ih =>
      obtain ⟨key, old⟩ := entry
      by_cases same : k = key
      · subst same
        rw [kreplace_cons_self]
        by_cases asked : k' = k
        · subst asked
          simp
        · simp [asked]
      · rw [kreplace_cons_ne same]
        by_cases asked : k' = k
        · subst asked
          simp [List.dlookup_cons_ne, same, ih]
        · by_cases here : k' = key
          · subst here
            simp [asked]
          · simp [List.dlookup_cons_ne, here, ih, asked]

theorem lookup_modify (m : KeyedMap κ ν) (k k' : κ) (f : ν → ν) :
    (m.modify k f).lookup k' = if k' = k then (m.lookup k).map f else m.lookup k' := by
  unfold modify
  cases found : m.lookup k with
  | none =>
      by_cases same : k' = k
      · subst same
        simp [found]
      · simp [same]
  | some v =>
      simp only [AList.lookup, AList.replace, dlookup_kreplace]
      by_cases same : k' = k
      · subst same
        simp only [if_true, Option.map_some]
        rw [show List.dlookup k' m.entries = some v from found]
        rfl
      · simp [same]

@[simp] theorem lookup_modify_self (m : KeyedMap κ ν) (k : κ) (f : ν → ν) :
    (m.modify k f).lookup k = (m.lookup k).map f := by
  simp [lookup_modify]

theorem lookup_modify_ne (m : KeyedMap κ ν) {k k' : κ} (other : k' ≠ k) (f : ν → ν) :
    (m.modify k f).lookup k' = m.lookup k' := by
  simp [lookup_modify, other]

@[simp] theorem keys_modify (m : KeyedMap κ ν) (k : κ) (f : ν → ν) : (m.modify k f).keys = m.keys := by
  unfold modify
  cases m.lookup k <;> simp

@[simp] theorem size_modify (m : KeyedMap κ ν) (k : κ) (f : ν → ν) : size (m.modify k f) = size m := by
  simp [size_eq_keys]

/-! ## Weights -/

/-- The sum of a weight over the values. -/
def weigh (f : ν → Nat) (m : KeyedMap κ ν) : Nat := ((values m).map f).sum

theorem weigh_insert (f : ν → Nat) (m : KeyedMap κ ν) (k : κ) (v : ν) :
    weigh f (m.insert k v) = f v + weigh f (m.erase k) := by
  rw [weigh, values, AList.entries_insert]
  rfl

theorem weigh_erase {f : ν → Nat} {m : KeyedMap κ ν} {k : κ} {v : ν}
    (found : m.lookup k = some v) : weigh f m = f v + weigh f (m.erase k) := by
  have member : k ∈ m.entries.keys := mem_of_lookup found
  obtain ⟨v', before, after, absent, split, erased⟩ := List.exists_of_kerase member
  have same : v' = v := by
    have stored : (⟨k, v'⟩ : Sigma fun _ : κ => ν) ∈ m.entries := by simp [split]
    exact Option.some.inj ((mem_entries_iff.mp stored).symm.trans found)
  subst same
  have whole : weigh f m = (((before ++ ⟨k, v'⟩ :: after).map Sigma.snd).map f).sum := by
    rw [← split, weigh, values]
  have rest : weigh f (m.erase k) = (((before ++ after).map Sigma.snd).map f).sum := by
    rw [← erased, weigh, values]
    rfl
  rw [whole, rest]
  simp only [List.map_append, List.map_cons, List.sum_append, List.sum_cons]
  omega

/-- Replacing a value changes the sum by the difference. -/
theorem weigh_replace {f : ν → Nat} {m : KeyedMap κ ν} {k : κ} {v : ν}
    (found : m.lookup k = some v) (v' : ν) :
    weigh f (m.insert k v') + f v = weigh f m + f v' := by
  rw [weigh_insert, weigh_erase found]
  omega

theorem weigh_mono {f g : ν → Nat} {m : KeyedMap κ ν}
    (below : ∀ k v, m.lookup k = some v → f v ≤ g v) : weigh f m ≤ weigh g m := by
  unfold weigh
  refine List.sum_le_sum fun v member => ?_
  obtain ⟨k, found⟩ := mem_values_iff.mp member
  exact below k v found

private theorem map_kreplace {f : ν → Nat} {k : κ} {v old : ν} (same : f v = f old)
    {l : List (Sigma fun _ : κ => ν)} (found : l.dlookup k = some old) :
    (List.kreplace k v l).map (fun entry => f entry.2) = l.map (fun entry => f entry.2) := by
  induction l with
  | nil => cases found
  | cons entry rest ih =>
      obtain ⟨key, stored⟩ := entry
      by_cases here : k = key
      · subst here
        obtain rfl : stored = old := Option.some.inj ((List.dlookup_cons_eq rest k stored).symm.trans found)
        rw [kreplace_cons_self]
        simp [same]
      · rw [kreplace_cons_ne here, List.map_cons, List.map_cons,
          ih ((List.dlookup_cons_ne rest ⟨key, stored⟩ here).symm.trans found)]

/-- An update that keeps the weight of the value keeps the sum. -/
theorem weigh_modify {f : ν → Nat} {g : ν → ν} (same : ∀ v, f (g v) = f v) (m : KeyedMap κ ν) (k : κ) :
    weigh f (m.modify k g) = weigh f m := by
  unfold modify
  cases found : m.lookup k with
  | none => rfl
  | some v =>
      have kept := map_kreplace (same v) found
      simp only [weigh, values, List.map_map, AList.replace]
      exact congrArg List.sum kept

/-! ## Maps of values -/

variable {μ : Type w} (f : ν → μ)

private def onValue (entry : Sigma fun _ : κ => ν) : Sigma fun _ : κ => μ := ⟨entry.1, f entry.2⟩

/-- Apply a function to every value. -/
def mapValues (m : KeyedMap κ ν) : KeyedMap κ μ where
  entries := m.entries.map (onValue f)
  nodupKeys := by
    have same : List.keys (m.entries.map (onValue f)) = m.entries.keys := by
      simp [List.keys, Function.comp_def, onValue]
    unfold List.NodupKeys
    rw [same]
    exact m.nodupKeys

@[simp] theorem lookup_mapValues (m : KeyedMap κ ν) (k : κ) :
    (m.mapValues f).lookup k = (m.lookup k).map f :=
  List.dlookup_map₂ (γ := fun _ => ν) (δ := fun _ => μ) (f := fun _ => f) k

@[simp] theorem mem_mapValues {m : KeyedMap κ ν} {k : κ} : k ∈ m.mapValues f ↔ k ∈ m := by
  rw [← AList.lookup_isSome, lookup_mapValues, Option.isSome_map, AList.lookup_isSome]

omit [DecidableEq κ] in
theorem values_mapValues (m : KeyedMap κ ν) : values (m.mapValues f) = m.values.map f := by
  simp [values, mapValues, Function.comp_def, onValue]

private theorem kerase_map (k : κ) (l : List (Sigma fun _ : κ => ν)) :
    List.kerase k (l.map (onValue f)) = (List.kerase k l).map (onValue f) := by
  induction l with
  | nil => rfl
  | cons entry l ih =>
      have first : (onValue f entry).1 = entry.1 := rfl
      by_cases here : k = entry.1
      · rw [List.map_cons, List.kerase_cons_eq (here.trans first.symm), List.kerase_cons_eq here]
      · rw [List.map_cons, List.kerase_cons_ne (by rw [first]; exact here),
          List.kerase_cons_ne here, ih, List.map_cons]

theorem mapValues_erase (m : KeyedMap κ ν) (k : κ) :
    mapValues f (m.erase k) = (m.mapValues f).erase k :=
  AList.ext (kerase_map f k m.entries).symm

theorem mapValues_insert (m : KeyedMap κ ν) (k : κ) (v : ν) :
    mapValues f (m.insert k v) = (m.mapValues f).insert k (f v) := by
  apply AList.ext
  change List.map (onValue f) (m.insert k v).entries = ((m.mapValues f).insert k (f v)).entries
  rw [AList.entries_insert, AList.entries_insert, List.map_cons, ← kerase_map]
  rfl

end KeyedMap
