import Mathlib.Data.List.Pairwise

/-! # Tables with unique columns

A table is a list of rows of which no two conflict, where two rows conflict when they share the value
of a unique column. What counts as the same text is up to the collation of the database, which is an
equivalence.
-/

universe u

/-- Which texts a database takes for the same. -/
structure Collation where
  same : String → String → Bool
  refl : ∀ a, same a a = true
  symm : ∀ {a b}, same a b = true → same b a = true
  trans : ∀ {a b c}, same a b = true → same b c = true → same a c = true

namespace Collation

/-- Texts are compared byte by byte. -/
def binary : Collation where
  same a b := a == b
  refl a := beq_self_eq_true a
  symm := by
    intro a b same
    rw [beq_iff_eq] at same ⊢
    exact same.symm
  trans := by
    intro a b c first second
    rw [beq_iff_eq] at first second ⊢
    exact first.trans second

end Collation

/-- Rows of which no two conflict. -/
structure Table (ρ : Type u) (Conflict : ρ → ρ → Prop) where
  rows : List ρ
  distinct : rows.Pairwise fun a b => ¬ Conflict a b

namespace Table

variable {ρ : Type u} {Conflict : ρ → ρ → Prop}

def empty : Table ρ Conflict := ⟨[], .nil⟩

/-- The first row that the condition selects. -/
def find (table : Table ρ Conflict) (select : ρ → Bool) : Option ρ := table.rows.find? select

/-- A condition on a unique column: rows that it selects conflict with each other. -/
def Unique (Conflict : ρ → ρ → Prop) (select : ρ → Bool) : Prop :=
  ∀ a b, select a = true → select b = true → Conflict a b

theorem find_some {table : Table ρ Conflict} {select : ρ → Bool} {row : ρ}
    (found : table.find select = some row) : row ∈ table.rows ∧ select row = true :=
  ⟨List.mem_of_find?_eq_some found, List.find?_some found⟩

theorem find_none {table : Table ρ Conflict} {select : ρ → Bool} :
    table.find select = none ↔ ∀ row ∈ table.rows, ¬ select row = true :=
  List.find?_eq_none

/-- Rows that conflict are one row. -/
theorem eq_of_conflict [Std.Symm Conflict] {table : Table ρ Conflict} {a b : ρ}
    (first : a ∈ table.rows) (second : b ∈ table.rows) (conflict : Conflict a b) : a = b := by
  have both : Std.Symm fun a b => ¬ Conflict a b := ⟨fun _ _ free other => free (symm other)⟩
  by_contra apart
  exact table.distinct.forall first second apart conflict

/-- A condition on a unique column finds every row that it selects. -/
theorem find_iff [Std.Symm Conflict] {table : Table ρ Conflict} {select : ρ → Bool}
    (unique : Unique Conflict select) {row : ρ} :
    table.find select = some row ↔ row ∈ table.rows ∧ select row = true := by
  constructor
  · exact find_some
  · rintro ⟨member, selected⟩
    cases found : table.find select with
    | none => exact absurd selected (find_none.mp found row member)
    | some other =>
        obtain ⟨stored, also⟩ := find_some found
        rw [eq_of_conflict stored member (unique other row also selected)]

section Insert

variable [DecidableRel Conflict]

/-- Add a row, unless it conflicts with one that is there. -/
def insert (table : Table ρ Conflict) (row : ρ) : Option (Table ρ Conflict) :=
  if free : ∀ other ∈ table.rows, ¬ Conflict other row then
    some ⟨table.rows ++ [row], by
      rw [List.pairwise_append]
      refine ⟨table.distinct, List.pairwise_singleton _ _, fun other member last isRow => ?_⟩
      rw [List.mem_singleton.mp isRow]
      exact free other member⟩
  else none

theorem insert_some {table table' : Table ρ Conflict} {row : ρ}
    (inserted : table.insert row = some table') :
    table'.rows = table.rows ++ [row] ∧ ∀ other ∈ table.rows, ¬ Conflict other row := by
  unfold insert at inserted
  split at inserted
  · rename_i free
    obtain rfl := Option.some.inj inserted
    exact ⟨rfl, free⟩
  · cases inserted

/-- A condition that does not select the new row finds what it found before. -/
theorem find_insert_of_not {table table' : Table ρ Conflict} {row : ρ}
    (inserted : table.insert row = some table') {select : ρ → Bool}
    (passed : ¬ select row = true) : table'.find select = table.find select := by
  rw [find, (insert_some inserted).1, List.find?_append]
  simp [passed, find]

/-- A condition on a unique column that selects the new row finds it. -/
theorem find_insert_self {table table' : Table ρ Conflict} {row : ρ}
    (inserted : table.insert row = some table') {select : ρ → Bool}
    (unique : Unique Conflict select) (selected : select row = true) :
    table'.find select = some row := by
  obtain ⟨rows, free⟩ := insert_some inserted
  rw [find, rows, List.find?_append, List.find?_eq_none.mpr]
  · simp [selected]
  · exact fun other member also => free other member (unique other row also selected)

end Insert

end Table
