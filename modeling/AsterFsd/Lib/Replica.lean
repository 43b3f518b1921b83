import Mathlib.Data.Set.Basic
import Mathlib.Data.Set.Insert

/-! # Following a set by notices

A subscriber keeps a copy of a set by the notices it receives about elements that join and leave. The
notices are exact for a copy when each of them reports a real difference: what joins is absent from the
copy, what leaves is in it.
-/

universe u

inductive Notice (κ : Type u) where
  | joined (k : κ)
  | left (k : κ)
  deriving DecidableEq

namespace Notice

variable {κ : Type u}

/-- The element that the notice is about. -/
def key : Notice κ → κ
  | .joined k => k
  | .left k => k

def apply (view : Set κ) : Notice κ → Set κ
  | .joined k => insert k view
  | .left k => view \ {k}

/-- The notice reports a difference. -/
def Fits (view : Set κ) : Notice κ → Prop
  | .joined k => k ∉ view
  | .left k => k ∈ view

/-- The copy after all the notices. -/
def follow (view : Set κ) (notices : List (Notice κ)) : Set κ := notices.foldl apply view

/-- Every notice reports a difference from the copy it meets. -/
def Exact : Set κ → List (Notice κ) → Prop
  | _, [] => True
  | view, notice :: rest => notice.Fits view ∧ Exact (notice.apply view) rest

@[simp] theorem follow_nil (view : Set κ) : follow view [] = view := rfl

@[simp] theorem follow_cons (view : Set κ) (notice : Notice κ) (rest : List (Notice κ)) :
    follow view (notice :: rest) = follow (notice.apply view) rest := rfl

theorem follow_append (view : Set κ) (first second : List (Notice κ)) :
    follow view (first ++ second) = follow (follow view first) second :=
  List.foldl_append

@[simp] theorem exact_nil (view : Set κ) : Exact view [] := trivial

@[simp] theorem exact_cons {view : Set κ} {notice : Notice κ} {rest : List (Notice κ)} :
    Exact view (notice :: rest) ↔ notice.Fits view ∧ Exact (notice.apply view) rest := Iff.rfl

/-- Whether an element is in the copy in the end depends on whether it was in it. -/
theorem mem_follow_congr {k : κ} {view view' : Set κ} (same : k ∈ view ↔ k ∈ view')
    (notices : List (Notice κ)) : k ∈ follow view notices ↔ k ∈ follow view' notices := by
  induction notices generalizing view view' with
  | nil => exact same
  | cons notice rest ih =>
      refine ih ?_
      cases notice with
      | joined other => exact or_congr .rfl same
      | left other => exact and_congr same .rfl

/-- What the notices about other elements say is of no account for an element. -/
theorem mem_follow_filter [DecidableEq κ] {k : κ} (view : Set κ) (notices : List (Notice κ)) :
    k ∈ follow view notices ↔ k ∈ follow view (notices.filter (·.key = k)) := by
  induction notices generalizing view with
  | nil => exact .rfl
  | cons notice rest ih =>
      by_cases about : notice.key = k
      · rw [List.filter_cons_of_pos (by simpa using about)]
        exact ih _
      · rw [List.filter_cons_of_neg (by simpa using about), ← ih, follow_cons]
        refine mem_follow_congr ?_ rest
        cases notice with
        | joined other => exact or_iff_right (Ne.symm about)
        | left other => exact and_iff_left (Ne.symm about)

end Notice
