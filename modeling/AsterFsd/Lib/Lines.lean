import Mathlib.Tactic.Common
import Mathlib.Data.List.Induction
import Mathlib.Data.List.ReduceOption
import Mathlib.Data.List.TakeWhile

/-! # Lines of a stream

A stream is cut at its delimiters. The pieces that a delimiter ends are its complete lines, what follows
the last delimiter is its unfinished line. A reader with a limit hands on the complete lines up to the
first line that is too long; reading a stream piece by piece, it only has to keep the unfinished line.
-/

namespace Lines

variable {α : Type*}

section Stream

variable (delimiter : α → Bool)

/-- The complete lines of a stream that are not empty. -/
def complete (stream : List α) : List (List α) :=
  ((stream.splitOnP delimiter).dropLast).filter (! ·.isEmpty)

/-- What follows the last delimiter of a stream. -/
def unfinished (stream : List α) : List α :=
  (stream.splitOnP delimiter).getLast (List.splitOnP_ne_nil delimiter stream)

/-- The line has no delimiter. -/
def Undelimited (line : List α) : Prop := ∀ a ∈ line, delimiter a = false

variable {delimiter}

theorem Undelimited.append {line more : List α} (clean : Undelimited delimiter line)
    (cleanMore : Undelimited delimiter more) : Undelimited delimiter (line ++ more) :=
  List.forall_mem_append.mpr ⟨clean, cleanMore⟩

theorem undelimited_nil : Undelimited delimiter ([] : List α) := List.forall_mem_nil _

theorem complete_undelimited {line : List α} (clean : Undelimited delimiter line) :
    complete delimiter line = [] := by
  simp [complete, List.splitOnP_eq_singleton clean]

theorem unfinished_undelimited {line : List α} (clean : Undelimited delimiter line) :
    unfinished delimiter line = line := by
  simp [unfinished, List.splitOnP_eq_singleton clean]

theorem complete_line {line rest : List α} {d : α} (clean : Undelimited delimiter line)
    (ends : delimiter d = true) :
    complete delimiter (line ++ d :: rest) =
      if line.isEmpty then complete delimiter rest else line :: complete delimiter rest := by
  have pieces := List.splitOnP_append_cons_of_forall_mem clean d ends rest
  have others := List.splitOnP_ne_nil delimiter rest
  rw [complete, pieces, List.dropLast_cons_of_ne_nil others]
  cases line with
  | nil => simp [complete]
  | cons a line => simp [complete]

theorem unfinished_line {line rest : List α} {d : α} (clean : Undelimited delimiter line)
    (ends : delimiter d = true) :
    unfinished delimiter (line ++ d :: rest) = unfinished delimiter rest := by
  have pieces := List.splitOnP_append_cons_of_forall_mem clean d ends rest
  have others := List.splitOnP_ne_nil delimiter rest
  simp only [unfinished, pieces, List.getLast_cons others]

variable (delimiter) in
theorem undelimited_or_line (stream : List α) :
    Undelimited delimiter stream ∨
      ∃ line d rest, Undelimited delimiter line ∧ delimiter d = true ∧ stream = line ++ d :: rest := by
  induction stream with
  | nil => exact .inl fun _ member => nomatch member
  | cons a stream ih =>
      cases here : delimiter a with
      | true => exact .inr ⟨[], a, stream, fun _ member => (nomatch member), here, rfl⟩
      | false =>
          cases ih with
          | inl clean => exact .inl (List.forall_mem_cons.mpr ⟨here, clean⟩)
          | inr found =>
              obtain ⟨line, d, rest, clean, ends, rfl⟩ := found
              exact .inr ⟨a :: line, d, rest, List.forall_mem_cons.mpr ⟨here, clean⟩, ends, rfl⟩

variable (delimiter) in
/-- A stream is an unfinished line, or a line, its delimiter and a shorter stream. -/
theorem induction_lines {motive : List α → Prop} (stream : List α)
    (tail : ∀ line, Undelimited delimiter line → motive line)
    (line : ∀ line d rest, Undelimited delimiter line → delimiter d = true → motive rest →
      motive (line ++ d :: rest)) : motive stream := by
  cases undelimited_or_line delimiter stream with
  | inl clean => exact tail stream clean
  | inr found =>
      obtain ⟨before, d, rest, clean, ends, same⟩ := found
      have shorter : rest.length < stream.length := by
        rw [same, List.length_append, List.length_cons]
        omega
      rw [same]
      exact line before d rest clean ends (induction_lines rest tail line)
termination_by stream.length

theorem complete_delimiter {d : α} {rest : List α} (ends : delimiter d = true) :
    complete delimiter (d :: rest) = complete delimiter rest :=
  @complete_line _ delimiter [] rest d undelimited_nil ends

theorem unfinished_delimiter {d : α} {rest : List α} (ends : delimiter d = true) :
    unfinished delimiter (d :: rest) = unfinished delimiter rest :=
  @unfinished_line _ delimiter [] rest d undelimited_nil ends

/-- The delimiters before a line do not matter. -/
theorem complete_dropWhile (stream : List α) :
    complete delimiter (stream.dropWhile delimiter) = complete delimiter stream := by
  induction stream with
  | nil => rfl
  | cons a stream ih =>
      cases here : delimiter a with
      | true => rw [List.dropWhile_cons_of_pos here, ih, complete_delimiter here]
      | false => rw [List.dropWhile_cons_of_neg (by simp [here])]

theorem unfinished_dropWhile (stream : List α) :
    unfinished delimiter (stream.dropWhile delimiter) = unfinished delimiter stream := by
  induction stream with
  | nil => rfl
  | cons a stream ih =>
      cases here : delimiter a with
      | true => rw [List.dropWhile_cons_of_pos here, ih, unfinished_delimiter here]
      | false => rw [List.dropWhile_cons_of_neg (by simp [here])]

theorem undelimited_unfinished (stream : List α) :
    Undelimited delimiter (unfinished delimiter stream) := by
  induction stream using induction_lines delimiter with
  | tail line clean => rwa [unfinished_undelimited clean]
  | line before d rest clean ends ih => rwa [unfinished_line clean ends]

end Stream

/-! ## Reading with a limit -/

section Reading

variable (delimiter : α → Bool) (limit : Nat)

/-- What a reader with a limit makes of a stream: the lines it hands on, and what it keeps of the
    unfinished line unless it fails. -/
structure Reading (α : Type*) where
  lines : List (List α)
  kept : Option (List α)
  deriving DecidableEq

/-- The complete lines are handed on as long as they are within the limit. The reader fails if the line
    after them is too long, whether it is complete or not. -/
def reading (stream : List α) : Reading α :=
  let fits (line : List α) : Bool := line.length ≤ limit
  let lines := complete delimiter stream
  let next := (lines.dropWhile fits).headD (unfinished delimiter stream)
  ⟨lines.takeWhile fits, if fits next then some (unfinished delimiter stream) else none⟩

/-- Carries on with what was kept, unless the reader failed. -/
def Reading.andThen (first : Reading α) (carryOn : List α → Reading α) : Reading α :=
  match first.kept with
  | none => first
  | some kept => ⟨first.lines ++ (carryOn kept).lines, (carryOn kept).kept⟩

variable {delimiter limit}

theorem reading_undelimited {line : List α} (clean : Undelimited delimiter line) :
    reading delimiter limit line = ⟨[], if line.length ≤ limit then some line else none⟩ := by
  simp [reading, complete_undelimited clean, unfinished_undelimited clean]

theorem reading_line {line rest : List α} {d : α} (clean : Undelimited delimiter line)
    (ends : delimiter d = true) :
    reading delimiter limit (line ++ d :: rest) =
      if line.isEmpty then reading delimiter limit rest
      else if line.length ≤ limit then
        ⟨line :: (reading delimiter limit rest).lines, (reading delimiter limit rest).kept⟩
      else ⟨[], none⟩ := by
  simp only [reading, complete_line clean ends, unfinished_line clean ends]
  by_cases empty : line.isEmpty = true
  · simp only [if_pos empty]
  · by_cases fits : line.length ≤ limit <;> simp [empty, fits]

theorem reading_delimiter {d : α} {rest : List α} (ends : delimiter d = true) :
    reading delimiter limit (d :: rest) = reading delimiter limit rest :=
  @reading_line α delimiter limit [] rest d undelimited_nil ends

theorem reading_dropWhile (stream : List α) :
    reading delimiter limit (stream.dropWhile delimiter) = reading delimiter limit stream := by
  rw [reading, complete_dropWhile, unfinished_dropWhile]
  rfl

/-- What is kept is the unfinished line, and it is within the limit. -/
theorem reading_kept {stream kept : List α} (keeps : (reading delimiter limit stream).kept = some kept) :
    kept = unfinished delimiter stream ∧ kept.length ≤ limit := by
  induction stream using induction_lines delimiter with
  | tail line clean =>
      rw [reading_undelimited clean] at keeps
      rw [unfinished_undelimited clean]
      grind
  | line before d rest clean ends ih =>
      rw [reading_line clean ends] at keeps
      rw [unfinished_line clean ends]
      grind

/-- What is handed on is a line: not empty, within the limit and without delimiter. -/
theorem mem_reading {stream handed : List α} (member : handed ∈ (reading delimiter limit stream).lines) :
    handed ≠ [] ∧ handed.length ≤ limit ∧ Undelimited delimiter handed := by
  induction stream using induction_lines delimiter with
  | tail line clean =>
      rw [reading_undelimited clean] at member
      cases member
  | line before d rest clean ends ih =>
      rw [reading_line clean ends] at member
      split at member
      · exact ih member
      · rename_i filled
        split at member
        · rename_i fits
          cases List.mem_cons.mp member with
          | inl same =>
              subst same
              exact ⟨by simpa using filled, fits, clean⟩
          | inr later => exact ih later
        · cases member

/-- A line that is too long stays so, whatever follows. -/
theorem reading_long {line : List α} (clean : Undelimited delimiter line) (long : limit < line.length)
    (after : List α) : reading delimiter limit (line ++ after) = ⟨[], none⟩ := by
  cases undelimited_or_line delimiter after with
  | inl more =>
      rw [reading_undelimited (clean.append more), if_neg (by rw [List.length_append]; omega)]
  | inr found =>
      obtain ⟨before, d, rest, more, ends, rfl⟩ := found
      have filled : (line ++ before).isEmpty = false := by
        cases line with
        | nil => exact absurd long (by simp)
        | cons a line => rfl
      rw [← List.append_assoc, reading_line (clean.append more) ends, filled,
        if_neg (by simp), if_neg (by rw [List.length_append]; omega)]

/-- A stream is read in two parts by reading the second part after what was kept of the first. -/
theorem reading_append (before after : List α) :
    reading delimiter limit (before ++ after) =
      (reading delimiter limit before).andThen
        fun kept => reading delimiter limit (kept ++ after) := by
  induction before using induction_lines delimiter with
  | tail line clean =>
      rw [reading_undelimited clean]
      by_cases fits : line.length ≤ limit
      · simp [Reading.andThen, fits]
      · simp [Reading.andThen, fits, reading_long clean (Nat.lt_of_not_le fits)]
  | line line d rest clean ends ih =>
      rw [List.append_assoc, List.cons_append, reading_line clean ends, reading_line clean ends, ih]
      by_cases empty : line.isEmpty = true
      · simp [empty]
      · by_cases fits : line.length ≤ limit
        · simp only [empty, fits, Bool.false_eq_true, ↓reduceIte, Reading.andThen]
          cases same : (reading delimiter limit rest).kept <;> simp [same]
        · simp [empty, fits, Reading.andThen]

/-- Lines within the limit that are all written with delimiters after them are read back, but for the
    empty ones. -/
theorem reading_joined {lines : List (List α)} {d : α} {more : List α} (ends : delimiter d = true)
    (others : ∀ a ∈ more, delimiter a = true) (clean : ∀ line ∈ lines, Undelimited delimiter line)
    (fits : ∀ line ∈ lines, line.length ≤ limit) :
    reading delimiter limit (lines.flatMap (· ++ d :: more)) =
      ⟨lines.filter (! ·.isEmpty), some []⟩ := by
  have skipped (rest : List α) : reading delimiter limit (more ++ rest) = reading delimiter limit rest := by
    induction more with
    | nil => rfl
    | cons a more ih =>
        obtain ⟨here, later⟩ := List.forall_mem_cons.mp others
        rw [List.cons_append, reading_delimiter here, ih later]
  induction lines with
  | nil => simp [reading_undelimited undelimited_nil]
  | cons line lines ih =>
      obtain ⟨cleanLine, cleanLater⟩ := List.forall_mem_cons.mp clean
      obtain ⟨fitsLine, fitsLater⟩ := List.forall_mem_cons.mp fits
      rw [List.flatMap_cons, List.append_assoc, List.cons_append, reading_line cleanLine ends, skipped,
        ih cleanLater fitsLater]
      cases line with
      | nil => rfl
      | cons a line => rw [if_neg (by simp), if_pos fitsLine]; rfl

end Reading

/-! ## Reading on after a line that is too long

A reader that gets a stream in pieces may keep nothing of an unfinished line once it is too long. If it
reads on, it takes what follows of that line in later pieces for a line of its own. -/

section Resuming

variable (delimiter : α → Bool) (limit : Nat)

/-- The pieces of a stream, with a mark at the end of each. -/
def marked (pieces : List (List α)) : List (Option α) :=
  pieces.flatMap fun piece => piece.map some ++ [none]

def endsLine : Option α → Bool
  | some a => delimiter a
  | none => false

/-- What the reader keeps of an unfinished line. -/
def keep (line : List α) : List α := if limit < line.length then [] else line

/-- The complete lines of all pieces that are within the limit, as the reader takes them. -/
def readPieces : List α → List (List α) → List (List α)
  | _, [] => []
  | kept, piece :: pieces =>
      (complete delimiter (kept ++ piece)).filter (·.length ≤ limit) ++
        readPieces (keep limit (unfinished delimiter (kept ++ piece))) pieces

/-- How much is left of a line if at the end of a piece everything is dropped that is too long. -/
def leftover (line : List (Option α)) : Nat :=
  line.foldl (fun
    | count, some _ => count + 1
    | count, none => if limit < count then 0 else count) 0

/-- What is left of the line. -/
def remnant (line : List (Option α)) : List α :=
  line.foldl (fun
    | kept, some a => kept ++ [a]
    | kept, none => keep limit kept) []

/-- The line, if there is one to hand on. -/
def offered (line : List α) : List (List α) :=
  if line.isEmpty || decide (limit < line.length) then [] else [line]

variable {delimiter limit}

theorem remnant_element (line : List (Option α)) (a : α) :
    remnant limit (line ++ [some a]) = remnant limit line ++ [a] := by
  simp [remnant]

theorem remnant_append (line : List (Option α)) (piece : List α) :
    remnant limit (line ++ piece.map some) = remnant limit line ++ piece := by
  induction piece generalizing line with
  | nil => simp
  | cons a piece ih =>
      rw [List.map_cons, ← List.singleton_append, ← List.append_assoc, ih, remnant_element,
        List.append_assoc]
      rfl

theorem remnant_mark (line : List (Option α)) :
    remnant limit (line ++ [none]) = keep limit (remnant limit line) := by
  simp [remnant]

theorem leftover_eq (line : List (Option α)) : leftover limit line = (remnant limit line).length := by
  induction line using List.reverseRec with
  | nil => rfl
  | append_singleton line mark ih =>
      cases mark with
      | some a =>
          have more : leftover limit (line ++ [some a]) = leftover limit line + 1 := by
            simp [leftover]
          rw [more, ih, remnant_element, List.length_append]
          rfl
      | none =>
          have dropped : leftover limit (line ++ [none]) =
              if limit < leftover limit line then 0 else leftover limit line := by
            simp only [leftover, List.foldl_append]
            rfl
          rw [dropped, ih, remnant_mark, keep]
          split <;> rfl

theorem Undelimited.map_some {line : List α} (clean : Undelimited delimiter line) :
    Undelimited (endsLine delimiter) (line.map some) := List.forall_mem_map.mpr clean

theorem Undelimited.mark {line : List (Option α)} (clean : Undelimited (endsLine delimiter) line) :
    Undelimited (endsLine delimiter) (line ++ [none]) :=
  clean.append fun mark member => by rw [List.mem_singleton.mp member]; rfl

theorem Undelimited.reduceOption {line : List (Option α)}
    (clean : Undelimited (endsLine delimiter) line) : Undelimited delimiter line.reduceOption :=
  fun a member => clean (some a) (List.reduceOption_mem_iff.mp member)

theorem remnant_sublist (line : List (Option α)) :
    (remnant limit line).Sublist line.reduceOption := by
  induction line using List.reverseRec with
  | nil => exact List.nil_sublist _
  | append_singleton line mark ih =>
      rw [List.reduceOption_append]
      cases mark with
      | some a =>
          rw [remnant_element]
          exact ih.append (List.Sublist.refl [a])
      | none =>
          rw [remnant_mark, keep]
          split
          · exact List.nil_sublist _
          · exact ih.trans (List.sublist_append_left _ _)

theorem Undelimited.remnant {line : List (Option α)}
    (clean : Undelimited (endsLine delimiter) line) : Undelimited delimiter (remnant limit line) :=
  fun a member => clean.reduceOption a ((remnant_sublist line).subset member)

/-- A line within the limit loses nothing. -/
theorem remnant_of_fits {line : List (Option α)} (fits : line.reduceOption.length ≤ limit) :
    remnant limit line = line.reduceOption := by
  induction line using List.reverseRec with
  | nil => rfl
  | append_singleton line mark ih =>
      rw [List.reduceOption_append] at fits ⊢
      have before := ih (by rw [List.length_append] at fits; omega)
      cases mark with
      | some a => rw [remnant_element, before]; rfl
      | none =>
          rw [remnant_mark, before, keep, if_neg (by rw [List.length_append] at fits; omega)]
          simp [List.reduceOption]

theorem offered_long {line : List α} (long : limit < line.length) : offered limit line = [] :=
  if_pos (by simp [long])

theorem offered_fits {line : List α} (filled : line ≠ []) (fits : ¬ limit < line.length) :
    offered limit line = [line] := if_neg (by simpa [filled] using fits)

theorem offered_eq_iff (line : List (Option α)) :
    offered limit (remnant limit line) = offered limit line.reduceOption ↔
      (limit < line.reduceOption.length → leftover limit line = 0 ∨ limit < leftover limit line) := by
  rw [leftover_eq]
  by_cases fits : line.reduceOption.length ≤ limit
  · rw [remnant_of_fits fits]
    exact ⟨fun _ long => absurd fits (Nat.not_le.mpr long), fun _ => rfl⟩
  · have long := Nat.not_le.mp fits
    by_cases dropped : remnant limit line = [] <;>
      by_cases longer : limit < (remnant limit line).length <;>
        simp [offered, long, dropped, longer]

theorem offered_sublist (line : List (Option α)) :
    (offered limit line.reduceOption).Sublist (offered limit (remnant limit line)) := by
  by_cases fits : line.reduceOption.length ≤ limit
  · rw [remnant_of_fits fits]
  · rw [offered_long (Nat.not_le.mp fits)]
    exact List.nil_sublist _

theorem filter_line (line : List α) (lines : List (List α)) :
    (if line.isEmpty then lines else line :: lines).filter (·.length ≤ limit) =
      offered limit line ++ lines.filter (·.length ≤ limit) := by
  cases line with
  | nil => rfl
  | cons a line =>
      rw [if_neg (by simp)]
      by_cases long : limit < (a :: line).length
      · rw [List.filter_cons_of_neg (by simpa using long), offered_long long]
        rfl
      · rw [List.filter_cons_of_pos (by simpa using long), offered_fits (List.cons_ne_nil a line) long]
        rfl

theorem flatMap_offered_line (line : List (Option α)) (lines : List (List (Option α))) :
    (if line.isEmpty then lines else line :: lines).flatMap (fun line => offered limit (remnant limit line)) =
      offered limit (remnant limit line) ++
        lines.flatMap fun line => offered limit (remnant limit line) := by
  cases line with
  | nil => rfl
  | cons mark line => rfl

/-- One piece after the unfinished line, and what is then the unfinished line. -/
theorem offered_piece (piece : List α) {line : List (Option α)}
    (clean : Undelimited (endsLine delimiter) line) (after : List (Option α)) :
    ∃ next, Undelimited (endsLine delimiter) next ∧
      remnant limit next = unfinished delimiter (remnant limit line ++ piece) ∧
      (complete (endsLine delimiter) (line ++ piece.map some ++ after)).flatMap
          (fun line => offered limit (remnant limit line)) =
        (complete delimiter (remnant limit line ++ piece)).filter (·.length ≤ limit) ++
          (complete (endsLine delimiter) (next ++ after)).flatMap
            fun line => offered limit (remnant limit line) := by
  induction piece using induction_lines delimiter generalizing line with
  | tail more cleanMore =>
      have whole : Undelimited delimiter (remnant limit line ++ more) := clean.remnant.append cleanMore
      refine ⟨line ++ more.map some, clean.append cleanMore.map_some, ?_, ?_⟩
      · rw [remnant_append, unfinished_undelimited whole]
      · rw [complete_undelimited whole, List.filter_nil, List.nil_append]
  | line before d rest cleanBefore ends ih =>
      obtain ⟨next, cleanNext, kept, later⟩ := ih undelimited_nil
      have whole : Undelimited delimiter (remnant limit line ++ before) :=
        clean.remnant.append cleanBefore
      have marks : line ++ (before ++ d :: rest).map some ++ after =
          (line ++ before.map some) ++ some d :: (rest.map some ++ after) := by simp
      refine ⟨next, cleanNext, ?_, ?_⟩
      · rw [kept, ← List.append_assoc, unfinished_line whole ends]
        rfl
      · rw [marks, complete_line (clean.append cleanBefore.map_some)
            (show endsLine delimiter (some d) = true from ends), flatMap_offered_line,
          ← List.append_assoc, complete_line whole ends, filter_line, remnant_append, List.append_assoc]
        exact congrArg _ later

/-- The reader hands on what is left of each line. -/
theorem readPieces_eq (pieces : List (List α)) {line : List (Option α)}
    (clean : Undelimited (endsLine delimiter) line) :
    readPieces delimiter limit (remnant limit line) pieces =
      (complete (endsLine delimiter) (line ++ marked pieces)).flatMap
        fun line => offered limit (remnant limit line) := by
  induction pieces generalizing line with
  | nil =>
      rw [marked, List.flatMap_nil, List.append_nil, complete_undelimited clean]
      rfl
  | cons piece pieces ih =>
      obtain ⟨next, cleanNext, kept, rest⟩ :=
        @offered_piece _ delimiter limit piece line clean (none :: marked pieces)
      have marks : line ++ marked (piece :: pieces) =
          line ++ piece.map some ++ none :: marked pieces := by simp [marked]
      have later := ih cleanNext.mark
      rw [remnant_mark, kept, List.append_assoc] at later
      rw [readPieces, later, marks, rest]
      rfl

theorem complete_reduceOption (stream : List (Option α)) :
    complete delimiter stream.reduceOption =
      ((complete (endsLine delimiter) stream).map List.reduceOption).filter (! ·.isEmpty) := by
  induction stream using induction_lines (endsLine delimiter) with
  | tail line clean => simp [complete_undelimited clean, complete_undelimited clean.reduceOption]
  | line before d rest clean ends ih =>
      cases d with
      | none => cases ends
      | some d =>
          rw [List.reduceOption_append, List.reduceOption_cons_of_some,
            complete_line clean.reduceOption ends, complete_line clean ends, ih]
          cases before with
          | nil => rfl
          | cons mark before =>
              cases empty : (mark :: before).reduceOption.isEmpty <;> simp [empty]

theorem reduceOption_marked (pieces : List (List α)) : (marked pieces).reduceOption = pieces.flatten := by
  induction pieces with
  | nil => rfl
  | cons piece pieces ih =>
      have reads : (piece.map some).reduceOption = piece := by
        simp [List.reduceOption]
      rw [marked, List.flatMap_cons, List.reduceOption_append, List.reduceOption_append, reads,
        List.flatten_cons, ← ih]
      simp [marked, List.reduceOption]

theorem complete_flatten (pieces : List (List α)) :
    (complete delimiter pieces.flatten).filter (·.length ≤ limit) =
      (complete (endsLine delimiter) (marked pieces)).flatMap
        fun line => offered limit line.reduceOption := by
  rw [← reduceOption_marked, complete_reduceOption]
  induction complete (endsLine delimiter) (marked pieces) with
  | nil => rfl
  | cons line lines ih =>
      rw [List.flatMap_cons, ← ih, ← filter_line]
      cases empty : line.reduceOption.isEmpty <;> simp [empty]

theorem flatMap_sublist {β : Type*} {lines : List α} {f g : α → List β}
    (inside : ∀ a ∈ lines, (f a).Sublist (g a)) : (lines.flatMap f).Sublist (lines.flatMap g) := by
  induction lines with
  | nil => exact List.Sublist.refl []
  | cons a lines ih =>
      obtain ⟨here, later⟩ := List.forall_mem_cons.mp inside
      exact here.append (ih later)

theorem flatMap_eq_iff {β : Type*} {lines : List α} {f g : α → List β}
    (inside : ∀ a ∈ lines, (f a).Sublist (g a)) :
    lines.flatMap g = lines.flatMap f ↔ ∀ a ∈ lines, g a = f a := by
  induction lines with
  | nil => simp
  | cons a lines ih =>
      obtain ⟨here, later⟩ := List.forall_mem_cons.mp inside
      rw [List.forall_mem_cons, ← ih later]
      constructor
      · intro same
        have lengths := congrArg List.length same
        simp only [List.flatMap_cons, List.length_append] at lengths
        have shorter := here.length_le
        have rest := (flatMap_sublist later).length_le
        have equal := here.eq_of_length (by omega)
        refine ⟨equal.symm, ?_⟩
        rw [List.flatMap_cons, List.flatMap_cons, equal] at same
        exact List.append_cancel_left same
      · rintro ⟨equal, rest⟩
        rw [List.flatMap_cons, List.flatMap_cons, equal, rest]

/-- The reader hands on just the lines within the limit if of no longer line the end of a piece leaves a
    part that is within the limit. -/
theorem readPieces_resumes_iff (pieces : List (List α)) :
    readPieces delimiter limit [] pieces =
        (complete delimiter pieces.flatten).filter (·.length ≤ limit) ↔
      ∀ line ∈ complete (endsLine delimiter) (marked pieces),
        limit < line.reduceOption.length → leftover limit line = 0 ∨ limit < leftover limit line := by
  have all := @readPieces_eq _ delimiter limit pieces [] undelimited_nil
  rw [complete_flatten, show ([] : List α) = remnant limit ([] : List (Option α)) from rfl, all,
    List.nil_append, flatMap_eq_iff fun line _ => offered_sublist line]
  exact forall₂_congr fun line _ => offered_eq_iff line

end Resuming

end Lines
