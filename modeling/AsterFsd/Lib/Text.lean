import Mathlib.Tactic.Common
import Mathlib.Data.List.Basic
import Mathlib.Data.List.TakeWhile

/-! # Text as characters and as bytes

The size of a string in bytes, computed over its characters, the uppercasing of ASCII letters, the bytes
of the UTF-8 encoding, texts of one line, and the pieces between separators.
-/

namespace Text

/-! ## Size in bytes -/

/-- The number of bytes of the UTF-8 encoding of a list of characters. -/
def byteSize : List Char → Nat
  | [] => 0
  | c :: l => c.utf8Size + byteSize l

@[simp] theorem byteSize_nil : byteSize [] = 0 := rfl

@[simp] theorem byteSize_cons (c : Char) (l : List Char) :
    byteSize (c :: l) = c.utf8Size + byteSize l := rfl

@[simp] theorem byteSize_append (l r : List Char) : byteSize (l ++ r) = byteSize l + byteSize r := by
  induction l with
  | nil => simp
  | cons c l ih => simp [ih, Nat.add_assoc]

theorem byteSize_replicate (n : Nat) (c : Char) : byteSize (List.replicate n c) = n * c.utf8Size := by
  induction n with
  | zero => simp
  | succ n ih => rw [List.replicate_succ, byteSize_cons, ih, Nat.succ_mul, Nat.add_comm]

theorem utf8ByteSize_ofList (l : List Char) : (String.ofList l).utf8ByteSize = byteSize l := by
  induction l with
  | nil => rfl
  | cons c l ih =>
      rw [String.ofList_cons, String.utf8ByteSize_append, String.utf8ByteSize_singleton, ih,
        byteSize_cons]

theorem utf8ByteSize_eq (s : String) : s.utf8ByteSize = byteSize s.toList := by
  rw [← utf8ByteSize_ofList, String.ofList_toList]

/-! ## Uppercasing -/

theorem utf8Size_ascii {c : Char} (ascii : c.toNat < 128) : c.utf8Size = 1 :=
  Char.utf8Size_eq_one_iff.mpr (UInt32.le_iff_toNat_le.mpr (Nat.le_of_lt_succ ascii))

theorem byteSize_ascii {l : List Char} (ascii : ∀ c ∈ l, c.toNat < 128) : byteSize l = l.length := by
  induction l with
  | nil => rfl
  | cons c l ih =>
      obtain ⟨first, rest⟩ := List.forall_mem_cons.mp ascii
      rw [byteSize_cons, utf8Size_ascii first, ih rest, List.length_cons, Nat.add_comm]

theorem length_le_utf8ByteSize (s : String) : s.toList.length ≤ s.utf8ByteSize := by
  rw [utf8ByteSize_eq]
  induction s.toList with
  | nil => exact Nat.le_refl 0
  | cons c l ih =>
      have positive := Char.utf8Size_pos c
      rw [byteSize_cons, List.length_cons]
      omega

theorem toNat_toUpper (c : Char) :
    c.toUpper.toNat = if 97 ≤ c.toNat ∧ c.toNat ≤ 122 then c.toNat - 32 else c.toNat := by
  unfold Char.toUpper
  simp only [Char.toNat, UInt32.le_iff_toNat_le]
  split
  · rename_i lower
    simp at lower
    simp [lower]
    omega
  · rename_i other
    simp at other
    simp
    omega

theorem toUpper_toUpper (c : Char) : c.toUpper.toUpper = c.toUpper := by
  apply Char.toNat_inj.mp
  rw [toNat_toUpper, toNat_toUpper]
  grind

theorem toNat_toLower (c : Char) :
    c.toLower.toNat = if 65 ≤ c.toNat ∧ c.toNat ≤ 90 then c.toNat + 32 else c.toNat := by
  unfold Char.toLower
  simp only [Char.toNat, UInt32.le_iff_toNat_le]
  split
  · rename_i upper
    simp at upper
    simp [upper]
    omega
  · rename_i other
    simp at other
    simp
    omega

/-- Uppercasing identifies the characters that lowercasing does. -/
theorem toUpper_eq_iff (c d : Char) : c.toUpper = d.toUpper ↔ c.toLower = d.toLower := by
  simp only [← Char.toNat_inj, toNat_toUpper, toNat_toLower]
  repeat' split
  all_goals omega

theorem map_toUpper_eq_iff {l r : List Char} :
    l.map Char.toUpper = r.map Char.toUpper ↔ l.map Char.toLower = r.map Char.toLower := by
  induction l generalizing r with
  | nil => simp
  | cons c l ih =>
      cases r with
      | nil => simp
      | cons d r => simp only [List.map_cons, List.cons.injEq, toUpper_eq_iff, ih]

/-- Uppercasing neither makes nor moves a character below the letters. -/
theorem mem_map_toUpper {d : Char} (low : d.toNat < 65) {l : List Char} :
    d ∈ l.map Char.toUpper ↔ d ∈ l := by
  have same : ∀ c : Char, c.toUpper = d ↔ c = d := by
    intro c
    have value := toNat_toUpper c
    rw [← Char.toNat_inj, ← Char.toNat_inj (c := c), value]
    split
    · omega
    · rfl
  simp only [List.mem_map, same, exists_eq_right]

theorem utf8Size_toUpper (c : Char) : c.toUpper.utf8Size = c.utf8Size := by
  by_cases lower : 97 ≤ c.toNat ∧ c.toNat ≤ 122
  · have value := toNat_toUpper c
    rw [if_pos lower] at value
    rw [utf8Size_ascii (by omega), utf8Size_ascii (by omega)]
  · rw [Char.toNat_inj.mp ((toNat_toUpper c).trans (if_neg lower))]

theorem byteSize_map_toUpper (l : List Char) : byteSize (l.map Char.toUpper) = byteSize l := by
  induction l with
  | nil => rfl
  | cons c l ih => simp [utf8Size_toUpper, ih]

/-! ## Bytes -/

/-- The UTF-8 bytes of a text. -/
def bytes (s : String) : List UInt8 := s.toList.flatMap String.utf8EncodeChar

/-- The text that the bytes encode, if they are UTF-8. -/
def ofBytes (bytes : List UInt8) : Option String := String.fromUTF8? bytes.toByteArray

theorem toByteArray_bytes (s : String) : (bytes s).toByteArray = s.toByteArray := by
  rw [← String.utf8Encode_toList]
  rfl

theorem ofBytes_bytes (s : String) : ofBytes (bytes s) = some s := by
  unfold ofBytes String.fromUTF8?
  rw [toByteArray_bytes, dif_pos s.isValidUTF8]
  rfl

@[simp] theorem length_bytes (s : String) : (bytes s).length = s.utf8ByteSize := by
  rw [utf8ByteSize_eq, bytes]
  induction s.toList with
  | nil => rfl
  | cons c l ih => simp [ih]

@[simp] theorem bytes_append (s t : String) : bytes (s ++ t) = bytes s ++ bytes t := by
  simp [bytes]

/-- The encoding of a character is the character itself, or it has no ASCII byte. -/
theorem utf8EncodeChar_ascii (c : Char) :
    String.utf8EncodeChar c = [UInt8.ofNat c.toNat] ∧ c.toNat < 128 ∨
      128 ≤ c.toNat ∧ ∀ b ∈ String.utf8EncodeChar c, 128 ≤ b.toNat := by
  change _ ∧ c.val.toNat < 128 ∨ 128 ≤ c.val.toNat ∧ _
  unfold String.utf8EncodeChar
  dsimp only
  split
  · rename_i small
    exact .inl ⟨rfl, by omega⟩
  · refine .inr ⟨by omega, ?_⟩
    split
    · intro b member
      simp only [List.mem_cons, List.not_mem_nil, or_false] at member
      rcases member with rfl | rfl <;> simp <;> omega
    · split <;> intro b member <;>
        simp only [List.mem_cons, List.not_mem_nil, or_false] at member
      · rcases member with rfl | rfl | rfl <;> simp <;> omega
      · rcases member with rfl | rfl | rfl | rfl <;> simp <;> omega

/-- An ASCII byte occurs in the encoding exactly where its character occurs in the text. -/
theorem mem_bytes_ascii {s : String} {b : UInt8} (ascii : b.toNat < 128) :
    b ∈ bytes s ↔ ∃ c ∈ s.toList, c.toNat = b.toNat := by
  simp only [bytes, List.mem_flatMap]
  constructor
  · rintro ⟨c, member, encoded⟩
    obtain ⟨single, small⟩ | ⟨-, large⟩ := utf8EncodeChar_ascii c
    · rw [single, List.mem_singleton] at encoded
      subst encoded
      exact ⟨c, member, by simp; omega⟩
    · have := large b encoded
      omega
  · rintro ⟨c, member, same⟩
    obtain ⟨single, -⟩ | ⟨large, -⟩ := utf8EncodeChar_ascii c
    · exact ⟨c, member, by rw [single, same]; simp⟩
    · omega

/-! ## Lines -/

/-- CR and LF, the bytes that delimit lines. -/
def isDelimiter (b : UInt8) : Bool := b == 13 || b == 10

/-- The text has neither CR nor LF. -/
def Unbroken (s : String) : Prop := s.toList.all (fun c => c != '\r' && c != '\n') = true

instance decidableUnbroken (s : String) : Decidable (Unbroken s) := inferInstanceAs (Decidable (_ = true))

theorem unbroken_iff {s : String} : Unbroken s ↔ ∀ c ∈ s.toList, c ≠ '\r' ∧ c ≠ '\n' := by
  simp [Unbroken]

theorem any_delimiter_bytes (s : String) : (bytes s).any isDelimiter = false ↔ Unbroken s := by
  have cr : (13 : UInt8) ∈ bytes s ↔ '\r' ∈ s.toList := by
    rw [mem_bytes_ascii (by decide)]
    exact ⟨fun ⟨c, member, same⟩ => (Char.toNat_inj.mp same : c = '\r') ▸ member,
      fun member => ⟨_, member, rfl⟩⟩
  have lf : (10 : UInt8) ∈ bytes s ↔ '\n' ∈ s.toList := by
    rw [mem_bytes_ascii (by decide)]
    exact ⟨fun ⟨c, member, same⟩ => (Char.toNat_inj.mp same : c = '\n') ▸ member,
      fun member => ⟨_, member, rfl⟩⟩
  rw [unbroken_iff, List.any_eq_false]
  simp only [isDelimiter, Bool.or_eq_true, beq_iff_eq, not_or]
  constructor
  · intro clean c member
    refine ⟨?_, ?_⟩
    · rintro rfl
      exact (clean 13 (cr.mpr member)).1 rfl
    · rintro rfl
      exact (clean 10 (lf.mpr member)).2 rfl
  · intro clean b member
    refine ⟨?_, ?_⟩
    · rintro rfl
      exact (clean '\r' (cr.mp member)).1 rfl
    · rintro rfl
      exact (clean '\n' (lf.mp member)).2 rfl

@[simp] theorem unbroken_append {s t : String} : Unbroken (s ++ t) ↔ Unbroken s ∧ Unbroken t := by
  simp [Unbroken, List.all_append]

/-! ## Separators -/

/-- The pieces between the occurrences of a separator; there is always one more piece than
    separators. -/
def splitList (separator : Char) : List Char → List (List Char)
  | [] => [[]]
  | c :: l =>
      if c = separator then [] :: splitList separator l
      else
        match splitList separator l with
        | [] => [[c]]
        | piece :: rest => (c :: piece) :: rest

def split (separator : Char) (s : String) : List String :=
  (splitList separator s.toList).map String.ofList

/-- The text before and after the first occurrence of a separator. -/
def splitOnce (separator : Char) (s : String) : Option (String × String) :=
  let head := s.toList.takeWhile (· ≠ separator)
  match s.toList.dropWhile (· ≠ separator) with
  | [] => none
  | _ :: rest => some (String.ofList head, String.ofList rest)

theorem splitList_separator (separator : Char) (l : List Char) :
    splitList separator (separator :: l) = [] :: splitList separator l := if_pos rfl

theorem splitList_cons {separator c : Char} {l first : List Char} {rest : List (List Char)}
    (other : c ≠ separator) (pieces : splitList separator l = first :: rest) :
    splitList separator (c :: l) = (c :: first) :: rest := by
  simp only [splitList, if_neg other, pieces]

/-- Splitting what was joined gives the pieces back. -/
theorem splitList_join {separator : Char} {first : List Char} {rest : List (List Char)}
    (clean : separator ∉ first) (others : ∀ piece ∈ rest, separator ∉ piece) :
    splitList separator (first ++ rest.flatMap (separator :: ·)) = first :: rest := by
  induction rest generalizing first with
  | nil =>
      induction first with
      | nil => rfl
      | cons c first ih =>
          obtain ⟨other, clean⟩ := not_or.mp (mt List.mem_cons.mpr clean)
          exact splitList_cons (Ne.symm other) (ih clean)
  | cons piece rest outer =>
      obtain ⟨next, others⟩ := List.forall_mem_cons.mp others
      induction first with
      | nil =>
          change splitList separator (separator :: (piece ++ rest.flatMap (separator :: ·))) = _
          rw [splitList_separator, outer next others]
      | cons c first ih =>
          obtain ⟨other, clean⟩ := not_or.mp (mt List.mem_cons.mpr clean)
          exact splitList_cons (Ne.symm other) (ih clean)

private theorem exists_join (separator : Char) (l : List Char) :
    ∃ first rest, splitList separator l = first :: rest ∧
      l = first ++ rest.flatMap (separator :: ·) ∧ separator ∉ first ∧
        ∀ piece ∈ rest, separator ∉ piece := by
  induction l with
  | nil => exact ⟨[], [], rfl, rfl, List.not_mem_nil, fun _ member => nomatch member⟩
  | cons c l ih =>
      obtain ⟨first, rest, pieces, joined, clean, others⟩ := ih
      by_cases here : c = separator
      · subst here
        refine ⟨[], first :: rest, ?_, ?_, List.not_mem_nil,
          List.forall_mem_cons.mpr ⟨clean, others⟩⟩
        · rw [splitList_separator, pieces]
        · rw [joined]
          rfl
      · refine ⟨c :: first, rest, splitList_cons here pieces, ?_, ?_, others⟩
        · rw [List.cons_append, ← joined]
        · exact fun member => clean (List.mem_of_ne_of_mem (Ne.symm here) member)

/-- The pieces are what lies between the separators, and no piece holds one. -/
theorem splitList_eq_cons {separator : Char} {l first : List Char} {rest : List (List Char)} :
    splitList separator l = first :: rest ↔
      l = first ++ rest.flatMap (separator :: ·) ∧ separator ∉ first ∧
        ∀ piece ∈ rest, separator ∉ piece := by
  constructor
  · intro pieces
    obtain ⟨first', rest', pieces', spec⟩ := exists_join separator l
    obtain ⟨rfl, rfl⟩ := List.cons.inj (pieces.symm.trans pieces')
    exact spec
  · rintro ⟨rfl, clean, others⟩
    exact splitList_join clean others

/-- The characters of the texts, a separator before each. -/
def joinList (separator : Char) (texts : List String) : List Char :=
  texts.flatMap (separator :: ·.toList)

theorem exists_split (separator : Char) (s : String) :
    ∃ first rest, split separator s = first :: rest := by
  obtain ⟨first, rest, pieces, -⟩ := exists_join separator s.toList
  exact ⟨_, _, by rw [split, pieces]; rfl⟩

theorem split_eq_cons {separator : Char} {s first : String} {rest : List String} :
    split separator s = first :: rest ↔
      s.toList = first.toList ++ joinList separator rest ∧ separator ∉ first.toList ∧
        ∀ piece ∈ rest, separator ∉ piece.toList := by
  have lists : split separator s = first :: rest ↔
      splitList separator s.toList = first.toList :: rest.map String.toList := by
    constructor
    · intro pieces
      have back := congrArg (List.map String.toList) pieces
      simpa [split, List.map_map, Function.comp_def] using back
    · intro pieces
      simp [split, pieces, List.map_map, Function.comp_def]
  rw [lists, splitList_eq_cons]
  simp [joinList, List.flatMap_map]

theorem splitOnce_eq_some {separator : Char} {s head rest : String} :
    splitOnce separator s = some (head, rest) ↔
      s.toList = head.toList ++ separator :: rest.toList ∧ separator ∉ head.toList := by
  unfold splitOnce
  constructor
  · intro found
    dsimp only at found
    split at found
    · cases found
    · rename_i c after dropped
      simp only [Option.some.injEq, Prod.mk.injEq] at found
      obtain ⟨rfl, rfl⟩ := found
      have parts := List.takeWhile_append_dropWhile (p := (· ≠ separator)) (l := s.toList)
      have stop : c = separator := by
        have stops := List.head?_dropWhile_not (fun x => decide (x ≠ separator)) s.toList
        rw [dropped] at stops
        simpa using stops
      subst stop
      rw [dropped] at parts
      refine ⟨by simpa using parts.symm, ?_⟩
      intro member
      have kept := List.mem_takeWhile_imp (by simpa using member)
      simp at kept
  · intro ⟨joined, clean⟩
    have before : ∀ c ∈ head.toList, (decide (c ≠ separator)) = true := by
      intro c member
      have other : c ≠ separator := by
        rintro rfl
        exact clean member
      simpa using other
    simp only [joined, List.takeWhile_append_of_pos before, List.dropWhile_append_of_pos before]
    simp

theorem ofBytes_eq_some {bs : List UInt8} {s : String} : ofBytes bs = some s ↔ bytes s = bs := by
  constructor
  · intro read
    unfold ofBytes String.fromUTF8? at read
    split at read
    · obtain rfl := Option.some.inj read
      exact List.toByteArray_inj.mp (toByteArray_bytes _)
    · cases read
  · rintro rfl
    exact ofBytes_bytes s

end Text
