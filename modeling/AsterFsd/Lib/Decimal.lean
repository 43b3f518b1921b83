import AsterFsd.Lib.Text
import Mathlib.Algebra.Order.Group.Nat
import Mathlib.Data.List.Induction
import Mathlib.Algebra.Group.Int.Defs

/-! # Decimal texts

Reading and printing of machine integers and of binary floating point: integers with an optional sign,
floats with a fixed number of decimals. Printed numbers are short lines, which is what a format with a
length limit needs of them.
-/

/-- The text is one line of at most `k` bytes. -/
structure Text.Short (k : Nat) (s : String) : Prop where
  size : s.utf8ByteSize ≤ k
  unbroken : Text.Unbroken s

namespace Text.Short

variable {j k : Nat} {s t : String}

theorem mono (short : Short j s) (le : j ≤ k) : Short k s := ⟨short.size.trans le, short.unbroken⟩

theorem append (left : Short j s) (right : Short k t) : Short (j + k) (s ++ t) where
  size := by
    have first := left.size
    have second := right.size
    rw [String.utf8ByteSize_append]
    omega
  unbroken := unbroken_append.mpr ⟨left.unbroken, right.unbroken⟩

theorem of_digits {l : List Char} (digits : ∀ c ∈ l, c.isDigit = true) (length : l.length ≤ k) :
    Short k (String.ofList l) where
  size := by
    have ascii : byteSize l = l.length := by
      refine byteSize_ascii fun c member => ?_
      exact (Char.isDigit_iff_toNat.mp (digits c member)).2.trans_lt (by decide)
    rw [utf8ByteSize_ofList, ascii]
    exact length
  unbroken := by
    rw [unbroken_iff, String.toList_ofList]
    intro c member
    have digit := Char.isDigit_iff_toNat.mp (digits c member)
    constructor <;> (rintro rfl; revert digit; decide)

end Text.Short

namespace Decimal

open Text

/-! ## Reading -/

/-- One or more decimal digits. -/
def parseDigits (l : List Char) : Option Nat :=
  if l ≠ [] ∧ l.all Char.isDigit then some (Nat.ofDigitChars 10 l 0) else none

/-- Digits with an optional plus sign. -/
def parseUnsigned (bound : Nat) (s : String) : Option Nat :=
  (match s.toList with
    | '+' :: l => parseDigits l
    | l => parseDigits l).filter (· < bound)

/-- Digits with an optional sign. -/
def parseSigned (low high : Int) (s : String) : Option Int :=
  (match s.toList with
    | '+' :: l => (parseDigits l).map Int.ofNat
    | '-' :: l => (parseDigits l).map fun n => - Int.ofNat n
    | l => (parseDigits l).map Int.ofNat).filter fun i => low ≤ i ∧ i < high

def parseUInt16 (s : String) : Option UInt16 := (parseUnsigned (2 ^ 16) s).map UInt16.ofNat

def parseUInt32 (s : String) : Option UInt32 := (parseUnsigned (2 ^ 32) s).map UInt32.ofNat

def parseInt32 (s : String) : Option Int32 :=
  (parseSigned (-2 ^ 31) (2 ^ 31) s).map Int32.ofInt

/-- The exponent after the digits of a float: nothing, or `e` and an integer. -/
def parseExponent : List Char → Option Int
  | [] => some 0
  | c :: l =>
      if c.toLower ≠ 'e' then none
      else
        match l with
        | '+' :: l => (parseDigits l).map Int.ofNat
        | '-' :: l => (parseDigits l).map fun n => - Int.ofNat n
        | l => (parseDigits l).map Int.ofNat

/-- An unsigned float: digits around an optional point, not both empty, and an optional exponent. The
    value is the float nearest to the decimal number. -/
def parseMagnitude (l : List Char) : Option Float :=
  let whole := l.takeWhile Char.isDigit
  let rest := l.dropWhile Char.isDigit
  let (decimals, rest) :=
    match rest with
    | '.' :: rest => (rest.takeWhile Char.isDigit, rest.dropWhile Char.isDigit)
    | _ => ([], rest)
  if whole = [] ∧ decimals = [] then none
  else
    (parseExponent rest).map fun exponent =>
      let exponent : Int := exponent - decimals.length
      OfScientific.ofScientific (Nat.ofDigitChars 10 (whole ++ decimals) 0)
        (decide (exponent < 0)) exponent.natAbs

/-- A float by its decimal digits, or `inf`, `infinity` or `nan` in any case. -/
def parseFloat (s : String) : Option Float :=
  let (negative, l) :=
    match s.toList with
    | '-' :: l => (true, l)
    | '+' :: l => (false, l)
    | l => (false, l)
  let magnitude : Option Float :=
    let lower := l.map Char.toLower
    if lower = "inf".toList ∨ lower = "infinity".toList then some (1.0 / 0.0)
    else if lower = "nan".toList then some (0.0 / 0.0)
    else parseMagnitude l
  magnitude.map fun x => if negative then -x else x

/-! ## Printing integers -/

theorem short_nat {n k : Nat} (positive : 0 < k) (bound : n < 10 ^ k) : Short k (toString n) := by
  rw [Nat.toString_eq_ofList_toDigits]
  exact .of_digits (fun c member => Nat.isDigit_of_mem_toDigits (by decide) (by decide) member)
    ((Nat.length_toDigits_le_iff (by decide) positive).mpr bound)

theorem short_int {i : Int} {k : Nat} (positive : 0 < k) (low : -10 ^ k < i) (high : i < 10 ^ k) :
    Short (k + 1) (toString i) := by
  cases i with
  | ofNat n =>
      have bound : n < 10 ^ k := by
        have high : (n : Int) < ((10 ^ k : Nat) : Int) := by simpa using high
        omega
      exact (short_nat positive bound).mono (Nat.le_succ k)
  | negSucc n =>
      have bound : n + 1 < 10 ^ k := by
        have low : -((10 ^ k : Nat) : Int) < Int.negSucc n := by simpa using low
        omega
      rw [Nat.add_comm]
      exact (show Short 1 "-" from ⟨by decide, by decide⟩).append (short_nat positive bound)

theorem unbroken_int (i : Int) : Text.Unbroken (toString i) := by
  have digits : i.natAbs + 1 < 10 ^ (i.natAbs + 1) := Nat.lt_pow_self (by decide)
  have far : (i.natAbs : Int) < 10 ^ (i.natAbs + 1) := by
    exact_mod_cast (Nat.lt_succ_self _).trans digits
  have short : Short (i.natAbs + 2) (toString i) := short_int (Nat.succ_pos _) (by omega) (by omega)
  exact short.unbroken

theorem short_int32 (i : Int32) : Short 11 (toString i) :=
  short_int (by decide) (lt_of_lt_of_le (by decide) i.minValue_le_toInt)
    (lt_of_lt_of_le i.toInt_lt (by decide))

theorem short_uint32 (n : UInt32) : Short 10 (toString n) :=
  short_nat (by decide) (lt_of_lt_of_le n.toNat_lt (by decide))

theorem short_uint16 (n : UInt16) : Short 5 (toString n) :=
  short_nat (by decide) (lt_of_lt_of_le n.toNat_lt (by decide))

/-! ## Reading what was printed -/

theorem parseDigits_toDigits (n : Nat) : parseDigits (Nat.toDigits 10 n) = some n := by
  have digits : (Nat.toDigits 10 n).all Char.isDigit = true := by
    rw [List.all_eq_true]
    exact fun c member => Nat.isDigit_of_mem_toDigits (by decide) (by decide) member
  unfold parseDigits
  rw [if_pos ⟨Nat.toDigits_ne_nil, digits⟩, Nat.ofDigitChars_ten_toDigits]

/-- The characters of a printed integer: an optional sign, then digits. -/
theorem toList_toString_int (i : Int) :
    (toString i).toList = Nat.toDigits 10 i.natAbs ∧ 0 ≤ i ∨
      (toString i).toList = '-' :: Nat.toDigits 10 i.natAbs ∧ i < 0 := by
  cases i with
  | ofNat n =>
      refine .inl ⟨?_, Int.natCast_nonneg n⟩
      change (toString n).toList = _
      rw [Nat.toString_eq_ofList_toDigits, String.toList_ofList]
      rfl
  | negSucc n =>
      refine .inr ⟨?_, Int.negSucc_lt_zero n⟩
      change ("-" ++ toString (n + 1)).toList = _
      simp only [String.toList_append, Nat.toString_eq_ofList_toDigits, String.toList_ofList,
        Int.natAbs_negSucc, Nat.succ_eq_add_one]
      rfl

theorem parseSigned_toString {low high i : Int} (lower : low ≤ i) (upper : i < high) :
    parseSigned low high (toString i) = some i := by
  unfold parseSigned
  cases toList_toString_int i with
  | inl printed =>
      obtain ⟨printed, positive⟩ := printed
      have read := parseDigits_toDigits i.natAbs
      cases digits : Nat.toDigits 10 i.natAbs with
      | nil => exact absurd digits Nat.toDigits_ne_nil
      | cons c l =>
          have digit : c.isDigit = true := by
            have member : c ∈ Nat.toDigits 10 i.natAbs := digits ▸ List.mem_cons_self
            exact Nat.isDigit_of_mem_toDigits (by decide) (by decide) member
          have plus : c ≠ '+' := by rintro rfl; cases digit
          have minus : c ≠ '-' := by rintro rfl; cases digit
          rw [digits] at read
          have value : Int.ofNat i.natAbs = i := by
            change (i.natAbs : Int) = i
            omega
          rw [printed, digits]
          split
          · rename_i signed
            exact absurd (List.cons.inj signed).1 plus
          · rename_i signed
            exact absurd (List.cons.inj signed).1 minus
          · rw [read, Option.map_some, value]
            simp [lower, upper]
  | inr printed =>
      obtain ⟨printed, negative⟩ := printed
      have value : - Int.ofNat i.natAbs = i := by
        change - (i.natAbs : Int) = i
        omega
      rw [printed]
      simp only [parseDigits_toDigits, Option.map_some, value]
      simp [lower, upper]

theorem parseInt32_toString (i : Int32) : parseInt32 (toString i) = some i := by
  have read := parseSigned_toString i.minValue_le_toInt i.toInt_lt
  unfold parseInt32
  rw [show toString i = toString i.toInt from rfl, show (-2 ^ 31 : Int) = Int32.minValue.toInt by decide,
    read, Option.map_some, Int32.ofInt_toInt]

theorem toString_int32_injective : Function.Injective (toString : Int32 → String) := by
  intro i j printed
  have read := parseInt32_toString i
  rw [printed, parseInt32_toString] at read
  exact (Option.some.inj read).symm

theorem colonless_toString (i : Int32) : ':' ∉ (toString i).toList := by
  have digits : ':' ∉ Nat.toDigits 10 i.toInt.natAbs := by
    intro member
    cases Nat.isDigit_of_mem_toDigits (by decide) (by decide) member
  intro member
  cases toList_toString_int i.toInt with
  | inl printed => exact digits (printed.1 ▸ member)
  | inr printed =>
      rw [show toString i = toString i.toInt from rfl, printed.1] at member
      cases member with
      | tail _ member => exact digits member

theorem parseUnsigned_digits {bound : Nat} {text : String} (filled : text ≠ "")
    (digits : ∀ c ∈ text.toList, c.isDigit = true)
    (small : Nat.ofDigitChars 10 text.toList 0 < bound) :
    parseUnsigned bound text = some (Nat.ofDigitChars 10 text.toList 0) := by
  have read : parseDigits text.toList = some (Nat.ofDigitChars 10 text.toList 0) :=
    if_pos ⟨by simpa using filled, List.all_eq_true.mpr digits⟩
  unfold parseUnsigned
  split
  · rename_i signed
    cases digits '+' (signed ▸ List.mem_cons_self)
  · rw [read]
    simp [small]

theorem parseUnsigned_toString {bound n : Nat} (small : n < bound) :
    parseUnsigned bound (toString n) = some n := by
  have printed : (toString n).toList = Nat.toDigits 10 n := by
    rw [Nat.toString_eq_ofList_toDigits, String.toList_ofList]
  have value : Nat.ofDigitChars 10 (toString n).toList 0 = n := by
    rw [printed, Nat.ofDigitChars_ten_toDigits]
  have read := @parseUnsigned_digits bound (toString n)
    (fun empty => Nat.toDigits_ne_nil (b := 10) (n := n) (by rw [← printed, empty]; rfl))
    (fun c member => Nat.isDigit_of_mem_toDigits (by decide) (by decide) (printed ▸ member))
    (value.symm ▸ small)
  rwa [value] at read

theorem parseUInt32_toString (n : UInt32) : parseUInt32 (toString n) = some n := by
  have read := parseUnsigned_toString n.toNat_lt
  unfold parseUInt32
  rw [show toString n = toString n.toNat from rfl, read, Option.map_some, UInt32.ofNat_toNat]

theorem colonless_nat (n : Nat) : ':' ∉ (toString n).toList := by
  rw [Nat.toString_eq_ofList_toDigits, String.toList_ofList]
  intro member
  cases Nat.isDigit_of_mem_toDigits (by decide) (by decide) member

/-! ## The spelling of a number -/

/-- No zero stands before other digits. -/
def Canonical (text : String) : Prop := text = "0" ∨ text.toList.head? ≠ some '0'
  deriving Decidable

theorem ofDigitChars_concat (l : List Char) (c : Char) :
    Nat.ofDigitChars 10 (l ++ [c]) 0 = 10 * Nat.ofDigitChars 10 l 0 + (c.toNat - '0'.toNat) := by
  rw [Nat.ofDigitChars_append, Nat.ofDigitChars_cons, Nat.ofDigitChars_nil]

/-- A digit is the digit of its value. -/
theorem digitChar_of_isDigit {c : Char} (digit : c.isDigit = true) :
    c.toNat - '0'.toNat < 10 ∧ (c.toNat - '0'.toNat).digitChar = c := by
  obtain ⟨low, high⟩ := Char.isDigit_iff_toNat.mp digit
  change 48 ≤ c.toNat at low
  change c.toNat ≤ 57 at high
  have small : c.toNat - '0'.toNat < 10 := by
    change c.toNat - 48 < 10
    omega
  refine ⟨small, Char.toNat_inj.mp ?_⟩
  rw [Nat.toNat_digitChar_of_lt_ten small]
  change 48 + (c.toNat - 48) = c.toNat
  omega

theorem ofDigitChars_lt {l : List Char} (digits : ∀ c ∈ l, c.isDigit = true) :
    Nat.ofDigitChars 10 l 0 < 10 ^ l.length := by
  induction l using List.reverseRecOn with
  | nil => decide
  | append_singleton l c ih =>
      have before := ih fun d member => digits d (List.mem_append_left _ member)
      have last := (digitChar_of_isDigit (digits c (by simp))).1
      rw [ofDigitChars_concat, List.length_append, List.length_singleton, Nat.pow_succ]
      omega

theorem toDigits_canonical (n : Nat) :
    Nat.toDigits 10 n = ['0'] ∨ (Nat.toDigits 10 n).head? ≠ some '0' := by
  induction n using Nat.base_induction 10 (by decide) with
  | single m small =>
      rw [Nat.toDigits_of_lt_base small]
      by_cases zero : m = 0
      · exact .inl (by rw [zero]; rfl)
      · exact .inr (by simpa using zero)
  | digit m k small positive ih =>
      refine .inr ?_
      rw [← Nat.toDigits_append_toDigits (by decide) positive small,
        List.head?_append_of_ne_nil _ Nat.toDigits_ne_nil]
      cases ih with
      | inl zero =>
          have value := congrArg (Nat.ofDigitChars 10 · 0) zero
          simp only [Nat.ofDigitChars_ten_toDigits] at value
          exact absurd value (Nat.pos_iff_ne_zero.mp positive)
      | inr other => exact other

theorem toDigits_ofDigitChars {l : List Char} (filled : l ≠ []) (digits : ∀ c ∈ l, c.isDigit = true)
    (canonical : l = ['0'] ∨ l.head? ≠ some '0') : Nat.toDigits 10 (Nat.ofDigitChars 10 l 0) = l := by
  induction l using List.reverseRecOn with
  | nil => exact absurd rfl filled
  | append_singleton l c ih =>
      obtain ⟨small, spelled⟩ := digitChar_of_isDigit (digits c (by simp))
      rw [ofDigitChars_concat]
      by_cases empty : l = []
      · rw [empty, Nat.ofDigitChars_nil, Nat.mul_zero, Nat.zero_add, Nat.toDigits_of_lt_base small, spelled]
        rfl
      · have other : l.head? ≠ some '0' := by
          cases canonical with
          | inl zero => exact absurd (congrArg List.length zero) (by simp [empty])
          | inr other => rwa [List.head?_append_of_ne_nil _ empty] at other
        have before := ih empty (fun d member => digits d (List.mem_append_left _ member)) (.inr other)
        have positive : 0 < Nat.ofDigitChars 10 l 0 := by
          rw [Nat.pos_iff_ne_zero]
          intro zero
          rw [zero] at before
          exact other (by rw [← before]; rfl)
        rw [← Nat.toDigits_append_toDigits (by decide) positive small, before,
          Nat.toDigits_of_lt_base small, spelled]

/-- Digits spell a number just if no zero stands before others. -/
theorem toString_ofDigitChars {text : String} (filled : text ≠ "")
    (digits : ∀ c ∈ text.toList, c.isDigit = true) :
    toString (Nat.ofDigitChars 10 text.toList 0) = text ↔ Canonical text := by
  have zero : text = "0" ↔ text.toList = ['0'] := by rw [← String.toList_inj]; rfl
  rw [Nat.toString_eq_ofList_toDigits, ← String.toList_inj, String.toList_ofList, Canonical, zero]
  constructor
  · intro same
    rw [← same]
    exact toDigits_canonical _
  · exact toDigits_ofDigitChars (by simpa using filled) digits

theorem canonical_toString (n : Nat) : Canonical (toString n) := by
  have zero : toString n = "0" ↔ Nat.toDigits 10 n = ['0'] := by
    rw [← String.toList_inj, Nat.toString_eq_ofList_toDigits, String.toList_ofList]
    rfl
  rw [Canonical, zero, Nat.toString_eq_ofList_toDigits, String.toList_ofList]
  exact toDigits_canonical n

/-! ## Printing floats -/

open Float.Model (UnpackedFloat)
open Float.Model.UnpackedFloat (Sign)

/-- The quotient rounded to the nearest integer, a tie to the even one. -/
def divEven (n d : Nat) : Nat :=
  let q := n / d
  if 2 * (n % d) < d then q else if d < 2 * (n % d) then q + 1 else q + q % 2

/-- `n` units of the last of `decimals` places. -/
def units (decimals n : Nat) : String :=
  let digits := toString (n % 10 ^ decimals)
  toString (n / 10 ^ decimals) ++ "." ++
    (String.ofList (List.replicate (decimals - digits.length) '0') ++ digits)

def signText : Sign → String
  | .negative => "-"
  | .positive => ""

/-- The exact value of the float rounded to `decimals` places, of which there is at least one. -/
def fixed (decimals : Nat) (x : Float) : String :=
  match x.toModel.unpack with
  | .notANumber => "NaN"
  | .infinity sign => signText sign ++ "inf"
  | .zero sign => signText sign ++ units decimals 0
  | .finite sign mantissa exponent _ =>
      let scaled := mantissa * 10 ^ decimals
      signText sign ++ units decimals
        (if exponent < 0 then divEven scaled (2 ^ (-exponent).toNat)
          else scaled * 2 ^ exponent.toNat)

example : fixed 5 47.46 = "47.46000" ∧ fixed 2 0.125 = "0.12" ∧ fixed 5 (-0.0) = "-0.00000" := by
  decide

theorem divEven_le (n d : Nat) : divEven n d ≤ n / d + 1 := by
  unfold divEven
  dsimp only
  split
  · omega
  · split <;> omega

theorem short_units {decimals whole n : Nat} (positive : 0 < decimals) (wholePositive : 0 < whole)
    (bound : n < 10 ^ (whole + decimals)) : Short (whole + 1 + decimals) (units decimals n) := by
  have base : 0 < 10 ^ decimals := Nat.pow_pos (by decide)
  have front : Short whole (toString (n / 10 ^ decimals)) := by
    refine short_nat wholePositive (Nat.div_lt_of_lt_mul ?_)
    rwa [← Nat.pow_add, Nat.add_comm]
  have back : ((toString (n % 10 ^ decimals)).length ≤ decimals) := by
    exact (Nat.length_repr_le_iff positive).mpr (Nat.mod_lt n base)
  have padded : Short decimals
      (String.ofList (List.replicate (decimals - (toString (n % 10 ^ decimals)).length) '0') ++
        toString (n % 10 ^ decimals)) := by
    rw [Nat.toString_eq_ofList_toDigits] at back ⊢
    rw [String.length_ofList] at back ⊢
    rw [← String.ofList_append]
    refine .of_digits ?_ ?_
    · intro c member
      obtain zero | digit := List.mem_append.mp member
      · rw [(List.mem_replicate.mp zero).2]
        decide
      · exact Nat.isDigit_of_mem_toDigits (by decide) (by decide) digit
    · simp only [List.length_append, List.length_replicate]
      omega
  exact (front.append ⟨by decide, by decide⟩ : Short (whole + 1) _).append padded

/-! ### Bounded floats -/

/-- The mantissa of a stored float has 53 bits. -/
theorem mantissa_lt {x : Float} {sign : Sign} {mantissa : Nat} {exponent : Int}
    {positive : 0 < mantissa}
    (unpacked : x.toModel.unpack = .finite sign mantissa exponent positive) :
    mantissa < 2 ^ 53 := by
  unfold Float.Model.unpack UnpackedFloat.unpack at unpacked
  obtain ⟨-, special⟩ | ⟨-, finite⟩ := ite_eq_iff.mp unpacked
  · obtain ⟨-, infinite⟩ | ⟨-, notANumber⟩ := ite_eq_iff.mp special
    · cases infinite
    · cases notANumber
  · obtain ⟨-, subnormal⟩ | ⟨-, normal⟩ := ite_eq_iff.mp finite
    · obtain ⟨zero, same⟩ | ⟨nonzero, same⟩ := dite_eq_iff.mp subnormal
      · cases same
      · cases same
        exact (BitVec.isLt _).trans (by decide)
    · cases normal
      exact BitVec.isLt _

theorem compare_of_le {x y : Float} (le : x ≤ y) :
    (x.toModel.unpack.compare y.toModel.unpack).any (·.isLE) = true :=
  of_decide_eq_true le

/-- A float between two others with the exponent `e`, one of each sign, has no larger an exponent. -/
theorem exponent_le {x bottom top : Float} {sign : Sign} {mantissa m m' : Nat} {exponent e : Int}
    {positive : 0 < mantissa} {p : 0 < m} {p' : 0 < m'}
    (lower : bottom.toModel.unpack = .finite .negative m e p)
    (upper : top.toModel.unpack = .finite .positive m' e p')
    (low : bottom ≤ x) (high : x ≤ top)
    (unpacked : x.toModel.unpack = .finite sign mantissa exponent positive) : exponent ≤ e := by
  cases sign with
  | negative =>
      have compared := compare_of_le low
      rw [lower, unpacked] at compared
      change ((compare e exponent).then (compare m mantissa)).swap.isLE = true at compared
      rw [Ordering.isLE_swap] at compared
      exact Int.isGE_compare.mp (Ordering.isGE_left_of_isGE_then compared)
  | positive =>
      have compared := compare_of_le high
      rw [unpacked, upper] at compared
      change ((compare exponent e).then (compare mantissa m')).isLE = true at compared
      exact Int.isLE_compare.mp (Ordering.isLE_left_of_isLE_then compared)

/-- With an exponent of at most -45 a float is below 256. -/
theorem divEven_lt {mantissa decimals shift : Nat} (small : mantissa < 2 ^ 53) (far : 45 ≤ shift) :
    divEven (mantissa * 10 ^ decimals) (2 ^ shift) < 10 ^ (3 + decimals) := by
  have base : 0 < 10 ^ decimals := Nat.pow_pos (by decide)
  have quotient : mantissa * 10 ^ decimals / 2 ^ shift < 256 * 10 ^ decimals := by
    refine Nat.div_lt_of_lt_mul ?_
    have shifted : 2 ^ 45 ≤ 2 ^ shift := Nat.pow_le_pow_right (by decide) far
    calc mantissa * 10 ^ decimals
      _ < 2 ^ 53 * 10 ^ decimals := Nat.mul_lt_mul_of_pos_right small base
      _ = 2 ^ 45 * (256 * 10 ^ decimals) := by rw [← Nat.mul_assoc]; congr 1
      _ ≤ 2 ^ shift * (256 * 10 ^ decimals) := Nat.mul_le_mul_right _ shifted
  have rounded := divEven_le (mantissa * 10 ^ decimals) (2 ^ shift)
  rw [Nat.pow_add]
  omega

/-- A finite float between two others whose exponents are at most -45 prints with at most three digits
    before the point. -/
theorem short_fixed {x bottom top : Float} {decimals m m' : Nat} {e : Int} {p : 0 < m} {p' : 0 < m'}
    (positive : 0 < decimals) (finite : x.isFinite = true)
    (lower : bottom.toModel.unpack = .finite .negative m e p)
    (upper : top.toModel.unpack = .finite .positive m' e p') (small : e ≤ -45)
    (low : bottom ≤ x) (high : x ≤ top) : Short (1 + (3 + 1 + decimals)) (fixed decimals x) := by
  have signed (sign : Sign) : Short 1 (signText sign) := by
    cases sign <;> exact ⟨by decide, by decide⟩
  unfold fixed
  change x.toModel.unpack.isFinite = true at finite
  cases unpacked : x.toModel.unpack with
  | notANumber | infinity =>
      rw [unpacked] at finite
      cases finite
  | zero sign =>
      exact (signed sign).append
        (short_units positive (by decide) (Nat.pow_pos (by decide)))
  | finite sign mantissa exponent nonzero =>
      have bound := exponent_le lower upper low high unpacked
      refine (signed sign).append (short_units positive (by decide) ?_)
      rw [if_pos (by omega)]
      exact divEven_lt (mantissa_lt unpacked) (by omega)

/-! ## Reading printed floats -/

/-- Units of a decimal place are digits, a point and digits. -/
theorem toList_units (decimals n : Nat) : ∃ whole places : List Char,
    (units decimals n).toList = whole ++ '.' :: places ∧ whole ≠ [] ∧
      (∀ c ∈ whole, c.isDigit = true) ∧ ∀ c ∈ places, c.isDigit = true := by
  have digit {n : Nat} : ∀ c ∈ Nat.toDigits 10 n, c.isDigit = true :=
    fun c member => Nat.isDigit_of_mem_toDigits (by decide) (by decide) member
  refine ⟨Nat.toDigits 10 (n / 10 ^ decimals),
    List.replicate (decimals - (Nat.toDigits 10 (n % 10 ^ decimals)).length) '0' ++
      Nat.toDigits 10 (n % 10 ^ decimals), ?_, Nat.toDigits_ne_nil, digit, ?_⟩
  · simp only [units, String.toList_append, Nat.toString_eq_ofList_toDigits, String.toList_ofList,
      String.length_ofList, List.append_assoc]
    rfl
  · intro c member
    cases List.mem_append.mp member with
    | inl zero =>
        rw [(List.mem_replicate.mp zero).2]
        decide
    | inr later => exact digit c later

theorem parseMagnitude_point {whole places : List Char} (filled : whole ≠ [])
    (digits : ∀ c ∈ whole, c.isDigit = true) (others : ∀ c ∈ places, c.isDigit = true) :
    ∃ x, parseMagnitude (whole ++ '.' :: places) = some x := by
  have front : (whole ++ '.' :: places).takeWhile Char.isDigit = whole := by
    rw [List.takeWhile_append_of_pos digits]
    simp
  have back : (whole ++ '.' :: places).dropWhile Char.isDigit = '.' :: places := by
    rw [List.dropWhile_append_of_pos digits]
    rfl
  have last : places.takeWhile Char.isDigit = places ∧ places.dropWhile Char.isDigit = [] := by
    rw [List.takeWhile_eq_self_iff, List.dropWhile_eq_nil_iff]
    exact ⟨others, others⟩
  unfold parseMagnitude
  simp only [front, back, last]
  rw [if_neg (by simp [filled])]
  exact ⟨_, rfl⟩

theorem toLower_digit {c : Char} (digit : c.isDigit = true) : c.toLower = c := by
  obtain ⟨-, high⟩ := Char.isDigit_iff_toNat.mp digit
  change c.toNat ≤ 57 at high
  exact Char.toNat_inj.mp ((Text.toNat_toLower c).trans (if_neg (by omega)))

/-- A finite float is printed with an optional sign, digits, a point and digits. -/
theorem toList_fixed {x : Float} (finite : x.isFinite = true) (decimals : Nat) :
    ∃ sign c whole places, (fixed decimals x).toList = (signText sign).toList ++ c :: whole ++ '.' :: places ∧
      (∀ d ∈ c :: whole, d.isDigit = true) ∧ ∀ d ∈ places, d.isDigit = true := by
  obtain ⟨sign, n, printed⟩ : ∃ sign n, fixed decimals x = signText sign ++ units decimals n := by
    unfold fixed
    change x.toModel.unpack.isFinite = true at finite
    cases unpacked : x.toModel.unpack with
    | notANumber | infinity =>
        rw [unpacked] at finite
        cases finite
    | zero sign => exact ⟨sign, _, rfl⟩
    | finite sign mantissa exponent nonzero => exact ⟨sign, _, rfl⟩
  obtain ⟨whole, places, spelled, filled, digits, others⟩ := toList_units decimals n
  cases whole with
  | nil => exact absurd rfl filled
  | cons c whole =>
      refine ⟨sign, c, whole, places, ?_, digits, others⟩
      rw [printed, String.toList_append, spelled, List.append_assoc]

theorem parseFloat_fixed {x : Float} (finite : x.isFinite = true) (decimals : Nat) :
    ∃ y, parseFloat (fixed decimals x) = some y := by
  obtain ⟨sign, c, whole, places, spelled, digits, others⟩ := toList_fixed finite decimals
  obtain ⟨y, read⟩ := parseMagnitude_point (List.cons_ne_nil c whole) digits others
  have digit := digits c List.mem_cons_self
  rw [List.cons_append] at read
  rw [List.append_assoc, List.cons_append] at spelled
  generalize whole ++ '.' :: places = rest at read spelled
  have number {word : List Char} (letter : word.head?.any Char.isDigit = false) :
      (c :: rest).map Char.toLower ≠ word := by
    intro same
    rw [← same, List.map_cons, toLower_digit digit, List.head?_cons, Option.any_some, digit] at letter
    cases letter
  have infinite : ¬ ((c :: rest).map Char.toLower = "inf".toList ∨
      (c :: rest).map Char.toLower = "infinity".toList) :=
    not_or.mpr ⟨number (by decide), number (by decide)⟩
  have nan : (c :: rest).map Char.toLower ≠ "nan".toList := number (by decide)
  cases sign with
  | negative =>
      rw [show (signText .negative).toList = ['-'] from rfl] at spelled
      simp only [parseFloat, spelled, List.cons_append, List.nil_append, if_neg infinite, if_neg nan, read]
      exact ⟨_, rfl⟩
  | positive =>
      rw [show (signText .positive).toList = [] from rfl, List.nil_append] at spelled
      simp only [parseFloat, spelled]
      split
      · rename_i minus
        rw [(List.cons.inj minus).1] at digit
        cases digit
      · rename_i plus
        rw [(List.cons.inj plus).1] at digit
        cases digit
      · rw [if_neg infinite, if_neg nan, read]
        exact ⟨_, rfl⟩

theorem colonless_fixed {x : Float} (finite : x.isFinite = true) (decimals : Nat) :
    ':' ∉ (fixed decimals x).toList := by
  obtain ⟨sign, c, whole, places, spelled, digits, others⟩ := toList_fixed finite decimals
  rw [spelled]
  have front : ':' ∉ c :: whole := fun member => (by cases digits _ member)
  have back : ':' ∉ places := fun member => (by cases others _ member)
  have first : ':' ∉ (signText sign).toList := by cases sign <;> decide
  simp only [List.mem_append, List.mem_cons, not_or] at front ⊢
  exact ⟨⟨first, front⟩, by decide, back⟩

theorem unbroken_fixed {x : Float} (finite : x.isFinite = true) (decimals : Nat) :
    Unbroken (fixed decimals x) := by
  obtain ⟨sign, c, whole, places, spelled, digits, others⟩ := toList_fixed finite decimals
  have digit : ∀ {d : Char}, d.isDigit = true → d ≠ '\r' ∧ d ≠ '\n' := by
    intro d isDigit
    constructor <;> (rintro rfl; cases isDigit)
  rw [unbroken_iff, spelled]
  intro d member
  simp only [List.append_assoc, List.mem_append, List.mem_cons] at member
  obtain first | front | point | back := member
  · cases sign with
    | negative => obtain rfl := List.mem_singleton.mp first; decide
    | positive => cases first
  · exact digit (digits d (List.mem_cons.mpr front))
  · exact point ▸ ⟨by decide, by decide⟩
  · exact digit (others d back)

end Decimal
