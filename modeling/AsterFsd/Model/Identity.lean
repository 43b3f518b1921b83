import AsterFsd.Lib.Text

/-! # Callsigns, ratings and identities

Rust strings are UTF-8 and so are Lean's, so a Rust `String` is a `String` and its `len()` is
`utf8ByteSize`. A callsign can only be obtained from `Callsign.parse` (its field is private in the
source), hence the well-formedness that `parse` checks is a field of the structure.
-/

namespace AsterFsd

/-- Domain validation failures produced before a command enters the core. -/
inductive ModelError where
  | invalidCallsignLength
  | invalidCallsignCharacter
  | emptyDestination
  | invalidField (field reason : String)
  deriving DecidableEq, Repr

/-- The displayed text of a model error. -/
def ModelError.toString : ModelError → String
  | .invalidCallsignLength => "callsign must contain between 2 and 12 ASCII bytes"
  | .invalidCallsignCharacter => "callsign contains a reserved character"
  | .emptyDestination => "destination is empty"
  | .invalidField field reason => "field " ++ field ++ " is invalid: " ++ reason

instance : ToString ModelError := ⟨ModelError.toString⟩

/-- `str::is_ascii`. -/
def isAscii (value : String) : Bool := value.toList.all (·.toNat < 128)

theorem isAscii_append (value other : String) :
    isAscii (value ++ other) = (isAscii value && isAscii other) := by
  rw [isAscii, String.toList_append, List.all_append, isAscii, isAscii]

/-- `str::to_ascii_uppercase`: `Char.toUpper` moves the letters `a` to `z` and nothing else. -/
def toAsciiUppercase (value : String) : String := String.ofList (value.toList.map Char.toUpper)

@[simp] theorem toAsciiUppercase_toList (value : String) :
    (toAsciiUppercase value).toList = value.toList.map Char.toUpper := String.toList_ofList

theorem toAsciiUppercase_size (value : String) :
    (toAsciiUppercase value).utf8ByteSize = value.utf8ByteSize := by
  rw [Text.utf8ByteSize_eq, Text.utf8ByteSize_eq value, toAsciiUppercase_toList,
    Text.byteSize_map_toUpper]

theorem toAsciiUppercase_idem (value : String) :
    toAsciiUppercase (toAsciiUppercase value) = toAsciiUppercase value := by
  apply String.toList_inj.mp
  simp only [toAsciiUppercase_toList, List.map_map, Function.comp_def, Text.toUpper_toUpper]

/-- `str::eq_ignore_ascii_case`: the lowercased texts are the same. -/
def eqIgnoreAsciiCase (value other : String) : Bool :=
  value.toList.map Char.toLower == other.toList.map Char.toLower

theorem eqIgnoreAsciiCase_iff {value other : String} :
    eqIgnoreAsciiCase value other = true ↔ toAsciiUppercase value = toAsciiUppercase other := by
  rw [eqIgnoreAsciiCase, beq_iff_eq, ← Text.map_toUpper_eq_iff, ← String.toList_inj,
    toAsciiUppercase_toList, toAsciiUppercase_toList]

theorem isAscii_toAsciiUppercase (value : String) :
    isAscii (toAsciiUppercase value) = isAscii value := by
  have same : ∀ c : Char, (c.toUpper.toNat < 128 ↔ c.toNat < 128) := by
    intro c
    rw [Text.toNat_toUpper]
    split <;> omega
  simp only [isAscii, toAsciiUppercase_toList, List.all_map, Function.comp_def, same]

theorem mem_toAsciiUppercase {d : Char} (low : d.toNat < 65) {value : String} :
    d ∈ (toAsciiUppercase value).toList ↔ d ∈ value.toList := by
  rw [toAsciiUppercase_toList, Text.mem_map_toUpper low]

theorem unbroken_toAsciiUppercase {value : String} :
    Text.Unbroken (toAsciiUppercase value) ↔ Text.Unbroken value := by
  have lines : ∀ s : String, Text.Unbroken s ↔ '\r' ∉ s.toList ∧ '\n' ∉ s.toList := by
    intro s
    rw [Text.unbroken_iff]
    grind
  rw [lines, lines, mem_toAsciiUppercase (by decide), mem_toAsciiUppercase (by decide)]

/-! ## Callsigns -/

namespace Callsign

/-- Characters reserved by classic FSD framing. -/
def reserved (c : Char) : Bool :=
  c == '!' || c == '@' || c == '#' || c == '$' || c == '%' || c == '*' || c == ':' || c == '&' ||
    c == ' ' || c == '\t'

/-- What `parse` guarantees about the text it stores. -/
structure Valid (text : String) : Prop where
  length : 2 ≤ text.utf8ByteSize ∧ text.utf8ByteSize ≤ 12
  ascii : isAscii text = true
  unreserved : text.toList.any reserved = false
  upper : toAsciiUppercase text = text

instance (text : String) : Decidable (Valid text) :=
  decidable_of_iff
    ((2 ≤ text.utf8ByteSize ∧ text.utf8ByteSize ≤ 12) ∧ isAscii text = true ∧
      text.toList.any reserved = false ∧ toAsciiUppercase text = text)
    ⟨fun h => ⟨h.1, h.2.1, h.2.2.1, h.2.2.2⟩,
      fun h => ⟨h.length, h.ascii, h.unreserved, h.upper⟩⟩

theorem reserved_toUpper {c : Char} (ascii : c.toNat < 128) : reserved c.toUpper = reserved c := by
  by_cases lower : 97 ≤ c.toNat ∧ c.toNat ≤ 122
  · have value := Text.toNat_toUpper c
    rw [if_pos lower] at value
    have free : ∀ d : Char, 65 ≤ d.toNat → d.toNat ≤ 122 → reserved d = false := by
      intro d low high
      simp only [reserved, Bool.or_eq_false_iff, beq_eq_false_iff_ne]
      refine ⟨⟨⟨⟨⟨⟨⟨⟨⟨?_, ?_⟩, ?_⟩, ?_⟩, ?_⟩, ?_⟩, ?_⟩, ?_⟩, ?_⟩, ?_⟩ <;>
        (rintro rfl; revert low high; decide)
    rw [free c (by omega) lower.2, free c.toUpper (by omega) (by omega)]
  · rw [Char.toNat_inj.mp ((Text.toNat_toUpper c).trans (if_neg lower))]

end Callsign

/-- A validated, normalized and case-insensitive FSD callsign. -/
structure Callsign where
  text : String
  valid : Callsign.Valid text
  deriving DecidableEq

namespace Callsign

instance : ToString Callsign := ⟨text⟩

@[ext] theorem ext {a b : Callsign} (same : a.text = b.text) : a = b := by
  cases a
  cases b
  cases same
  rfl

/-- The check of `parse` on a text that is not yet normalized. -/
def Accepts (value : String) : Prop :=
  (2 ≤ value.utf8ByteSize ∧ value.utf8ByteSize ≤ 12) ∧ isAscii value = true ∧
    value.toList.any reserved = false

/-- The check does not look at the case of letters. -/
theorem accepts_toAsciiUppercase {value : String} :
    Accepts (toAsciiUppercase value) ↔ Accepts value := by
  unfold Accepts
  rw [toAsciiUppercase_size, isAscii_toAsciiUppercase]
  refine and_congr_right fun _ => and_congr_right fun ascii => ?_
  simp only [isAscii, List.all_eq_true, decide_eq_true_eq] at ascii
  have same : ∀ c ∈ value.toList, reserved c.toUpper = reserved c :=
    fun c member => reserved_toUpper (ascii c member)
  simp only [toAsciiUppercase_toList, List.any_map, List.any_eq_false, Function.comp_apply]
  exact forall₂_congr fun c member => by rw [same c member]

theorem Accepts.valid {value : String} (accepts : Accepts value) :
    Valid (toAsciiUppercase value) := by
  obtain ⟨length, ascii, unreserved⟩ := accepts_toAsciiUppercase.mpr accepts
  exact ⟨length, ascii, unreserved, toAsciiUppercase_idem value⟩

/-- Parses and normalizes a callsign to uppercase ASCII. -/
def parse (value : String) : Except ModelError Callsign :=
  if length : ¬ ((2 ≤ value.utf8ByteSize ∧ value.utf8ByteSize ≤ 12) ∧ isAscii value = true) then
    .error .invalidCallsignLength
  else if characters : value.toList.any reserved then
    .error .invalidCallsignCharacter
  else
    .ok ⟨toAsciiUppercase value, Accepts.valid (by
      obtain ⟨size, ascii⟩ := not_not.mp length
      exact ⟨size, ascii, Bool.eq_false_iff.mpr characters⟩)⟩

theorem Valid.accepts {text : String} (valid : Valid text) : Accepts text :=
  ⟨valid.length, valid.ascii, valid.unreserved⟩

theorem parse_ok {value : String} {callsign : Callsign} :
    parse value = .ok callsign ↔ Accepts value ∧ toString callsign = toAsciiUppercase value := by
  have spelled : ∀ accepts : Accepts value, callsign = ⟨toAsciiUppercase value, accepts.valid⟩ ↔
      toString callsign = toAsciiUppercase value :=
    fun accepts => ⟨fun same => same ▸ rfl, fun same => ext same⟩
  unfold parse
  split
  · rename_i length
    exact ⟨fun parsed => (nomatch parsed), fun ⟨accepts, _⟩ => absurd ⟨accepts.1, accepts.2.1⟩ length⟩
  · rename_i length
    split
    · rename_i characters
      refine ⟨fun parsed => (nomatch parsed), fun ⟨accepts, _⟩ => ?_⟩
      rw [accepts.2.2] at characters
      cases characters
    · rename_i characters
      obtain ⟨size, ascii⟩ := not_not.mp length
      have accepts : Accepts value := ⟨size, ascii, Bool.eq_false_iff.mpr characters⟩
      rw [Except.ok.injEq, eq_comm, spelled accepts]
      exact ⟨fun same => ⟨accepts, same⟩, fun parsed => parsed.2⟩

/-- A callsign reads back as itself. -/
theorem parse_toString (callsign : Callsign) : parse (toString callsign) = .ok callsign :=
  parse_ok.mpr ⟨callsign.valid.accepts, callsign.valid.upper.symm⟩

/-- The spellings of a callsign are those that differ from each other in case alone. -/
theorem parse_caseless {value other : String} {callsign : Callsign}
    (parsed : parse value = .ok callsign) :
    parse other = .ok callsign ↔ eqIgnoreAsciiCase value other = true := by
  have spelled := (parse_ok.mp parsed).2
  rw [eqIgnoreAsciiCase_iff, ← spelled]
  constructor
  · intro parsed
    exact (parse_ok.mp parsed).2
  · intro same
    have accepts : Accepts (toAsciiUppercase other) := same ▸ callsign.valid.accepts
    exact parse_ok.mpr ⟨accepts_toAsciiUppercase.mp accepts, same⟩

theorem colonless (callsign : Callsign) : ':' ∉ (toString callsign).toList := by
  have unreserved := callsign.valid.unreserved
  rw [List.any_eq_false] at unreserved
  intro member
  exact unreserved ':' member rfl

example : (parse "ecp4143").toOption.map text = some "ECP4143" := by decide

end Callsign

/-! ## Roles and ratings -/

/-- Client role used by authorization, routing and recipient filtering. -/
inductive ClientType where
  | pilot
  | atc
  | observer
  deriving DecidableEq, Repr

/-- Classic FSD controller certification. -/
inductive AtcRating where
  | suspended
  | observer
  | student1
  | student2
  | student3
  | controller1
  | controller2
  | controller3
  | instructor1
  | instructor2
  | instructor3
  | supervisor
  | administrator
  deriving DecidableEq, Repr

namespace AtcRating

/-- The classic FSD certification-level integer for this rating. -/
def wireValue : AtcRating → Int32
  | .suspended => 0
  | .observer => 1
  | .student1 => 2
  | .student2 => 3
  | .student3 => 4
  | .controller1 => 5
  | .controller2 => 6
  | .controller3 => 7
  | .instructor1 => 8
  | .instructor2 => 9
  | .instructor3 => 10
  | .supervisor => 11
  | .administrator => 12

/-- Whether this identity may log in at the requested ATC wire level. -/
def allowsWireValue (rating : AtcRating) (requestedRating : Int32) : Bool :=
  rating ≠ .suspended && (1 ≤ requestedRating && requestedRating ≤ 12) &&
    requestedRating ≤ rating.wireValue

end AtcRating

/-- VATSIM pilot certification: cumulative capability values, not a contiguous sequence. -/
inductive PilotRating where
  | unrated
  | privatePilotLicense
  | instrumentRating
  | commercialMultiEngineLicense
  | airlineTransportPilotLicense
  | flightInstructor
  | flightExaminer
  deriving DecidableEq, Repr

namespace PilotRating

/-- The VATSIM cumulative pilot-rating integer for this rating. -/
def wireValue : PilotRating → Int32
  | .unrated => 0
  | .privatePilotLicense => 1
  | .instrumentRating => 3
  | .commercialMultiEngineLicense => 7
  | .airlineTransportPilotLicense => 15
  | .flightInstructor => 31
  | .flightExaminer => 63

/-- Whether this identity may log in at the requested pilot wire level. -/
def allowsWireValue (rating : PilotRating) (requestedRating : Int32) : Bool :=
  rating ≠ .unrated && [1, 3, 7, 15, 31, 63].contains requestedRating &&
    requestedRating ≤ rating.wireValue

end PilotRating

/-- Identity returned by the authentication boundary. -/
structure AuthenticatedIdentity where
  networkId : String
  realName : String
  atcRating : AtcRating
  pilotRating : PilotRating
  suspended : Bool
  deriving DecidableEq, Repr

end AsterFsd
