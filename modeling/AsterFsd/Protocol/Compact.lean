import AsterFsd.Lib.Decimal
import AsterFsd.Protocol.Aster

/-! # Compact JSON text

The text of an object of strings and integers, and with it the size of the frame in which a client of the
JSON dialect is welcomed.
-/

namespace AsterFsd

namespace Json

/-- A hexadecimal digit. -/
def hexDigit (n : Nat) : Char := if n < 10 then .ofNat (48 + n) else .ofNat (87 + n)

/-- A character in a JSON string. -/
def escape (c : Char) : List Char :=
  if c = '"' ∨ c = '\\' then ['\\', c]
  else if c.toNat = 8 then ['\\', 'b']
  else if c.toNat = 9 then ['\\', 't']
  else if c.toNat = 10 then ['\\', 'n']
  else if c.toNat = 12 then ['\\', 'f']
  else if c.toNat = 13 then ['\\', 'r']
  else if c.toNat < 32 then ['\\', 'u', '0', '0', hexDigit (c.toNat / 16), hexDigit (c.toNat % 16)]
  else [c]

def escaped (text : String) : List Char := text.toList.flatMap escape

def quoted (text : String) : List Char := '"' :: escaped text ++ ['"']

theorem byteSize_quoted (text : String) :
    Text.byteSize (quoted text) = Text.byteSize (escaped text) + 2 := by
  have quote : '"'.utf8Size = 1 := by decide
  simp only [quoted, List.cons_append, Text.byteSize_cons, Text.byteSize_append, quote,
    Text.byteSize_nil]
  omega

/-- The text of a string or an integer. -/
def scalarText : Json → Option (List Char)
  | .string text => some (quoted text)
  | .number value => some (toString value).toList
  | _ => none

/-- The fields of an object of strings and integers, with a comma before each. -/
def fieldTexts : List (String × Json) → Option (List Char)
  | [] => some []
  | (key, value) :: fields => do
      let text ← scalarText value
      let texts ← fieldTexts fields
      return ',' :: quoted key ++ ':' :: text ++ texts

/-- An object of strings and integers. -/
def flatText (fields : List (String × Json)) : Option (List Char) := do
  let texts ← fieldTexts fields
  return '\x7b' :: texts.tail ++ ['\x7d']

theorem hexDigit_unbroken : ∀ n < 16, hexDigit n ≠ '\r' ∧ hexDigit n ≠ '\n' := by decide

theorem escape_unbroken {c d : Char} (member : d ∈ escape c) : d ≠ '\r' ∧ d ≠ '\n' := by
  unfold escape at member
  split_ifs at member with special back tab feed form return_ control
  all_goals simp only [List.mem_cons, List.not_mem_nil, or_false] at member
  · obtain rfl | rfl := member
    · decide
    · obtain rfl | rfl := special <;> decide
  · obtain rfl | rfl := member <;> decide
  · obtain rfl | rfl := member <;> decide
  · obtain rfl | rfl := member <;> decide
  · obtain rfl | rfl := member <;> decide
  · obtain rfl | rfl := member <;> decide
  · obtain rfl | rfl | rfl | rfl | rfl | rfl := member
    · decide
    · decide
    · decide
    · decide
    · exact hexDigit_unbroken _ (by omega)
    · exact hexDigit_unbroken _ (by omega)
  · subst member
    constructor
    · rintro rfl
      exact return_ rfl
    · rintro rfl
      exact feed rfl

theorem quoted_unbroken (text : String) : ∀ d ∈ quoted text, d ≠ '\r' ∧ d ≠ '\n' := by
  intro d member
  simp only [quoted, escaped, List.cons_append, List.mem_cons, List.mem_append, List.mem_flatMap,
    List.not_mem_nil, or_false] at member
  obtain rfl | ⟨c, -, member⟩ | rfl := member
  · decide
  · exact escape_unbroken member
  · decide

theorem scalarText_unbroken {value : Json} {text : List Char} (scalar : scalarText value = some text) :
    ∀ d ∈ text, d ≠ '\r' ∧ d ≠ '\n' := by
  cases value with
  | string value =>
      cases scalar
      exact quoted_unbroken value
  | number value =>
      cases scalar
      exact Text.unbroken_iff.mp (Decimal.unbroken_int value)
  | _ => cases scalar

theorem fieldTexts_unbroken {fields : List (String × Json)} {texts : List Char}
    (flat : fieldTexts fields = some texts) : ∀ d ∈ texts, d ≠ '\r' ∧ d ≠ '\n' := by
  induction fields generalizing texts with
  | nil =>
      cases flat
      exact List.forall_mem_nil _
  | cons field fields ih =>
      obtain ⟨key, value⟩ := field
      obtain ⟨text, scalar, texts⟩ := Option.bind_eq_some_iff.mp flat
      obtain ⟨rest, others, joined⟩ := Option.bind_eq_some_iff.mp texts
      cases joined
      intro d member
      simp only [List.cons_append, List.mem_cons, List.mem_append] at member
      obtain rfl | (member | rfl | member) | member := member
      · decide
      · exact quoted_unbroken key d member
      · decide
      · exact scalarText_unbroken scalar d member
      · exact ih others d member

theorem flatText_unbroken {fields : List (String × Json)} {text : List Char}
    (flat : flatText fields = some text) : ∀ d ∈ text, d ≠ '\r' ∧ d ≠ '\n' := by
  obtain ⟨texts, fields, joined⟩ := Option.bind_eq_some_iff.mp flat
  cases joined
  intro d member
  simp only [List.cons_append, List.mem_cons, List.mem_append, List.not_mem_nil, or_false] at member
  obtain rfl | member | rfl := member
  · decide
  · exact fieldTexts_unbroken fields d (List.mem_of_mem_tail member)
  · decide

end Json

open Json

/-- What the library documents of flat objects: a welcome is an object of its type and its data, and an
    object of strings and integers takes no more space than its fields do. -/
structure SerdeJson.Compact (json : SerdeJson) : Prop where
  toValue_welcome : ∀ callsign message, json.toValue (.welcome callsign message) =
    .ok (.object
      [("callsign", .string (toString callsign)), ("message", .string message),
        ("type", .string "welcome")])
  toVec_flat : ∀ fields text bytes, flatText fields = some text →
    json.toVec (.object fields) = .ok bytes → bytes.length = Text.byteSize text

namespace AsterProtocolV1

/-- The size of the line in which a client is welcomed. -/
def welcomeSize (callsign : Callsign) (message : String) : Nat :=
  51 + Text.byteSize (escaped (toString callsign)) + Text.byteSize (escaped message)

/-- A welcome is encoded as one line of that size. -/
theorem encode_welcome {json : SerdeJson} (documented : json.Documented) (compact : json.Compact)
    (context : EncodeContext) (callsign : Callsign) (message : String) :
    ∃ frame : WireFrame, encode json context (.welcome callsign message) = .ok [frame] ∧
      frame.bytes.length = welcomeSize callsign message := by
  let fields : List (String × Json) :=
    [("callsign", .string (toString callsign)), ("message", .string message),
      ("type", .string "welcome"), ("v", .number 1)]
  obtain ⟨bytes, printed, undelimited⟩ := documented.toVec_line (.object fields)
  refine ⟨⟨bytes, undelimited⟩, ?_, ?_⟩
  · have versioned : Json.insert
        [("callsign", .string (toString callsign)), ("message", .string message),
          ("type", .string "welcome")] "v" (.number VERSION.toNat) = fields := rfl
    simp only [encode, compact.toValue_welcome, versioned, line, printed, WireFrame.new_ok undelimited]
    rfl
  · have text : flatText fields = some
        ('\x7b' :: (quoted "callsign" ++ ':' :: quoted (toString callsign) ++
          (',' :: quoted "message" ++ ':' :: quoted message ++
            (',' :: quoted "type" ++ ':' :: quoted "welcome" ++
              (',' :: quoted "v" ++ ':' :: "1".toList ++ [])))) ++ ['\x7d']) := rfl
    have sizes : Text.byteSize (quoted "callsign") = 10 ∧ Text.byteSize (quoted "message") = 9 ∧
        Text.byteSize (quoted "type") = 6 ∧ Text.byteSize (quoted "welcome") = 9 ∧
        Text.byteSize (quoted "v") = 3 := by decide
    obtain ⟨callsignKey, messageKey, typeKey, type, versionKey⟩ := sizes
    rw [compact.toVec_flat fields _ bytes text printed]
    have signs : '\x7b'.utf8Size = 1 ∧ '\x7d'.utf8Size = 1 ∧ ':'.utf8Size = 1 ∧ ','.utf8Size = 1 ∧
        Text.byteSize "1".toList = 1 := by decide
    obtain ⟨opening, closing, colon, comma, version⟩ := signs
    simp only [List.cons_append, Text.byteSize_append, Text.byteSize_cons, Text.byteSize_nil, opening,
      closing, colon, comma, version, callsignKey, messageKey, typeKey, type, versionKey]
    rw [byteSize_quoted, byteSize_quoted, welcomeSize]
    omega

end AsterProtocolV1

namespace Sample

/-- A library that prints flat objects. -/
def compactJson : SerdeJson where
  fromSlice _ := .error "expected value at line 1 column 1"
  toValue
    | .welcome callsign message =>
        .ok (.object
          [("callsign", .string (toString callsign)), ("message", .string message),
            ("type", .string "welcome")])
    | _ => .ok (.object [])
  toVec
    | .object fields => .ok (Text.bytes (String.ofList ((flatText fields).getD "null".toList)))
    | _ => .ok (Text.bytes "null")

theorem compactJson_compact : compactJson.Compact where
  toValue_welcome _ _ := rfl
  toVec_flat fields text bytes flat printed := by
    cases printed
    rw [flat, Option.getD_some, Text.length_bytes, Text.utf8ByteSize_ofList]

theorem compactJson_documented : compactJson.Documented where
  toValue_object event := by cases event <;> exact ⟨_, rfl⟩
  toVec_line value := by
    have word : Text.Unbroken "null" := by decide
    cases value with
    | object fields =>
        refine ⟨_, rfl, (Text.any_delimiter_bytes _).mpr ?_⟩
        cases flat : flatText fields with
        | none => exact word
        | some text =>
            rw [Text.unbroken_iff, Option.getD_some, String.toList_ofList]
            exact flatText_unbroken flat
    | _ => exact ⟨_, rfl, (Text.any_delimiter_bytes _).mpr word⟩

end Sample

end AsterFsd
