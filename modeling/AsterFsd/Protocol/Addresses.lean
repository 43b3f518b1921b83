import AsterFsd.Protocol.ClassicDecode
import AsterFsd.Protocol.ClassicEncode

/-! # Addresses on the classic wire

Which texts of destinations read back as themselves, and how reading and writing changes the spelling of
an address: an address is uppercased, unless it is a range.
-/

namespace AsterFsd

open ClassicProtocol

theorem head?_toAsciiUppercase (value : String) :
    (toAsciiUppercase value).toList.head? = value.toList.head?.map Char.toUpper := by
  rw [toAsciiUppercase_toList, List.head?_map]

/-! ## Destinations -/

/-- The destinations that a text can name: the word for the server is not a callsign there, and a range
    is marked as one. -/
def Destination.Nameable : Destination → Prop
  | .direct callsign => toString callsign ≠ "SERVER"
  | .range value => value.toList.head? = some '@'
  | .server | .all | .atc | .pilots => True

instance decidableNameable : (destination : Destination) → Decidable destination.Nameable
  | .direct callsign => inferInstanceAs (Decidable (toString callsign ≠ "SERVER"))
  | .range value => inferInstanceAs (Decidable (value.toList.head? = some '@'))
  | .server | .all | .atc | .pilots => .isTrue trivial

/-- The spelling of a destination after it was read. -/
def destinationSpelling (value : String) : String :=
  if value.toList.head? = some '@' then value else toAsciiUppercase value

theorem parse_range {value : String} (marked : value.toList.head? = some '@') :
    Destination.parse value = .ok (.range value) := by
  have other : ∀ word : String, word.toList.head? ≠ some '@' → toAsciiUppercase value ≠ word := by
    intro word unmarked same
    apply unmarked
    rw [← same, head?_toAsciiUppercase, marked]
    rfl
  have nonempty : value.isEmpty = false := by
    rw [String.isEmpty_eq_false_iff]
    intro empty
    rw [empty] at marked
    cases marked
  unfold Destination.parse
  simp only [nonempty, marked, other "SERVER" (by decide), other "*" (by decide),
    other "*A" (by decide), other "*P" (by decide), Bool.false_eq_true, ↓reduceIte]

/-- A callsign that is not the word for the server names its owner. -/
theorem parse_direct {callsign : Callsign} (unreserved : toString callsign ≠ "SERVER") :
    Destination.parse (toString callsign) = .ok (.direct callsign) := by
  have characters := callsign.valid.unreserved
  have upper : toAsciiUppercase (toString callsign) = toString callsign := callsign.valid.upper
  have other : ∀ word : String, word.toList.any Callsign.reserved = true →
      toString callsign ≠ word := by
    intro word reserved same
    rw [← same] at reserved
    cases characters.symm.trans reserved
  have nonempty : (toString callsign).isEmpty = false := by
    rw [String.isEmpty_eq_false_iff]
    intro empty
    have size := callsign.valid.length.1
    rw [show callsign.text = "" from empty] at size
    cases size
  have unmarked : (toString callsign).toList.head? ≠ some '@' := by
    intro marked
    have member : '@' ∈ callsign.text.toList := List.mem_of_mem_head? marked
    rw [List.any_eq_false] at characters
    exact characters '@' member rfl
  unfold Destination.parse
  simp only [nonempty, upper, unreserved, other "*" (by decide), other "*A" (by decide),
    other "*P" (by decide), unmarked, Callsign.parse_toString, Bool.false_eq_true, ↓reduceIte]
  rfl

/-- What a text was read as. -/
theorem parse_cases {value : String} {destination : Destination}
    (read : Destination.parse value = .ok destination) :
    destination.Nameable ∧ destinationText destination = destinationSpelling value := by
  unfold Destination.parse at read
  split at read
  · cases read
  have plain : ∀ word : String, word.toList.head? ≠ some '@' → toAsciiUppercase value = word →
      destinationSpelling value = word := by
    intro word unmarked same
    unfold destinationSpelling
    rw [if_neg, same]
    intro marked
    apply unmarked
    rw [← same, head?_toAsciiUppercase, marked]
    rfl
  dsimp only at read
  split at read
  · obtain rfl := Except.ok.inj read
    exact ⟨trivial, (plain "SERVER" (by decide) ‹_›).symm⟩
  rename_i unreserved
  split at read
  · obtain rfl := Except.ok.inj read
    exact ⟨trivial, (plain "*" (by decide) ‹_›).symm⟩
  split at read
  · obtain rfl := Except.ok.inj read
    exact ⟨trivial, (plain "*A" (by decide) ‹_›).symm⟩
  split at read
  · obtain rfl := Except.ok.inj read
    exact ⟨trivial, (plain "*P" (by decide) ‹_›).symm⟩
  split at read
  · rename_i marked
    obtain rfl := Except.ok.inj read
    exact ⟨marked, (if_pos marked).symm⟩
  · rename_i unmarked
    cases parsed : Callsign.parse value with
    | error error =>
        rw [parsed] at read
        cases read
    | ok callsign =>
        rw [parsed] at read
        obtain rfl := Except.ok.inj read
        have spelled := (Callsign.parse_ok.mp parsed).2
        refine ⟨?_, spelled.trans (if_neg unmarked).symm⟩
        change toString callsign ≠ "SERVER"
        rw [spelled]
        exact unreserved

/-- A destination reads back as itself exactly when a text can name it. -/
theorem parse_destinationText {destination : Destination} :
    Destination.parse (destinationText destination) = .ok destination ↔ destination.Nameable := by
  constructor
  · exact fun read => (parse_cases read).1
  · intro nameable
    cases destination with
    | direct callsign => exact parse_direct nameable
    | range value => exact parse_range nameable
    | server | all | atc | pilots => rfl

/-! ## Addresses of a packet -/

namespace ClassicProtocol

theorem callsign_ok {value : String} {errorCode : ErrorCode} {result : Callsign} :
    callsign value errorCode = .ok result ↔ Callsign.parse value = .ok result := by
  unfold callsign
  cases Callsign.parse value with
  | ok callsign => simp
  | error error => cases error <;> simp

theorem destination_ok {value : String} {result : Destination} :
    destination value = .ok result ↔ Destination.parse value = .ok result := by
  unfold destination
  cases Destination.parse value with
  | ok destination => simp [Except.mapError]
  | error error => simp [Except.mapError]

theorem directDestination_ok {value command : String} {result : Destination} :
    directDestination value command = .ok result ↔
      ∃ target, result = .direct target ∧ Destination.parse value = .ok (.direct target) := by
  unfold directDestination
  cases read : destination value with
  | error error =>
      have refused : ∀ target, Destination.parse value ≠ .ok (.direct target) := by
        intro target parsed
        cases read.symm.trans (destination_ok.mpr parsed)
      simp [bind, Except.bind, refused]
  | ok destination =>
      rw [destination_ok.mp read]
      cases destination <;> simp [bind, Except.bind, eq_comm]

theorem directCallsign_ok {value command : String} {result : Callsign} :
    directCallsign value command = .ok result ↔
      Destination.parse value = .ok (.direct result) := by
  unfold directCallsign
  cases read : directDestination value command with
  | error error =>
      have refused : Destination.parse value ≠ .ok (.direct result) := by
        intro parsed
        cases read.symm.trans (directDestination_ok.mpr ⟨result, rfl, parsed⟩)
      simp [bind, Except.bind, refused]
  | ok destination =>
      obtain ⟨target, rfl, parsed⟩ := directDestination_ok.mp read
      simp [bind, Except.bind, parsed]

theorem requireFields_ok {packet : RawPacket} {minimum : Nat} :
    requireFields packet minimum = .ok () ↔ minimum ≤ packet.fields.length := by
  unfold requireFields
  split
  · simp
    omega
  · simp
    omega

end ClassicProtocol

end AsterFsd
