import AsterFsd.Model.Identity

/-! # The stored and the wire form of ratings

A rating is stored in the database under its text and sent as its integer. Both forms are read back
with the value they were written from, and nothing else is read as a rating.
-/

namespace AsterFsd

namespace AtcRating

/-- Every rating, from the lowest. -/
def all : List AtcRating :=
  [.suspended, .observer, .student1, .student2, .student3, .controller1, .controller2, .controller3,
    .instructor1, .instructor2, .instructor3, .supervisor, .administrator]

/-- The text of the database column. -/
def stringValue : AtcRating → String
  | .suspended => "suspended"
  | .observer => "observer"
  | .student1 => "student_1"
  | .student2 => "student_2"
  | .student3 => "student_3"
  | .controller1 => "controller_1"
  | .controller2 => "controller_2"
  | .controller3 => "controller_3"
  | .instructor1 => "instructor_1"
  | .instructor2 => "instructor_2"
  | .instructor3 => "instructor_3"
  | .supervisor => "supervisor"
  | .administrator => "administrator"

/-- The rating of a database column; an unknown text makes the row unreadable. -/
def tryFromValue : String → Option AtcRating
  | "suspended" => some .suspended
  | "observer" => some .observer
  | "student_1" => some .student1
  | "student_2" => some .student2
  | "student_3" => some .student3
  | "controller_1" => some .controller1
  | "controller_2" => some .controller2
  | "controller_3" => some .controller3
  | "instructor_1" => some .instructor1
  | "instructor_2" => some .instructor2
  | "instructor_3" => some .instructor3
  | "supervisor" => some .supervisor
  | "administrator" => some .administrator
  | _ => none

/-- The width of the database column, in characters. -/
def COLUMN_WIDTH : Nat := 16

/-- `TryFrom<i32>`. -/
def tryFrom (value : Int32) : Except ModelError AtcRating :=
  match value with
  | 0 => .ok .suspended
  | 1 => .ok .observer
  | 2 => .ok .student1
  | 3 => .ok .student2
  | 4 => .ok .student3
  | 5 => .ok .controller1
  | 6 => .ok .controller2
  | 7 => .ok .controller3
  | 8 => .ok .instructor1
  | 9 => .ok .instructor2
  | 10 => .ok .instructor3
  | 11 => .ok .supervisor
  | 12 => .ok .administrator
  | _ =>
      .error (.invalidField "ATC rating" "must be a recognized classic FSD certification level")

@[simp] theorem tryFromValue_stringValue (rating : AtcRating) :
    tryFromValue rating.stringValue = some rating := by
  cases rating <;> rfl

theorem tryFromValue_iff {text : String} {rating : AtcRating} :
    tryFromValue text = some rating ↔ text = rating.stringValue := by
  constructor
  · intro read
    unfold tryFromValue at read
    split at read <;> cases read <;> rfl
  · rintro rfl
    exact tryFromValue_stringValue rating

theorem tryFrom_iff {value : Int32} {rating : AtcRating} :
    tryFrom value = .ok rating ↔ value = rating.wireValue := by
  constructor
  · intro read
    unfold tryFrom at read
    split at read <;> cases read <;> rfl
  · rintro rfl
    cases rating <;> rfl

theorem stringValue_fits (rating : AtcRating) : rating.stringValue.length ≤ COLUMN_WIDTH := by
  cases rating <;> decide

/-- A level from 0 to 12 is the level of a rating. -/
private theorem exists_wireValue {value : Int32} (low : 0 ≤ value.toInt) (high : value.toInt ≤ 12) :
    ∃ rating : AtcRating, value = rating.wireValue := by
  have levels : ∀ level : Fin 13, ∃ rating ∈ all, rating.wireValue.toInt = level.val := by decide
  obtain ⟨rating, -, same⟩ := levels ⟨value.toInt.toNat, by omega⟩
  refine ⟨rating, Int32.toInt_inj.mp ?_⟩
  rw [same]
  exact (Int.toNat_of_nonneg low).symm

/-- A rating admits exactly the recognised levels from observer up to its own. -/
theorem allowsWireValue_iff {rating : AtcRating} {requested : Int32} :
    rating.allowsWireValue requested = true ↔
      ∃ role, tryFrom requested = .ok role ∧ role ≠ .suspended ∧
        role.wireValue ≤ rating.wireValue := by
  have within : ∀ role rating : AtcRating, rating.allowsWireValue role.wireValue = true ↔
      role ≠ .suspended ∧ role.wireValue ≤ rating.wireValue := by
    intro role rating
    cases role <;> cases rating <;> decide
  constructor
  · intro allowed
    have range : 1 ≤ requested ∧ requested ≤ 12 := by
      simp only [allowsWireValue, Bool.and_eq_true, decide_eq_true_eq] at allowed
      exact allowed.1.2
    have low : 1 ≤ requested.toInt := Int32.le_iff_toInt_le.mp range.1
    obtain ⟨role, rfl⟩ :=
      exists_wireValue (Int.le_of_lt low) (Int32.le_iff_toInt_le.mp range.2)
    exact ⟨role, tryFrom_iff.mpr rfl, (within role rating).mp allowed⟩
  · rintro ⟨role, read, held⟩
    obtain rfl := tryFrom_iff.mp read
    exact (within role rating).mpr held

end AtcRating

namespace PilotRating

/-- The text of the database column. -/
def stringValue : PilotRating → String
  | .unrated => "unrated"
  | .privatePilotLicense => "private_pilot_license"
  | .instrumentRating => "instrument_rating"
  | .commercialMultiEngineLicense => "commercial_multi_engine_license"
  | .airlineTransportPilotLicense => "airline_transport_pilot_license"
  | .flightInstructor => "flight_instructor"
  | .flightExaminer => "flight_examiner"

/-- The rating of a database column; an unknown text makes the row unreadable. -/
def tryFromValue : String → Option PilotRating
  | "unrated" => some .unrated
  | "private_pilot_license" => some .privatePilotLicense
  | "instrument_rating" => some .instrumentRating
  | "commercial_multi_engine_license" => some .commercialMultiEngineLicense
  | "airline_transport_pilot_license" => some .airlineTransportPilotLicense
  | "flight_instructor" => some .flightInstructor
  | "flight_examiner" => some .flightExaminer
  | _ => none

/-- The width of the database column, in characters. -/
def COLUMN_WIDTH : Nat := 32

/-- `TryFrom<i32>`. -/
def tryFrom (value : Int32) : Except ModelError PilotRating :=
  match value with
  | 0 => .ok .unrated
  | 1 => .ok .privatePilotLicense
  | 3 => .ok .instrumentRating
  | 7 => .ok .commercialMultiEngineLicense
  | 15 => .ok .airlineTransportPilotLicense
  | 31 => .ok .flightInstructor
  | 63 => .ok .flightExaminer
  | _ =>
      .error (.invalidField "pilot rating"
        "must be a recognized VATSIM cumulative certification level")

@[simp] theorem tryFromValue_stringValue (rating : PilotRating) :
    tryFromValue rating.stringValue = some rating := by
  cases rating <;> rfl

theorem tryFromValue_iff {text : String} {rating : PilotRating} :
    tryFromValue text = some rating ↔ text = rating.stringValue := by
  constructor
  · intro read
    unfold tryFromValue at read
    split at read <;> cases read <;> rfl
  · rintro rfl
    exact tryFromValue_stringValue rating

theorem tryFrom_iff {value : Int32} {rating : PilotRating} :
    tryFrom value = .ok rating ↔ value = rating.wireValue := by
  constructor
  · intro read
    unfold tryFrom at read
    split at read <;> cases read <;> rfl
  · rintro rfl
    cases rating <;> rfl

theorem stringValue_fits (rating : PilotRating) : rating.stringValue.length ≤ COLUMN_WIDTH := by
  cases rating <;> decide

/-- A rating admits exactly the recognised capability values up to its own, without the lowest. -/
theorem allowsWireValue_iff {rating : PilotRating} {requested : Int32} :
    rating.allowsWireValue requested = true ↔
      ∃ role, tryFrom requested = .ok role ∧ role ≠ .unrated ∧
        role.wireValue ≤ rating.wireValue := by
  have within : ∀ role rating : PilotRating, rating.allowsWireValue role.wireValue = true ↔
      role ≠ .unrated ∧ role.wireValue ≤ rating.wireValue := by
    intro role rating
    cases role <;> cases rating <;> decide
  constructor
  · intro allowed
    have recognised : requested ∈ ([1, 3, 7, 15, 31, 63] : List Int32) := by
      simp only [allowsWireValue, Bool.and_eq_true, List.contains_iff_mem] at allowed
      exact allowed.1.2
    have named : ∃ role, tryFrom requested = .ok role := by
      simp only [List.mem_cons, List.not_mem_nil, or_false] at recognised
      obtain rfl | rfl | rfl | rfl | rfl | rfl := recognised <;> exact ⟨_, rfl⟩
    obtain ⟨role, read⟩ := named
    obtain rfl := tryFrom_iff.mp read
    exact ⟨role, read, (within role rating).mp allowed⟩
  · rintro ⟨role, read, held⟩
    obtain rfl := tryFrom_iff.mp read
    exact (within role rating).mpr held

end PilotRating

end AsterFsd
