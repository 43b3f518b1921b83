import AsterFsd.Auth.Password
import AsterFsd.Lib.Table
import AsterFsd.Model.Ratings

/-! # The tables of the authenticator

Users and the whitelist of client software, as the migrations create them. What the schema demands of
the rows is part of the type of a store, so whoever writes to the database leaves one. The database
itself is a parameter: which texts it takes for the same, and the words of its errors.
-/

namespace AsterFsd.Persistence

/-- The displayed text of a database error. -/
abbrev DbErr := String

abbrev DateTimeUtc := Int

structure Database where
  collation : Collation
  /-- A statement that the schema refuses. -/
  conflict : DbErr
  /-- A column whose text is no value of its type. -/
  unexpectedValue : String → DbErr

/-! ## Users -/

namespace User

/-- A row of the `users` table as the database has it. -/
structure Row where
  id : Int32
  networkId : String
  passwordHash : String
  realName : String
  atcRating : String
  pilotRating : String
  createdAt : DateTimeUtc
  updatedAt : DateTimeUtc
  deriving DecidableEq

/-- Persistent network identity and its Argon2 password hash. -/
structure Model where
  id : Int32
  networkId : String
  passwordHash : String
  realName : String
  atcRating : AtcRating
  pilotRating : PilotRating
  createdAt : DateTimeUtc
  updatedAt : DateTimeUtc
  deriving DecidableEq

/-- The columns that a user is stored in. -/
def Model.row (user : Model) : Row :=
  { user with
    atcRating := user.atcRating.stringValue
    pilotRating := user.pilotRating.stringValue }

/-- The user of a row. -/
def Row.read (database : Database) (row : Row) : Except DbErr Model :=
  match AtcRating.tryFromValue row.atcRating with
  | none => .error (database.unexpectedValue row.atcRating)
  | some atcRating =>
      match PilotRating.tryFromValue row.pilotRating with
      | none => .error (database.unexpectedValue row.pilotRating)
      | some pilotRating => .ok { row with atcRating, pilotRating }

/-- A row reads as the user that it stores. -/
theorem Row.read_iff {database : Database} {row : Row} {user : Model} :
    row.read database = .ok user ↔ row = user.row := by
  constructor
  · intro read
    unfold Row.read at read
    split at read
    · cases read
    · rename_i atcRating atc
      split at read
      · cases read
      · rename_i pilotRating pilot
        cases read
        obtain ⟨id, networkId, passwordHash, realName, atcText, pilotText, createdAt, updatedAt⟩ := row
        cases AtcRating.tryFromValue_iff.mp atc
        cases PilotRating.tryFromValue_iff.mp pilot
        rfl
  · rintro rfl
    simp [Row.read, Model.row]

/-- The primary key and the network ID are unique. -/
def Conflict (collation : Collation) (a b : Row) : Prop :=
  a.id = b.id ∨ collation.same a.networkId b.networkId = true

instance (collation : Collation) : DecidableRel (Conflict collation) := fun a b =>
  inferInstanceAs (Decidable (a.id = b.id ∨ collation.same a.networkId b.networkId = true))

instance (collation : Collation) : Std.Symm (Conflict collation) where
  symm _ _ conflict := conflict.imp Eq.symm collation.symm

/-- The query for one network ID. -/
def named (collation : Collation) (networkId : String) (row : Row) : Bool :=
  collation.same row.networkId networkId

theorem named_unique (collation : Collation) (networkId : String) :
    Table.Unique (Conflict collation) (named collation networkId) :=
  fun _ _ first second => .inr (collation.trans first (collation.symm second))

end User

/-! ## The whitelist -/

namespace ClientWhitelist

/-- Persistent allow-list record for one client-software identifier. -/
structure Model where
  id : Int32
  clientId : String
  clientName : String
  enabled : Bool
  createdAt : DateTimeUtc
  deriving DecidableEq

def Conflict (collation : Collation) (a b : Model) : Prop :=
  a.id = b.id ∨ collation.same a.clientId b.clientId = true

instance (collation : Collation) : DecidableRel (Conflict collation) := fun a b =>
  inferInstanceAs (Decidable (a.id = b.id ∨ collation.same a.clientId b.clientId = true))

instance (collation : Collation) : Std.Symm (Conflict collation) where
  symm _ _ conflict := conflict.imp Eq.symm collation.symm

/-- The query for an enabled client. -/
def permits (collation : Collation) (clientId : String) (row : Model) : Bool :=
  collation.same row.clientId clientId && row.enabled

/-- The clients that the migration enters. -/
def defaults (now : DateTimeUtc) : List Model :=
  [⟨1, "69d7", "EuroScope 3.2", true, now⟩, ⟨2, "88e4", "vPilot", true, now⟩,
    ⟨3, "48e2", "Swift", true, now⟩, ⟨4, "de1e", "VRC", true, now⟩]

end ClientWhitelist

/-! ## The store -/

structure Store (database : Database) where
  users : Table User.Row (User.Conflict database.collation)
  clientWhitelist : Table ClientWhitelist.Model (ClientWhitelist.Conflict database.collation)

namespace Store

variable {database : Database}

/-- What the migrations make of an empty database. -/
def migrated (database : Database) (now : DateTimeUtc) : Option (Store database) := do
  let clientWhitelist ← (ClientWhitelist.defaults now).foldlM Table.insert .empty
  some { users := .empty, clientWhitelist }

end Store

end AsterFsd.Persistence
