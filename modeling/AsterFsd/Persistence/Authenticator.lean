import AsterFsd.Persistence.Store

/-! # The persistent authenticator

`authenticate` queries the user first and then waits for the password verification, so it is given
here in the two parts between which other work runs: `findUser`, and `verified` for what follows the
verification. A database call can fail for reasons of its own, which is its `fault`.
-/

namespace AsterFsd.Persistence

namespace SeaOrmAuthenticator

variable {database : Database} (argon2 : Argon2) (store : Store database)

/-- Inserts a new network user with a pre-hashed password. The database draws the ID. -/
def createUser (networkId passwordHash realName : String) (atcRating : AtcRating)
    (pilotRating : PilotRating) (id : Int32) (now : DateTimeUtc) (fault : Option DbErr) :
    Except DbErr (Store database × User.Model) :=
  let user : User.Model :=
    { id, networkId, passwordHash, realName, atcRating, pilotRating, createdAt := now,
      updatedAt := now }
  match fault with
  | some error => .error error
  | none =>
      match store.users.insert user.row with
      | none => .error database.conflict
      | some users => .ok ({ store with users }, user)

def authorizeClient (clientId : String) (fault : Option DbErr) : Except AuthError Unit :=
  match fault with
  | some error => .error (.backend error)
  | none =>
      match store.clientWhitelist.find (ClientWhitelist.permits database.collation clientId) with
      | none => .error .clientNotAuthorized
      | some _ => .ok ()

/-- The query of `authenticate`. -/
def findUser (networkId : String) (fault : Option DbErr) : Except AuthError User.Model :=
  match fault with
  | some error => .error (.backend error)
  | none =>
      match store.users.find (User.named database.collation networkId) with
      | none => .error .invalidCredentials
      | some row =>
          match row.read database with
          | .error error => .error (.backend error)
          | .ok user => .ok user

/-- The identity of a user whose password was confirmed. -/
def identity (user : User.Model) : AuthenticatedIdentity where
  networkId := user.networkId
  realName := user.realName
  atcRating := user.atcRating
  pilotRating := user.pilotRating
  suspended := false

/-- What `authenticate` makes of the verification. -/
def verified (user : User.Model) (password : String) (joined : Except String Unit) :
    Except AuthError AuthenticatedIdentity :=
  match argon2.verifyPassword joined password user.passwordHash with
  | .error error => .error error
  | .ok valid => if !valid then .error .invalidCredentials else .ok (identity user)

def authenticate (networkId password : String) (fault : Option DbErr)
    (joined : Except String Unit) : Except AuthError AuthenticatedIdentity :=
  match findUser store networkId fault with
  | .error error => .error error
  | .ok user => verified argon2 user password joined

variable {argon2 store}

/-! ## What the answers mean -/

theorem authorizeClient_ok {clientId : String} {fault : Option DbErr} :
    authorizeClient store clientId fault = .ok () ↔
      fault = none ∧ ∃ row ∈ store.clientWhitelist.rows,
        database.collation.same row.clientId clientId = true ∧ row.enabled = true := by
  have selected : (∃ row ∈ store.clientWhitelist.rows,
      database.collation.same row.clientId clientId = true ∧ row.enabled = true) ↔
      store.clientWhitelist.find (ClientWhitelist.permits database.collation clientId) ≠ none := by
    rw [Ne, Table.find_none]
    simp [ClientWhitelist.permits]
  rw [selected]
  unfold authorizeClient
  split
  · simp
  · split <;> simp_all

theorem findUser_ok {networkId : String} {fault : Option DbErr} {user : User.Model} :
    findUser store networkId fault = .ok user ↔
      fault = none ∧ user.row ∈ store.users.rows ∧
        database.collation.same user.networkId networkId = true := by
  have stored : store.users.find (User.named database.collation networkId) = some user.row ↔
      user.row ∈ store.users.rows ∧ database.collation.same user.networkId networkId = true :=
    Table.find_iff (User.named_unique database.collation networkId)
  rw [← stored]
  unfold findUser
  split
  · simp
  · split
    · simp_all
    · rename_i row found
      have read : row.read database = .ok user ↔ row = user.row := User.Row.read_iff
      split <;> simp_all

theorem verified_ok {user : User.Model} {password : String} {joined : Except String Unit}
    {authenticated : AuthenticatedIdentity} :
    verified argon2 user password joined = .ok authenticated ↔
      joined = .ok () ∧ argon2.Verifies password user.passwordHash ∧
        authenticated = identity user := by
  rw [← and_assoc, ← Argon2.verifyPassword_true]
  unfold verified
  cases argon2.verifyPassword joined password user.passwordHash with
  | error error => simp
  | ok valid => cases valid <;> simp [eq_comm]

/-- The store has no suspended identities: no answer of it says that one is. -/
theorem findUser_ne_suspended {networkId : String} {fault : Option DbErr} :
    findUser store networkId fault ≠ .error .suspended := by
  unfold findUser
  split
  · simp
  · split
    · simp
    · split <;> simp

theorem verified_ne_suspended {user : User.Model} {password : String}
    {joined : Except String Unit} : verified argon2 user password joined ≠ .error .suspended := by
  unfold verified
  split
  · rename_i error failed
    rintro same
    cases same
    obtain ⟨message, other⟩ | other := Argon2.verifyPassword_error failed <;> cases other
  · split <;> simp

end SeaOrmAuthenticator

end AsterFsd.Persistence
