import AsterFsd.Model.Message

/-! # Passwords

Hashing and verification on top of the Argon2 library, which is a parameter: how it encodes a salt,
hashes, prints and reads a hash, and compares a password with it. Verification runs on the blocking
pool, so it also ends when its task does not complete.
-/

namespace AsterFsd

/-- Why the library does not confirm a password. -/
inductive PasswordHashError where
  | password
  | other
  deriving DecidableEq, Repr

/-- The password hashing library. -/
structure Argon2 where
  PasswordHash : Type
  encodeSalt : List UInt8 → Option String
  hash : String → String → Option PasswordHash
  print : PasswordHash → String
  parse : String → Option PasswordHash
  verify : String → PasswordHash → Except PasswordHashError Unit

namespace Argon2

variable (argon2 : Argon2)

/-- What the library documents: a printed hash is read back, and the password it was made of passes. -/
structure Lawful : Prop where
  parse_print : ∀ hashed, argon2.parse (argon2.print hashed) = some hashed
  verify_hash : ∀ {password salt hashed}, argon2.hash password salt = some hashed →
    argon2.verify password hashed = .ok ()

/-- Hashes a password with the salt drawn for it. -/
def hashPassword (random : List UInt8) (password : String) : Except AuthError String :=
  match argon2.encodeSalt random with
  | none => .error .invalidPasswordHash
  | some salt =>
      match argon2.hash password salt with
      | none => .error .invalidPasswordHash
      | some hash => .ok (argon2.print hash)

/-- Verifies a password against an encoded hash. `joined` is how the blocking task ended. -/
def verifyPassword (joined : Except String Unit) (password hash : String) : Except AuthError Bool :=
  match joined with
  | .error error => .error (.backend error)
  | .ok () =>
      match argon2.parse hash with
      | none => .error .invalidPasswordHash
      | some parsed =>
          match argon2.verify password parsed with
          | .ok () => .ok true
          | .error .password => .ok false
          | .error .other => .error .invalidPasswordHash

/-- The password matches the encoded hash. -/
def Verifies (password hash : String) : Prop :=
  ∃ parsed, argon2.parse hash = some parsed ∧ argon2.verify password parsed = .ok ()

variable {argon2}

theorem verifyPassword_true {joined : Except String Unit} {password hash : String} :
    argon2.verifyPassword joined password hash = .ok true ↔
      joined = .ok () ∧ argon2.Verifies password hash := by
  cases joined with
  | error error => simp [verifyPassword]
  | ok done =>
      cases read : argon2.parse hash with
      | none => simp [verifyPassword, Verifies, read]
      | some parsed =>
          match checked : argon2.verify password parsed with
          | .ok () => simp [verifyPassword, Verifies, read, checked]
          | .error .password => simp [verifyPassword, Verifies, read, checked]
          | .error .other => simp [verifyPassword, Verifies, read, checked]

/-- What a verification says when it does not confirm the password. -/
theorem verifyPassword_error {joined : Except String Unit} {password hash : String}
    {error : AuthError} (failed : argon2.verifyPassword joined password hash = .error error) :
    (∃ message, error = .backend message) ∨ error = .invalidPasswordHash := by
  unfold verifyPassword at failed
  split at failed
  · cases failed
    exact .inl ⟨_, rfl⟩
  · split at failed
    · cases failed
      exact .inr rfl
    · split at failed
      · cases failed
      · cases failed
      · cases failed
        exact .inr rfl

/-- A hash that was made of a password verifies it. -/
theorem Lawful.verifies (lawful : argon2.Lawful) {random : List UInt8} {password hash : String}
    (hashed : argon2.hashPassword random password = .ok hash) : argon2.Verifies password hash := by
  unfold hashPassword at hashed
  split at hashed
  · cases hashed
  · split at hashed
    · cases hashed
    · rename_i made
      cases hashed
      exact ⟨_, lawful.parse_print _, lawful.verify_hash made⟩

end Argon2

end AsterFsd
