/-
  The statements that the database is asked to carry out.

  Each statement has a text with numbered places, the arguments that go there, and a type of result:
  the rows that it gives, or the number of rows that it changed.
-/
import Gatehouse.Clock
import Gatehouse.Store.Record
import Gatehouse.User

namespace Gatehouse.Sql

/-- A statement with its arguments. -/
inductive Statement where
  /-- Looks for a refresh record. -/
  | findRefresh (digest : String)
  /-- Keeps a new refresh record, under an identifier made for it. -/
  | insertRefresh (user : Uuid) (digest : String) (expiresAt : Instant) (client : ClientInfo)
  /-- Looks for a refresh record and keeps others from changing it. -/
  | lockRefresh (digest : String)
  /-- Revokes all refresh records of a user that are not revoked. -/
  | revokeUser (user : Uuid)
  /-- Looks for the role of a user. -/
  | roleOf (user : Uuid)
  /-- Marks a refresh record as replaced. -/
  | markReplaced (old new : String)
  /-- Revokes one refresh record, and notes what replaced it if that is known. -/
  | revokeOne (digest : String) (replacedBy : Option String)
  /-- Keeps a new reset record, under an identifier made for it. -/
  | insertReset (user : Uuid) (digest : String) (expiresAt : Instant)
  /-- Looks for the owner of a reset record that is still good, and keeps others off it. -/
  | lockReset (digest : String)
  /-- Marks a reset record as used. -/
  | markUsed (digest : String)
  /-- Looks for the account with an e-mail address. -/
  | findByEmail (email : String)
  /-- Looks for the account of a user. -/
  | findById (user : Uuid)
  /-- Registers a user and gives the identifier that the database made. -/
  | createUser (email : String) (name : Option String) (hash role : String)
  /-- Changes the password hash of a user. -/
  | setPassword (user : Uuid) (hash : String)
deriving DecidableEq, Repr

/-- What a statement that locks a refresh record shows of it. -/
structure LockedRefresh where
  /-- The owner. -/
  user : Uuid
  /-- Whether it is revoked. -/
  revoked : Bool
  /-- Whether it is no longer good. -/
  expired : Bool
deriving DecidableEq, Repr

/-- An argument of a statement. -/
inductive Argument where
  /-- An identifier that is made for this statement. -/
  | freshId
  /-- A given identifier. -/
  | id (u : Uuid)
  /-- A text. -/
  | text (s : String)
  /-- A point in time. -/
  | time (t : Instant)
  /-- Nothing. -/
  | absent
deriving DecidableEq, Repr

/-- A text that may be absent. -/
def Argument.ofOption : Option String → Argument
  | some s => text s
  | none => absent

namespace Statement

/-- What a statement gives: its rows, or the number of rows that it changed. -/
abbrev Result : Statement → Type
  | findRefresh _ => List (RefreshRecord Uuid)
  | lockRefresh _ => List LockedRefresh
  | roleOf _ => List String
  | lockReset _ | createUser .. => List Uuid
  | findByEmail _ | findById _ => List Account
  | insertRefresh .. | revokeUser _ | markReplaced .. | revokeOne .. | insertReset ..
  | markUsed _ | setPassword .. => Nat

/-- The text of a statement. -/
def text : Statement → String
  | findRefresh _ =>
    "SELECT id, user_id, token_hash, created_at, last_used_at, expires_at, " ++
    "revoked, replaced_by, ip, user_agent FROM refresh_tokens WHERE token_hash = $1"
  | insertRefresh .. =>
    "INSERT INTO refresh_tokens (id, user_id, token_hash, expires_at, ip, user_agent) " ++
    "VALUES ($1, $2, $3, $4, $5, $6)"
  | lockRefresh _ =>
    "SELECT user_id, revoked, expires_at <= now() " ++
    "FROM refresh_tokens WHERE token_hash = $1 FOR UPDATE"
  | revokeUser _ =>
    "UPDATE refresh_tokens SET revoked = TRUE WHERE user_id = $1 AND revoked = FALSE"
  | roleOf _ => "SELECT role FROM users WHERE id = $1"
  | markReplaced .. =>
    "UPDATE refresh_tokens SET revoked = TRUE, replaced_by = $2, last_used_at = now() " ++
    "WHERE token_hash = $1"
  | revokeOne .. =>
    "UPDATE refresh_tokens SET revoked = TRUE, replaced_by = COALESCE($2, replaced_by) " ++
    "WHERE token_hash = $1"
  | insertReset .. =>
    "INSERT INTO password_resets (id, user_id, token_hash, expires_at) VALUES ($1, $2, $3, $4)"
  | lockReset _ =>
    "SELECT user_id FROM password_resets " ++
    "WHERE token_hash = $1 AND used = FALSE AND expires_at > now() FOR UPDATE"
  | markUsed _ => "UPDATE password_resets SET used = TRUE WHERE token_hash = $1"
  | findByEmail _ =>
    "SELECT id, email, name, role, password_hash FROM users WHERE lower(email) = lower($1)"
  | findById _ => "SELECT id, email, name, role, password_hash FROM users WHERE id = $1"
  | createUser .. =>
    "INSERT INTO users (email, name, password_hash, role) VALUES ($1, $2, $3, $4) RETURNING id"
  | setPassword .. => "UPDATE users SET password_hash = $2, updated_at = now() WHERE id = $1"

/-- The arguments of a statement in the order of their places. -/
def args : Statement → List Argument
  | findRefresh digest | lockRefresh digest | lockReset digest | markUsed digest => [.text digest]
  | insertRefresh user digest expiresAt client =>
    [.freshId, .id user, .text digest, .time expiresAt, .ofOption client.ip,
      .ofOption client.userAgent]
  | revokeUser user | roleOf user | findById user => [.id user]
  | markReplaced old new => [.text old, .text new]
  | revokeOne digest replacedBy => [.text digest, .ofOption replacedBy]
  | insertReset user digest expiresAt => [.freshId, .id user, .text digest, .time expiresAt]
  | findByEmail email => [.text email]
  | createUser email name hash role =>
    [.text email, .ofOption name, .text hash, .text role]
  | setPassword user hash => [.id user, .text hash]

end Statement

end Gatehouse.Sql
