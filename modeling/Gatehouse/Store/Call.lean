/-
  What the service asks of a store.

  A store keeps users, refresh tokens and password-reset tokens, the tokens by their digests only.
  The service speaks to it through nine calls.  Each call is atomic, and `Call.Reply` is the type of
  what it gives when it succeeds.
-/
import Gatehouse.Clock
import Gatehouse.Error
import Gatehouse.Store.Record
import Gatehouse.User

namespace Gatehouse

/-- The outcome of presenting a refresh token for a new one. -/
structure Rotation where
  /-- The owner of the token. -/
  user : Uuid
  /-- The role of the owner. -/
  role : String
  /-- Whether the token had been used before, so that the owner's sessions were closed. -/
  reused : Bool
deriving DecidableEq, Repr

/-- A call to the store. -/
inductive Call where
  /-- Keeps a new refresh token. -/
  | insertRefresh (digest : String) (user : Uuid) (expiresAt : Instant) (client : ClientInfo)
  /-- Replaces a refresh token by a new one, or closes all sessions if it was used before. -/
  | rotate (old new : String) (expiresAt : Instant) (client : ClientInfo)
  /-- Revokes one refresh token. -/
  | revoke (digest : String) (replacedBy : Option String)
  /-- Revokes all refresh tokens of a user. -/
  | revokeAll (user : Uuid)
  /-- Keeps a new password-reset token. -/
  | insertReset (digest : String) (user : Uuid) (expiresAt : Instant)
  /-- Uses up a password-reset token and names its owner. -/
  | consumeReset (digest : String)
  /-- Looks for the account with an e-mail address. -/
  | findByEmail (email : String)
  /-- Looks for a user. -/
  | findById (user : Uuid)
  /-- Changes the password hash of a user. -/
  | setPassword (user : Uuid) (hash : String)
deriving DecidableEq, Repr

/-- What a call gives when it succeeds. -/
abbrev Call.Reply : Call → Type
  | .insertRefresh .. | .revoke .. | .revokeAll _ | .insertReset .. | .setPassword .. => Unit
  | .rotate .. => Rotation
  | .consumeReset _ => Uuid
  | .findByEmail _ => Option Account
  | .findById _ => Option User

/-- The name of a call. -/
def Call.name : Call → String
  | .insertRefresh .. => "insert_refresh_token"
  | .rotate .. => "rotate_refresh_token"
  | .revoke .. => "revoke_refresh_token_by_hash"
  | .revokeAll _ => "revoke_all_for_user"
  | .insertReset .. => "insert_password_reset"
  | .consumeReset _ => "verify_and_mark_password_reset"
  | .findByEmail _ => "find_user_by_email"
  | .findById _ => "get_user_by_id"
  | .setPassword .. => "update_password"

end Gatehouse
