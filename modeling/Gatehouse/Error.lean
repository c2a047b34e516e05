/-
  Why an operation of the identity service fails.

  `AuthError` is what the service and its stores report.  Five of its cases say that the caller
  showed no valid proof of identity; the web layer answers them alike.  `DatabaseError` is what a
  database can do to a statement.  The wording of every case is in `message`, so that the rest of
  the library speaks of causes only.
-/

namespace Gatehouse

/-- Why a database gave no result. -/
inductive DatabaseError where
  /-- No connection became free in time. -/
  | poolTimedOut
  /-- The pool of connections was closed. -/
  | poolClosed
  /-- A statement that must give a row gave none. -/
  | rowNotFound
  /-- The database refused a statement. -/
  | refused (reason : String)
deriving DecidableEq, Repr

/-- The wording of a database error. -/
def DatabaseError.message : DatabaseError → String
  | .poolTimedOut => "pool timed out while waiting for an open connection"
  | .poolClosed => "attempted to acquire a connection on a closed pool"
  | .rowNotFound => "no rows returned by a query that expected to return at least one row"
  | .refused reason => "error returned from database: " ++ reason

/-- Why an operation of the identity service fails. -/
inductive AuthError where
  /-- A setting is missing or wrong. -/
  | configuration (detail : String)
  /-- The access token is not one of ours, or no longer valid. -/
  | invalidToken
  /-- The refresh token is unknown or expired. -/
  | invalidRefreshToken
  /-- The refresh token was used before, so the sessions of its owner are closed. -/
  | refreshTokenReuse
  /-- The password-reset token is unknown, used or expired. -/
  | invalidOrExpiredToken
  /-- E-mail address and password do not belong together. -/
  | credential
  /-- The request itself is wrong. -/
  | validation (detail : String)
  /-- The store failed. -/
  | persistence (cause : DatabaseError)
  /-- No random bytes could be had. -/
  | entropy (detail : String)
  /-- Something else failed inside. -/
  | internal (detail : String)
deriving DecidableEq, Repr

namespace AuthError

/-- The wording of an error. -/
def message : AuthError → String
  | configuration detail => "Configuration error: " ++ detail
  | invalidToken => "Invalid token"
  | invalidRefreshToken => "Invalid refresh token"
  | refreshTokenReuse => "Refresh token reuse detected"
  | invalidOrExpiredToken => "Invalid or expired token"
  | credential => "Invalid credentials"
  | validation detail => "Validation error: " ++ detail
  | persistence cause => "Persistence error: " ++ cause.message
  | entropy detail => "Entropy source failure: " ++ detail
  | internal detail => "Internal error: " ++ detail

/-- Tells whether the error means that the caller proved no identity. -/
def isAuthenticationFailure : AuthError → Bool
  | invalidToken | invalidRefreshToken | refreshTokenReuse | invalidOrExpiredToken
  | credential => true
  | _ => false

end AuthError

end Gatehouse
