/-
  What clients may do: log in, refresh and end sessions, and reset a forgotten password.

  Each of these is a program that gives a result or refuses.  A wrong address and a wrong password
  are refused alike, and asking for a reset says nothing about whether there is such an account.
-/
import Gatehouse.Http.Error
import Gatehouse.Password
import Gatehouse.Service

namespace Gatehouse

/-- A program that may refuse a request. -/
abbrev Handler (α : Type) : Type := ExceptT ApiError Flow α

/-- A program of the service on behalf of a request. -/
def Program.forRequest {α : Type} (p : Program α) : Handler α := ExceptT.adapt ApiError.ofAuth p

/-- The service and what requests to it need to know. -/
structure Portal where
  /-- The service. -/
  service : Service
  /-- Requests a minute that one client may send to one credential route. -/
  rateLimit : Nat
  /-- The page that password-reset links lead to. -/
  resetUrl : String
  /-- Whether the client address may be taken from the headers of a proxy. -/
  trustProxy : Bool
deriving DecidableEq, Repr

namespace Portal

/-- Checks an e-mail address and a password, and opens a session. -/
def login (p : Portal) (email password : String) (client : ClientInfo) : Handler TokenPair := do
  if Text.blank email ∨ password.isEmpty then
    throw (.validation "Email and password are required")
  match ← (Program.ask (.findByEmail email)).forRequest with
  | none => throw (.ofAuth .credential)
  | some account =>
    let verdict := Password.verify password account.passwordHash
    if ← Program.forRequest (MonadExcept.ofExcept verdict) then
      let pair ← (p.service.issueSession account.user.id account.user.role client).forRequest
      (Program.log (.loggedIn account.user.id)).forRequest
      return pair
    else throw (.ofAuth .credential)

/-- Replaces the tokens of a session. -/
def refresh (p : Portal) (token : String) (client : ClientInfo) : Handler TokenPair :=
  (p.service.refreshTokens token client).forRequest

/-- Ends the session of a refresh token. -/
def logout (token : String) : Handler Unit := (Service.revokeRefreshToken token).forRequest

/-- Ends all sessions of the user who makes the request. -/
def logoutAll (claims : Claims) : Handler Unit :=
  (Service.revokeAllRefreshTokens claims.subject).forRequest

/-- Ends all sessions of a registered user. -/
def revokeSessions (userId : String) : Handler Unit := do
  match Uuid.ofUserText? userId with
  | none => throw (.validation ("Invalid user ID: " ++ userId))
  | some id =>
    if (← (Program.ask (.findById id)).forRequest).isNone then
      throw (.notFound ("User " ++ id.toText ++ " not found"))
    (Service.revokeAllRefreshTokens userId).forRequest

/-- Issues a password-reset token if there is an account with the address.  It never fails: what
goes wrong is only logged. -/
def forgotPassword (p : Portal) (email : String) : Flow Unit := do
  match ← ExceptT.run (Program.ask (.findByEmail email)) with
  | .error e => .emit (.resetLookupFailed e) (.done ())
  | .ok none => return ()
  | .ok (some account) =>
    let user := account.user.id
    match ← ExceptT.run (Service.createPasswordReset user) with
    | .error e => .emit (.resetNotIssued user e) (.done ())
    | .ok token =>
      .emit (.resetRequested user)
        (.emit (.resetLink user (p.resetUrl ++ "?token=" ++ token)) (.done ()))

/-- Sets a new password for the owner of a reset token, and ends all sessions of the owner.  The
token is used up first, so that it cannot serve twice. -/
def resetPassword (token password confirmation : String) : Handler Unit :=
  Program.forRequest do
    MonadExcept.ofExcept (Password.checkNew password confirmation)
    let user ← Service.verifyPasswordReset token
    let hash ← Password.hash password
    Program.ask (.setPassword user hash)
    match ← (Service.revokeAllRefreshTokens user.toText).outcome with
    | .ok _ => Program.log (.resetCompleted user)
    | .error e =>
      Program.log (.sessionsNotClosed user e)
      throw e

/-- The user who makes the request. -/
def currentUser (claims : Claims) : Handler User := do
  match Uuid.ofUserText? claims.subject with
  | none => throw (.ofAuth .invalidToken)
  | some id =>
    match ← (Program.ask (.findById id)).forRequest with
    | none => throw (.notFound "User not found")
    | some user => return user

end Portal

end Gatehouse
