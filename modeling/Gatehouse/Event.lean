/-
  What the service writes to its log.

  Every event has a level, a message and named values.  The messages never hold a secret; the link
  of a password reset is written at the lowest level only.
-/
import Gatehouse.Error
import Gatehouse.Uuid

namespace Gatehouse

/-- How urgent an event is. -/
inductive LogLevel where
  | error
  | warn
  | info
  | debug
  | trace
deriving DecidableEq, Repr

/-- The name of a level. -/
def LogLevel.name : LogLevel → String
  | error => "ERROR"
  | warn => "WARN"
  | info => "INFO"
  | debug => "DEBUG"
  | trace => "TRACE"

/-- Something worth a line in the log. -/
inductive Event where
  /-- An access token was not accepted. -/
  | tokenRejected
  /-- A refresh token was issued. -/
  | refreshIssued (user : Uuid)
  /-- A used refresh token was presented, from this address. -/
  | reuseRefused (user : Uuid) (ip : Option String)
  /-- The store closed the sessions of a user whose used token was presented. -/
  | reuseContained (user : Uuid) (revoked : Nat)
  /-- The database closed the sessions of a user. -/
  | sessionsClosed (user : Uuid) (revoked : Nat)
  /-- All refresh tokens of a user were revoked. -/
  | allRevoked (user : Uuid)
  /-- A user logged in. -/
  | loggedIn (user : Uuid)
  /-- The account of somebody who forgot the password could not be looked up. -/
  | resetLookupFailed (cause : AuthError)
  /-- A password-reset token was issued. -/
  | resetRequested (user : Uuid)
  /-- The link that carries a password-reset token. -/
  | resetLink (user : Uuid) (link : String)
  /-- No password-reset token could be issued. -/
  | resetNotIssued (user : Uuid) (cause : AuthError)
  /-- The password is new, but old sessions may still be open. -/
  | sessionsNotClosed (user : Uuid) (cause : AuthError)
  /-- The password is new and old sessions are closed. -/
  | resetCompleted (user : Uuid)
  /-- A request failed inside. -/
  | requestFailed (detail : String)
  /-- A user lacks the role that a route asks for. -/
  | roleMissing (subject role required : String)
  /-- A client sent too many requests to a route. -/
  | throttled (client route : String) (limit : Nat)
  /-- The limiter sweeps in the background from now on. -/
  | sweeperStarted (everySeconds : Nat)
  /-- The limiter dropped what is out of date. -/
  | swept (removed remaining : Nat)
  /-- The background sweep has ended. -/
  | sweeperExited
  /-- The limiter was stopped. -/
  | limiterStopped
deriving DecidableEq, Repr

namespace Event

/-- The level of an event. -/
def level : Event → LogLevel
  | tokenRejected | refreshIssued _ | roleMissing .. | swept .. | sweeperExited => .debug
  | reuseRefused .. | reuseContained .. | sessionsNotClosed .. | throttled .. => .warn
  | sessionsClosed .. | allRevoked _ | loggedIn _ | resetRequested _ | resetCompleted _
  | sweeperStarted _ | limiterStopped => .info
  | resetLink .. => .trace
  | resetLookupFailed _ | resetNotIssued .. | requestFailed _ => .error

/-- The message of an event. -/
def message : Event → String
  | tokenRejected => "access token rejected"
  | refreshIssued _ => "refresh token issued"
  | reuseRefused .. => "refresh token reuse; all sessions revoked"
  | reuseContained .. => "refresh token reuse detected, revoked all sessions"
  | sessionsClosed .. => "revoked all refresh tokens"
  | allRevoked _ => "all refresh tokens revoked"
  | loggedIn _ => "login succeeded"
  | resetLookupFailed _ => "password reset lookup failed"
  | resetRequested _ => "password reset requested"
  | resetLink .. => "password reset link"
  | resetNotIssued .. => "failed to create password reset token"
  | sessionsNotClosed .. => "password changed but sessions could not be revoked"
  | resetCompleted _ => "password reset completed"
  | requestFailed _ => "request failed"
  | roleMissing .. => "role check failed"
  | throttled .. => "rate limit exceeded"
  | sweeperStarted _ => "rate limiter started"
  | swept .. => "rate limiter sweep"
  | sweeperExited => "rate limiter sweep exited"
  | limiterStopped => "rate limiter stopped"

/-- The values of an event, each under its name. -/
def fields : Event → List (String × String)
  | tokenRejected | sweeperExited | limiterStopped => []
  | refreshIssued user | allRevoked user | loggedIn user | resetRequested user
  | resetCompleted user => [("user_id", user.toText)]
  | reuseRefused user ip => [("user_id", user.toText), ("ip", ip.getD "-")]
  | reuseContained user revoked =>
    [("user_id", user.toText), ("revoked_count", toString revoked)]
  | sessionsClosed user revoked => [("user_id", user.toText), ("revoked", toString revoked)]
  | resetLookupFailed cause => [("error", cause.message)]
  | resetLink user link => [("user_id", user.toText), ("link", link)]
  | resetNotIssued user cause | sessionsNotClosed user cause =>
    [("user_id", user.toText), ("error", cause.message)]
  | requestFailed detail => [("error", detail)]
  | roleMissing subject role required =>
    [("user_id", subject), ("role", role), ("required", required)]
  | throttled client route limit =>
    [("client", client), ("route", route), ("limit", toString limit)]
  | sweeperStarted everySeconds => [("every_secs", toString everySeconds)]
  | swept removed remaining =>
    [("removed", toString removed), ("remaining", toString remaining)]

end Event

end Gatehouse
