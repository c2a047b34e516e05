/-
  The routes of the server.

  A path belongs to at most one route, and a route has one method that fits.  Before a request is
  handled, credential routes count it against the limit of its client, and protected routes ask for
  an access token.
-/

namespace Gatehouse.Http

/-- A place that requests may go to. -/
inductive Route where
  | health
  | login
  | refresh
  | logout
  | logoutAll
  | forgotPassword
  | resetPassword
  | me
  /-- Ending the sessions of the user in this segment of the path. -/
  | revokeSessions (segment : String)
deriving DecidableEq, Repr

/-- What a request must pass before it is handled. -/
inductive Guard where
  /-- Nothing. -/
  | none
  /-- The limit of its client. -/
  | throttle
  /-- A good access token. -/
  | token
  /-- A good access token with the role of an administrator. -/
  | admin
deriving DecidableEq, Repr

namespace Route

/-- The paths of the routes that have a fixed one. -/
def fixed : List (String × Route) :=
  [("/health", health), ("/api/v1/auth/login", login), ("/api/v1/auth/refresh", refresh),
   ("/api/v1/auth/logout", logout), ("/api/v1/auth/logout-all", logoutAll),
   ("/api/v1/auth/forgot-password", forgotPassword),
   ("/api/v1/auth/reset-password", resetPassword), ("/api/v1/auth/me", me)]

/-- The segment between the two halves of the path of the administration. -/
def adminSegment? (path : List Char) : Option (List Char) :=
  let front := "/api/v1/admin/users/".toList
  let back := "/revoke-sessions".toList
  if front.isPrefixOf path then
    let rest := path.drop front.length
    let segment := rest.takeWhile (· ≠ '/')
    if rest.drop segment.length = back then some segment else none
  else none

/-- The route of a path. -/
def ofPath? (path : String) : Option Route :=
  (fixed.lookup path).or
    ((adminSegment? path.toList).map fun segment => revokeSessions (String.ofList segment))

/-- Tells whether the route is read with `GET`; the others take `POST`. -/
def isRead : Route → Bool
  | health | me => true
  | _ => false

/-- The methods that fit, as the client is told. -/
def allowed (r : Route) : String := if r.isRead then "GET,HEAD" else "POST"

/-- Tells whether a method fits. -/
def accepts (r : Route) (method : String) : Bool :=
  if r.isRead then method = "GET" || method = "HEAD" else method = "POST"

/-- What a request to the route must pass. -/
def guard : Route → Guard
  | health | logout => .none
  | login | refresh | forgotPassword | resetPassword => .throttle
  | logoutAll | me => .token
  | revokeSessions _ => .admin

end Route

end Gatehouse.Http
