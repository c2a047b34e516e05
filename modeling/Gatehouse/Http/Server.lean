/-
  Answering requests.

  A request finds its route by its path, passes the guard of the route, and is handled if its method
  fits.  Every response says that pages of any origin may read it, and preflight requests are
  answered before anything else.

  A request body is JSON of a limited length, read from left to right: a wrong type or a repeated
  field is told from text that is no JSON, and the first problem counts.
-/
import Gatehouse.Http.MediaType
import Gatehouse.Http.Message
import Gatehouse.Http.Route
import Gatehouse.Http.Target
import Gatehouse.Json.Shape
import Gatehouse.Portal
import Gatehouse.RateLimit

namespace Gatehouse.Http

open Json

/-! ## Request bodies -/

/-- An e-mail address and a password. -/
structure LoginBody where
  email : String := ""
  password : String := ""

/-- The form of a login. -/
def LoginBody.shape : Shape LoginBody where
  blank := {}
  fields := [
    Shape.field "email" Reader.text fun s b => { b with email := s },
    Shape.field "password" Reader.text fun s b => { b with password := s }]

/-- The form of a body with one text. -/
def oneText (name : String) : Shape String where
  blank := ""
  fields := [Shape.field name Reader.text fun s _ => s]

/-- A reset token and a new password, twice. -/
structure ResetBody where
  token : String := ""
  password : String := ""
  confirmation : String := ""

/-- The form of a password reset. -/
def ResetBody.shape : Shape ResetBody where
  blank := {}
  fields := [
    Shape.field "token" Reader.text fun s b => { b with token := s },
    Shape.field "password" Reader.text fun s b => { b with password := s },
    Shape.field "password_confirm" Reader.text fun s b => { b with confirmation := s }]

/-- The greatest length of a body in bytes. -/
def maxBodyLength : Nat := 2097152

/-- The body of a request as a record, or the response that refuses it.  What is not said to be JSON
is not received, and what is too long is not read. -/
def readBody {α : Type} (shape : Shape α) (r : Request) : Except Response α :=
  if !(r.headers.text? "content-type").any MediaType.isJson then
    .error (.text 415 "Expected request with `Content-Type: application/json`")
  else if maxBodyLength < r.body.length then
    .error (.text 413 "Failed to buffer the request body: length limit exceeded")
  else
    match shape.decode r.body with
    | .ok a => .ok a
    | .error .unfit =>
      .error (.text 422 "Failed to deserialize the JSON body into the target type")
    | .error _ => .error (.text 400 "Failed to parse the request body as JSON")

/-! ## Responses -/

/-- The response to a request that is refused; what failed inside is logged. -/
def refuse (e : ApiError) : Flow Response :=
  let response := Response.json e.status e.body
  match e with
  | .internal detail => .emit (.requestFailed detail) (.done response)
  | _ => .done response

/-- The response to a request that is handled by `h`. -/
def respond {α : Type} (h : Handler α) (ok : α → Response) : Flow Response := do
  match ← ExceptT.run h with
  | .ok a => return ok a
  | .error e => refuse e

/-- The response that shows the tokens of a session. -/
def tokensResponse (p : Portal) (pair : TokenPair) : Response :=
  .json 200 (.record [("access_token", .text pair.access), ("refresh_token", .text pair.refresh),
    ("token_type", .text "Bearer"), ("expires_in", .int p.service.codec.lifetime)])

/-- The response to something that was done. -/
def success : Response := .json 200 (.record [("success", .bool true)])

/-- The response that shows a user. -/
def userResponse (u : User) : Response := .json 200 (.record [("user", u.toJson)])

/-- The response that says that the server is well. -/
def healthy : Response :=
  .json 200 (.record [("status", .text "healthy"), ("service", .text "egaldeutsch")])

/-! ## Handling -/

/-- Handles a request whose body must have the form `shape`. -/
def withBody {α : Type} (shape : Shape α) (r : Request) (f : α → Flow Response) : Flow Response :=
  match readBody shape r with
  | .ok a => f a
  | .error response => .done response

/-- The client of a request. -/
def Request.client (r : Request) (p : Portal) : ClientInfo :=
  clientInfo r.headers r.peer p.trustProxy

/-- Handles a request that has passed the guard of its route, with the claims of its token if the
guard asked for one. -/
def handle (p : Portal) (claims : Claims) (r : Request) : Route → Flow Response
  | .health => .done healthy
  | .login =>
    withBody LoginBody.shape r fun b =>
      respond (p.login b.email b.password (r.client p)) (tokensResponse p)
  | .refresh =>
    withBody (oneText "refresh_token") r fun token =>
      respond (p.refresh token (r.client p)) (tokensResponse p)
  | .logout =>
    withBody (oneText "refresh_token") r fun token =>
      respond (Portal.logout token) fun _ => success
  | .logoutAll => respond (Portal.logoutAll claims) fun _ => success
  | .forgotPassword =>
    withBody (oneText "email") r fun email => do
      p.forgotPassword email
      return { status := 202 }
  | .resetPassword =>
    withBody ResetBody.shape r fun b =>
      respond (Portal.resetPassword b.token b.password b.confirmation) fun _ => success
  | .me => respond (Portal.currentUser claims) userResponse
  | .revokeSessions segment =>
    match percentDecode? segment with
    | none => .done (.text 400 "Invalid URL")
    | some userId => respond (Portal.revokeSessions userId) fun _ => success

/-- Handles a request that has passed the guard of its route, if its method fits. -/
def handleMethod (p : Portal) (claims : Claims) (r : Request) (route : Route) : Flow Response :=
  if route.accepts r.method then handle p claims r route else .done { status := 405 }

/-! ## Guards -/

/-- The access token of a request: the rest of its authorization after the word `Bearer`. -/
def bearerToken (h : Headers) : Except ApiError String :=
  match h.text? "authorization" with
  | none => .error (.unauthorized "Missing authorization header")
  | some value =>
    let scheme := "Bearer ".toList
    let token := value.toList.drop scheme.length
    if scheme.isPrefixOf value.toList ∧ !token.isEmpty then .ok (String.ofList token)
    else .error (.unauthorized "Invalid authorization scheme")

/-- The claims of the access token of a request. -/
def authenticate (p : Portal) (r : Request) : Handler Claims := do
  let token ← MonadExcept.ofExcept (bearerToken r.headers)
  (p.service.parseToken token).forRequest

/-- Refuses a request unless its claims have the role. -/
def requireRole (role : String) (claims : Option Claims) : Handler Unit := do
  match claims with
  | none => throw (.forbidden "forbidden")
  | some claims =>
    if claims.role ≠ role then
      (Program.log (.roleMissing claims.subject claims.role role)).forRequest
      throw (.forbidden "forbidden")

/-- Answers a request to a route whose guard asks for a token. -/
def guarded (check : Handler Claims) (next : Claims → Flow Response) : Flow Response := do
  match ← ExceptT.run check with
  | .ok claims => next claims
  | .error e => refuse e

/-- Answers a request to a route that counts requests. -/
def throttled (p : Portal) (limiter : RateLimiter) (now : Instant) (r : Request)
    (next : Flow Response) : RateLimiter × Flow Response :=
  let client := (clientAddress r.headers r.peer p.trustProxy).getD unknownClient
  let (accepted, limiter) := limiter.allow client r.path p.rateLimit now
  if accepted then (limiter, next)
  else (limiter, .emit (.throttled client r.path p.rateLimit) (refuse .tooManyRequests))

/-- Answers a request to a route. -/
def answerRoute (p : Portal) (limiter : RateLimiter) (now : Instant) (r : Request)
    (route : Route) : RateLimiter × Flow Response :=
  match route.guard with
  | .none => (limiter, handleMethod p {} r route)
  | .throttle => throttled p limiter now r (handleMethod p {} r route)
  | .token => (limiter, guarded (authenticate p r) fun claims => handleMethod p claims r route)
  | .admin =>
    let check : Handler Claims := do
      let claims ← authenticate p r
      requireRole adminRole (some claims)
      return claims
    (limiter, guarded check fun claims => handleMethod p claims r route)

/-! ## The server -/

/-- What every response says to pages of other origins. -/
def openToAll (r : Response) : Response :=
  (r.withHeader "access-control-allow-origin" "*").withHeader "vary"
    "origin, access-control-request-method, access-control-request-headers"

/-- What a response says of the methods of its route. -/
def withAllowed (route : Route) (r : Response) : Response := r.withHeader "allow" route.allowed

/-- The response to a preflight request. -/
def preflight (route : Option Route) : Response :=
  let r : Response := { status := 200 }
  let r := (r.withHeader "access-control-allow-methods" "*").withHeader
    "access-control-allow-headers" "*"
  match route with
  | some route => withAllowed route r
  | none => r

/-- What is done to the response of a route before it is sent. -/
def finish (r : Request) (route : Route) (response : Response) : Response :=
  let response := if route.accepts r.method then response else withAllowed route response
  if r.method = "HEAD" then response.withoutBody else response

/-- Answers a request that arrives at the time `now` of a clock that never goes back.  Whether its
client may send it is decided at once. -/
def serve (p : Portal) (limiter : RateLimiter) (now : Instant) (r : Request) :
    RateLimiter × Flow Response :=
  let route := Route.ofPath? r.path
  if r.method = "OPTIONS" then (limiter, .done (openToAll (preflight route)))
  else
    match route with
    | none => (limiter, .done (openToAll { status := 404 }))
    | some route =>
      let (limiter, flow) := answerRoute p limiter now r route
      (limiter, (openToAll ∘ finish r route) <$> flow)

end Gatehouse.Http
