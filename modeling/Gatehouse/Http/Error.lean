/-
  Why a request is refused, and what the client is told.

  A client learns the status, a code and a message.  Of what fails inside it learns nothing; that
  goes to the log.
-/
import Gatehouse.Error
import Gatehouse.Json.Value
import Gatehouse.Text.Quoted

namespace Gatehouse

/-- Why a request is refused. -/
inductive ApiError where
  /-- The request itself is wrong. -/
  | validation (detail : String)
  /-- What the request is about does not exist. -/
  | notFound (detail : String)
  /-- The client proved no identity. -/
  | unauthorized (detail : String)
  /-- The client may not do this. -/
  | forbidden (detail : String)
  /-- The client sent too many requests. -/
  | tooManyRequests
  /-- Something failed inside. -/
  | internal (detail : String)
deriving DecidableEq, Repr

namespace ApiError

/-- What an error of the service means for a request. -/
def ofAuth (e : AuthError) : ApiError :=
  if e.isAuthenticationFailure then unauthorized e.message
  else
    match e with
    | .validation detail => validation detail
    | e => internal e.message

/-- The wording of a refusal. -/
def message : ApiError → String
  | validation detail => "Validation error: " ++ detail
  | notFound detail => "Not found: " ++ detail
  | unauthorized detail => "Unauthorized: " ++ detail
  | forbidden detail => "Forbidden: " ++ detail
  | tooManyRequests => "Rate limit exceeded"
  | internal _ => "Internal server error"

/-- The refusal as diagnostics show it. -/
def inspect : ApiError → String
  | validation detail => "Validation(" ++ Text.quoted detail ++ ")"
  | notFound detail => "NotFound(" ++ Text.quoted detail ++ ")"
  | unauthorized detail => "Unauthorized(" ++ Text.quoted detail ++ ")"
  | forbidden detail => "Forbidden(" ++ Text.quoted detail ++ ")"
  | tooManyRequests => "TooManyRequests"
  | internal detail => "Internal(" ++ Text.quoted detail ++ ")"

/-- The status of the response. -/
def status : ApiError → Nat
  | validation _ => 400
  | notFound _ => 404
  | unauthorized _ => 401
  | forbidden _ => 403
  | tooManyRequests => 429
  | internal _ => 500

/-- The code and the message that the client is told. -/
def told : ApiError → String × String
  | validation detail => ("validation_error", detail)
  | notFound detail => ("not_found", detail)
  | unauthorized detail => ("unauthorized", detail)
  | forbidden detail => ("forbidden", detail)
  | tooManyRequests => ("rate_limited", "Rate limit exceeded")
  | internal _ => ("internal_error", "Internal server error")

/-- The body of the response. -/
def body (e : ApiError) : Json.Value :=
  .record [("error", .text e.told.1), ("message", .text e.told.2)]

end ApiError

end Gatehouse
