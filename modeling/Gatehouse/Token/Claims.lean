/-
  What an access token says.

  The claims name a user, the user's role and the issuer, and bound the token in time.  In a token
  they are a JSON object with five keys in a fixed order; reading accepts the keys in any order, and
  the five values as an array.
-/
import Gatehouse.Json.Shape
import Gatehouse.Json.Value

namespace Gatehouse

/-- What an access token says. -/
structure Claims where
  /-- The identifier of the user. -/
  subject : String := ""
  /-- The role of the user. -/
  role : String := ""
  /-- Who issued the token. -/
  issuer : String := ""
  /-- When the token was issued, in seconds since 1970. -/
  issuedAt : Int := 0
  /-- The last second at which the token is good. -/
  expiresAt : Int := 0
deriving DecidableEq, Repr

namespace Claims

open Json

/-- The claims as JSON. -/
def toJson (c : Claims) : Value :=
  .record [("sub", .text c.subject), ("role", .text c.role), ("iss", .text c.issuer),
    ("iat", .int c.issuedAt), ("exp", .int c.expiresAt)]

/-- The form of claims in JSON. -/
def shape : Shape Claims where
  blank := {}
  fields := [
    Shape.field "sub" Reader.text fun s c => { c with subject := s },
    Shape.field "role" Reader.text fun s c => { c with role := s },
    Shape.field "iss" Reader.text fun s c => { c with issuer := s },
    Shape.field "iat" Reader.int64 fun n c => { c with issuedAt := n },
    Shape.field "exp" Reader.int64 fun n c => { c with expiresAt := n }]

end Claims

end Gatehouse
