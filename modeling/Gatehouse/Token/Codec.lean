/-
  Signed access tokens.

  A token is three texts joined by dots: the header, the claims and the signature of the two, each
  in base64.  `Codec.sign` writes one, and `Codec.verify` gives back the claims of a token that was
  signed with the same key, names the same issuer, is for no audience and has not expired.
-/
import Gatehouse.Clock
import Gatehouse.Config
import Gatehouse.Crypto.Sha256
import Gatehouse.Encoding
import Gatehouse.Text.Quoted
import Gatehouse.Token.Audience
import Gatehouse.Token.Claims
import Gatehouse.Token.Header

namespace Gatehouse

open Text

/-- What is needed to sign and to verify access tokens. -/
structure Codec where
  /-- The key of the signature. -/
  secret : String
  /-- The issuer that tokens name. -/
  issuer : String
  /-- How long a token is good. -/
  span : Duration
deriving DecidableEq, Repr

namespace Codec

/-- A codec with a key that is not empty. -/
def create (secret issuer : String) (span : Duration) : Except AuthError Codec :=
  if secret.isEmpty then .error (.configuration "jwt secret key is empty")
  else .ok ⟨secret, issuer, span⟩

/-- The codec for the settings; there is none if the lifetime is no duration. -/
def ofConfig? (c : TokenConfig) : Option (Except AuthError Codec) :=
  (hours? c.expirationHours).map (create c.secret c.issuer)

/-- How long a token is good, in whole seconds. -/
def lifetime (c : Codec) : Int := c.span.seconds

/-- A duration as diagnostics show it: the seconds rounded down, and the rest of it. -/
def inspectDuration (d : Duration) : String :=
  s!"TimeDelta \x7b secs: {Int.fdiv d 1000}, nanos: {Int.fmod d 1000 * 1000000} \x7d"

/-- The codec as diagnostics show it: everything but the key. -/
def inspect (c : Codec) : String :=
  "TokenCodec \x7b issuer: " ++ quoted c.issuer ++ ", lifetime: " ++ inspectDuration c.span ++
  ", .. \x7d"

/-- Bytes in the base64 of tokens. -/
def encodeBytes (bytes : List UInt8) : List Char := Base64.encode Base64.urlSafe bytes

/-- A JSON value in the base64 of tokens. -/
def encodeJson (v : Json.Value) : List Char := encodeBytes (utf8 v.toText)

/-- The signature of a message. -/
def signature (c : Codec) (message : List Char) : List Char :=
  encodeBytes (Hmac.sha256 (utf8 c.secret) (utf8 (String.ofList message)))

/-- The token for some claims. -/
def sign (c : Codec) (claims : Claims) : String :=
  let message := encodeJson Token.ownHeader ++ '.' :: encodeJson claims.toJson
  String.ofList (message ++ '.' :: c.signature message)

/-- Checks what a token is to say about a user. -/
def checkIdentity (userId role : String) : Except AuthError Unit :=
  if blank userId then .error (.validation "invalid user ID: empty")
  else if blank role then .error (.validation "invalid role: empty")
  else .ok ()

/-- The claims of a token issued now, if the calendar has its last moment. -/
def claimsAt? (c : Codec) (now : Instant) (userId role : String) : Option Claims :=
  (now.plus? c.span).map fun expiry =>
    ⟨userId, role, c.issuer, now.seconds, Instant.seconds expiry⟩

/-- Splits at the last dot. -/
def splitLastDot (l : List Char) : Option (List Char × List Char) :=
  let back := l.reverse
  match back.dropWhile (· ≠ '.') with
  | [] => none
  | _ :: front => some (front.reverse, (back.takeWhile (· ≠ '.')).reverse)

/-- The bytes of a part of a token. -/
def decodePart? (l : List Char) : Option (List UInt8) :=
  (Base64.decode Base64.urlSafe (l.map Char.toNat)).toOption

/-- The algorithm that the header of a token names. -/
def headerAlgorithm? (header : List Char) : Option String := do
  (Token.headerShape.decode (← decodePart? header)).toOption

/-- The claims of a token that is good at this second. -/
def verify (c : Codec) (second : Int) (token : String) : Option Claims := do
  let (message, signature) ← splitLastDot token.toList
  let (header, payload) ← splitLastDot message
  guard (headerAlgorithm? header = some Token.ownAlgorithm)
  guard (signature = c.signature message)
  let bytes ← decodePart? payload
  let claims ← (Claims.shape.decode bytes).toOption
  guard (Token.namesNobody bytes)
  guard (claims.issuer = c.issuer ∧ 0 ≤ claims.expiresAt ∧ second ≤ claims.expiresAt)
  return claims

end Codec

end Gatehouse
