/-
  The identity service: when tokens are issued, replaced and revoked.

  A session is a pair of tokens.  The access token is signed and short-lived and is checked without
  the store.  The refresh token is a secret, kept as its digest, good for one replacement: whoever
  presents it gets a new pair, and whoever presents it again shows that it has leaked, so all
  sessions of its owner are closed.
-/
import Gatehouse.Flow
import Gatehouse.Secret
import Gatehouse.Token.Codec

namespace Gatehouse

/-- A source of secrets as a program: the bytes are drawn unless there are none to draw. -/
def Secret.generate (n : Nat) : Program Secret := do
  if n = 0 then return Secret.ofBytes []
  match ← Program.draw n with
  | .ok bytes => return Secret.ofBytes bytes.toList
  | .error e => throw (.entropy e)

/-- The two tokens of a session. -/
structure TokenPair where
  /-- The signed token. -/
  access : String
  /-- The secret that gets the next pair. -/
  refresh : String
deriving DecidableEq, Repr

/-- What the service needs to know. -/
structure Service where
  /-- Signs and verifies access tokens. -/
  codec : Codec
  /-- How long a refresh token is good. -/
  refreshLifetime : Duration
deriving DecidableEq, Repr

/-- How long a password-reset token is good: an hour. -/
def resetLifetime : Duration := 60 * 60 * 1000

namespace Service

/-- The service for settings that pass their check; there is none if a lifetime is no duration. -/
def ofConfig? (c : TokenConfig) : Option (Except AuthError Service) :=
  match c.check with
  | .error problem => some (.error problem.toError)
  | .ok _ =>
    match Codec.ofConfig? c with
    | none => none
    | some (.error e) => some (.error e)
    | some (.ok codec) => (days? c.refreshDays).map fun ttl => .ok ⟨codec, ttl⟩

/-- The service as diagnostics show it. -/
def inspect (s : Service) : String :=
  "AuthService \x7b codec: " ++ s.codec.inspect ++ ", refresh_token_ttl: " ++
  Codec.inspectDuration s.refreshLifetime ++ ", .. \x7d"

/-- The claims of an access token that is good now. -/
def parseToken (s : Service) (token : String) : Program Claims := do
  match s.codec.verify (← Program.now).seconds token with
  | some claims => return claims
  | none =>
    Program.log .tokenRejected
    throw .invalidToken

/-- Signs an access token for a user. -/
def signToken (c : Codec) (userId role : String) : Program String := do
  Codec.checkIdentity userId role
  let claims ← Program.orAbort (c.claimsAt? (← Program.now) userId role)
  return c.sign claims

/-- Signs an access token for a registered user. -/
def createAccessToken (s : Service) (user : Uuid) (role : String) : Program String :=
  signToken s.codec user.toText role

/-- Issues a refresh token. -/
def createRefreshToken (s : Service) (user : Uuid) (client : ClientInfo) : Program String := do
  let secret ← Secret.generate Secret.refreshLength
  let expiresAt ← Program.orAbort ((← Program.now).plus? s.refreshLifetime)
  Program.ask (.insertRefresh secret.digest user expiresAt client)
  Program.log (.refreshIssued user)
  return secret.plaintext

/-- Opens a session. -/
def issueSession (s : Service) (user : Uuid) (role : String) (client : ClientInfo) :
    Program TokenPair := do
  let access ← s.createAccessToken user role
  let refresh ← s.createRefreshToken user client
  return ⟨access, refresh⟩

/-- Replaces a refresh token, and signs a new access token for its owner. -/
def refreshTokens (s : Service) (token : String) (client : ClientInfo) : Program TokenPair := do
  let next ← Secret.generate Secret.refreshLength
  let expiresAt ← Program.orAbort ((← Program.now).plus? s.refreshLifetime)
  let rotation ← Program.ask (.rotate (digestToken token) next.digest expiresAt client)
  if rotation.reused then
    Program.log (.reuseRefused rotation.user client.ip)
    throw .refreshTokenReuse
  let access ← s.createAccessToken rotation.user rotation.role
  return ⟨access, next.plaintext⟩

/-- Revokes a refresh token. -/
def revokeRefreshToken (token : String) : Program Unit :=
  Program.ask (.revoke (digestToken token) none)

/-- Revokes all refresh tokens of the user whose identifier is the given text. -/
def revokeAllRefreshTokens (userId : String) : Program Unit := do
  match Uuid.ofUserText? userId with
  | none => throw (.validation ("invalid user ID: " ++ Text.quoted userId))
  | some user =>
    Program.ask (.revokeAll user)
    Program.log (.allRevoked user)

/-- Issues a password-reset token. -/
def createPasswordReset (user : Uuid) : Program String := do
  let secret ← Secret.generate Secret.resetLength
  let expiresAt ← Program.orAbort ((← Program.now).plus? resetLifetime)
  Program.ask (.insertReset secret.digest user expiresAt)
  return secret.plaintext

/-- Uses up a password-reset token and names its owner. -/
def verifyPasswordReset (token : String) : Program Uuid :=
  Program.ask (.consumeReset (digestToken token))

end Service

end Gatehouse
