/-
  Settings.

  The server reads its settings from named variables, each of which may be absent.  `TokenConfig`
  holds what signing and session lifetimes need and is accepted only after `TokenConfig.check`;
  `ServerConfig` adds the addresses, the rate limit and the trust in proxy headers.  Reading goes
  through the variables in a fixed order and reports the first one that is wrong.
-/
import Gatehouse.Error
import Gatehouse.Text.CharClass
import Gatehouse.Text.Numeral
import Gatehouse.Text.Quoted

namespace Gatehouse

open Text

/-- The version that the library states. -/
def version : String := "0.1.0"

/-! ## Defaults -/

/-- The issuer if none is named. -/
def defaultIssuer : String := "egaldeutsch"

/-- The lifetime of an access token if none is chosen: one hour. -/
def defaultExpirationHours : Int := 1

/-- The lifetime of a refresh token if none is chosen: thirty days. -/
def defaultRefreshDays : Int := 30

/-- The address to listen on if none is chosen. -/
def defaultBindAddress : String := "127.0.0.1:8080"

/-- Where the database is if nothing else is said. -/
def defaultDatabaseUrl : String := "postgres://localhost:5432/egaldeutsch"

/-- The limit on requests a minute if none is chosen. -/
def defaultRateLimit : Int := 10

/-- The page that password-reset links lead to if none is chosen. -/
def defaultResetUrl : String := "http://localhost:3000/reset-password"

/-! ## Signing and lifetimes -/

/-- Signing and lifetime settings. -/
structure TokenConfig where
  /-- The key that signs access tokens. -/
  secret : String
  /-- The issuer named by access tokens. -/
  issuer : String := defaultIssuer
  /-- The lifetime of an access token in hours. -/
  expirationHours : Int := defaultExpirationHours
  /-- The lifetime of a refresh token in days. -/
  refreshDays : Int := defaultRefreshDays
deriving DecidableEq, Repr

/-- What is wrong with a setting. -/
inductive ConfigProblem where
  /-- The variable with the signing key is absent or empty. -/
  | secretNotSet
  /-- The signing key is empty. -/
  | secretEmpty
  /-- The signing key has too few characters. -/
  | secretShort (length : Nat)
  /-- The issuer is blank. -/
  | issuerBlank
  /-- Access tokens would expire at once. -/
  | hoursNotPositive (hours : Int)
  /-- Access tokens would live too long. -/
  | hoursTooLong (hours : Int)
  /-- Refresh tokens would expire at once. -/
  | daysNotPositive (days : Int)
  /-- A variable does not hold an integer. -/
  | notInteger (name : String) (raw : String)
  /-- A variable does not hold a number. -/
  | notNumber (name : String) (raw : String)
  /-- A variable does not hold a truth value. -/
  | notBoolean (name : String) (raw : String)
deriving DecidableEq, Repr

/-- The least number of characters of a signing key. -/
def minSecretLength : Nat := 32

/-- The longest lifetime of an access token in hours: one year. -/
def maxExpirationHours : Nat := 8760

/-- The wording of each problem. -/
def ConfigProblem.message : ConfigProblem → String
  | .secretNotSet => "JWT_SECRET is not set"
  | .secretEmpty => "jwt secret key cannot be empty"
  | .secretShort length =>
    s!"jwt secret key must be at least {minSecretLength} characters, got {length}"
  | .issuerBlank => "jwt issuer cannot be empty"
  | .hoursNotPositive hours => s!"jwt expiration hours must be positive, got {hours}"
  | .hoursTooLong hours =>
    s!"jwt expiration hours too long (max {maxExpirationHours}), got {hours}"
  | .daysNotPositive days => s!"refresh token expiration days must be positive, got {days}"
  | .notInteger name raw => name ++ " must be an integer, got " ++ quoted raw
  | .notNumber name raw => name ++ " is not a number: " ++ quoted raw
  | .notBoolean name raw => name ++ " is not a boolean: " ++ quoted raw

/-- The problem as an error of the service. -/
def ConfigProblem.toError (p : ConfigProblem) : AuthError := .configuration p.message

namespace TokenConfig

/-- The settings as diagnostics show them: everything but the key. -/
def inspect (c : TokenConfig) : String :=
  "JwtConfig \x7b secret: \"<redacted>\", issuer: " ++ quoted c.issuer ++
  s!", expiration_hours: {c.expirationHours}, refresh_token_expiration_days: {c.refreshDays} \x7d"

/-- Checks the settings and names the first problem. -/
def check (c : TokenConfig) : Except ConfigProblem Unit :=
  if c.secret.isEmpty then .error .secretEmpty
  else if c.secret.length < minSecretLength then .error (.secretShort c.secret.length)
  else if blank c.issuer then .error .issuerBlank
  else if c.expirationHours ≤ 0 then .error (.hoursNotPositive c.expirationHours)
  else if c.expirationHours > maxExpirationHours then .error (.hoursTooLong c.expirationHours)
  else if c.refreshDays ≤ 0 then .error (.daysNotPositive c.refreshDays)
  else .ok ()

end TokenConfig

/-- A source of variables: the text of each variable that is set. -/
abbrev Variables := String → Option String

/-- Reads an integer, blanks around it allowed. -/
def Variables.integer (vars : Variables) (name : String) (default : Int)
    (problem : String → String → ConfigProblem) : Except ConfigProblem Int :=
  match vars name with
  | none => .ok default
  | some raw =>
    match readInt64 (trim raw) with
    | .ok n => .ok n
    | .error _ => .error (problem name raw)

/-- Reads the signing and lifetime settings and checks them. -/
def TokenConfig.ofVariables (vars : Variables) : Except ConfigProblem TokenConfig := do
  let secret ← match vars "JWT_SECRET" with
    | some secret => if secret.isEmpty then .error .secretNotSet else .ok secret
    | none => .error .secretNotSet
  let issuer := (vars "JWT_ISSUER").getD defaultIssuer
  let hours ← vars.integer "JWT_EXPIRATION_HOURS" defaultExpirationHours .notInteger
  let days ← vars.integer "REFRESH_TOKEN_EXPIRATION_DAYS" defaultRefreshDays .notInteger
  let config : TokenConfig := ⟨secret, issuer, hours, days⟩
  config.check
  return config

/-! ## The server -/

/-- The settings of the server. -/
structure ServerConfig where
  /-- The address to listen on. -/
  bindAddress : String
  /-- Where the database is. -/
  databaseUrl : String
  /-- Signing and lifetimes. -/
  tokens : TokenConfig
  /-- Requests a minute that one client may send to one credential route. -/
  rateLimit : Nat
  /-- The page that password-reset links lead to. -/
  resetUrl : String
  /-- Whether the client address may be taken from the headers of a proxy. -/
  trustProxy : Bool
deriving DecidableEq, Repr

/-- The limit that stands in for one that is not positive. -/
def fallbackRateLimit : Nat := 60

/-- Makes a configured limit one that can be enforced. -/
def normalizeRateLimit (limit : Int) : Nat :=
  if 0 < limit then limit.toNat else fallbackRateLimit

/-- The text with every ASCII capital in lower case. -/
def asciiLowerCase (s : String) : String := s.map Char.toLower

/-- Reads a truth value, blanks around it and the case of ASCII letters ignored. -/
def readFlag (name raw : String) : Except ConfigProblem Bool :=
  let word := asciiLowerCase (trim raw)
  if word ∈ ["1", "true", "yes", "on"] then .ok true
  else if word ∈ ["0", "false", "no", "off", ""] then .ok false
  else .error (.notBoolean name raw)

namespace ServerConfig

/-- The settings as diagnostics show them. -/
def inspect (c : ServerConfig) : String :=
  "ApiConfig \x7b bind_addr: " ++ quoted c.bindAddress ++
  ", pg_connection_url: " ++ quoted c.databaseUrl ++
  ", jwt: " ++ c.tokens.inspect ++
  s!", auth_rate_limit_per_minute: {c.rateLimit}" ++
  ", password_reset_url: " ++ quoted c.resetUrl ++
  s!", trust_proxy_headers: {c.trustProxy} \x7d"

/-- Reads the settings of the server. -/
def ofVariables (vars : Variables) : Except ConfigProblem ServerConfig := do
  let limit ← vars.integer "AUTH_RATE_LIMIT_PER_MINUTE" defaultRateLimit .notNumber
  let trustProxy ← match vars "TRUST_PROXY_HEADERS" with
    | some raw => readFlag "TRUST_PROXY_HEADERS" raw
    | none => .ok false
  let tokens ← TokenConfig.ofVariables vars
  return {
    bindAddress := (vars "BIND_ADDR").getD defaultBindAddress
    databaseUrl := (vars "DATABASE_URL").getD defaultDatabaseUrl
    tokens
    rateLimit := normalizeRateLimit limit
    resetUrl := (vars "PASSWORD_RESET_URL").getD defaultResetUrl
    trustProxy }

end ServerConfig

end Gatehouse
