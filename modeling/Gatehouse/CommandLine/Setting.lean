/-
  The settings that the command line can give.

  Every setting has a long option, a variable that stands in for it, and a type of value.  A value
  is text as given, a number, or, for the one setting without a value of its own, a yes or no.
  `Misuse` says what can be wrong with a command line, and its wording.  What a message quotes from
  the command line is quoted without the commands to a terminal in it.
-/
import Gatehouse.Config
import Gatehouse.Text.ControlSequence

namespace Gatehouse.CommandLine

open Text

/-- A setting. -/
inductive Setting where
  | bindAddress
  | databaseUrl
  | maxConnections
  | secret
  | issuer
  | expirationHours
  | refreshDays
  | rateLimit
  | resetUrl
  | trustProxy
deriving DecidableEq, Repr

namespace Setting

/-- All settings, in the order in which their variables are read. -/
def all : List Setting :=
  [bindAddress, databaseUrl, maxConnections, secret, issuer, expirationHours, refreshDays,
    rateLimit, resetUrl, trustProxy]

/-- The name of the option. -/
def name : Setting → String
  | bindAddress => "bind-addr"
  | databaseUrl => "database-url"
  | maxConnections => "max-connections"
  | secret => "jwt-secret"
  | issuer => "jwt-issuer"
  | expirationHours => "jwt-expiration-hours"
  | refreshDays => "refresh-token-expiration-days"
  | rateLimit => "auth-rate-limit-per-minute"
  | resetUrl => "password-reset-url"
  | trustProxy => "trust-proxy-headers"

/-- The name of the variable that stands in for the option. -/
def source : Setting → String
  | bindAddress => "BIND_ADDR"
  | databaseUrl => "DATABASE_URL"
  | maxConnections => "DATABASE_MAX_CONNECTIONS"
  | secret => "JWT_SECRET"
  | issuer => "JWT_ISSUER"
  | expirationHours => "JWT_EXPIRATION_HOURS"
  | refreshDays => "REFRESH_TOKEN_EXPIRATION_DAYS"
  | rateLimit => "AUTH_RATE_LIMIT_PER_MINUTE"
  | resetUrl => "PASSWORD_RESET_URL"
  | trustProxy => "TRUST_PROXY_HEADERS"

/-- What the setting is for. -/
def purpose : Setting → String
  | bindAddress => "Address to listen on"
  | databaseUrl => "PostgreSQL connection URL"
  | maxConnections => "Maximum number of database connections in the pool"
  | secret => "HMAC secret for access tokens (at least 32 characters)"
  | issuer => "`iss` claim of issued access tokens"
  | expirationHours => "Access-token lifetime in hours (1 to 8760)"
  | refreshDays => "Refresh-token lifetime in days"
  | rateLimit => "Requests per minute per route and client on credential endpoints"
  | resetUrl => "Page that receives `?token=` in password-reset links"
  | trustProxy => "Take the client address from `X-Forwarded-For`/`X-Real-IP`"

/-- The type of the values of a setting. -/
abbrev Value : Setting → Type
  | maxConnections => Nat
  | expirationHours | refreshDays | rateLimit => Int
  | trustProxy => Bool
  | bindAddress | databaseUrl | secret | issuer | resetUrl => String

/-- Tells whether the option is followed by a value. -/
def takesValue : Setting → Bool
  | trustProxy => false
  | _ => true

/-- Tells whether the value may be a number with a minus sign in a word of its own. -/
def takesNegative : Setting → Bool
  | rateLimit => true
  | _ => false

/-- The setting whose option has a name. -/
def ofName? (s : String) : Option Setting := all.find? (·.name = s)

/-- The name of a value as the option shows it: capitals, with underscores. -/
def valueName (s : Setting) : String :=
  s.name.map fun c => if c = '-' then '_' else c.toUpper

/-- The option as messages show it. -/
def label (s : Setting) : String :=
  "--" ++ s.name ++ (if s.takesValue then " <" ++ s.valueName ++ ">" else "")

end Setting

/-- What is wrong with a command line. -/
inductive Misuse where
  /-- A word that is no option, and no value of one. -/
  | unexpected (word : String)
  /-- A value for an option that takes none. -/
  | unneeded (value label : String)
  /-- An option without its value. -/
  | valueMissing (label : String)
  /-- An option given twice. -/
  | repeated (label : String)
  /-- A value of the wrong form. -/
  | badValue (value label reason : String)
  /-- A value that is none of the possible ones. -/
  | noSuchValue (value label : String)
  /-- A setting that must be given and is not. -/
  | required (label : String)
deriving DecidableEq, Repr

/-- The wording of a misuse. -/
def Misuse.message : Misuse → String
  | unexpected word => "unexpected argument '" ++ visible word ++ "' found"
  | unneeded value label =>
    "unexpected value '" ++ visible value ++ "' for '" ++ label ++ "' found; no more were expected"
  | valueMissing label => "a value is required for '" ++ label ++ "' but none was supplied"
  | repeated label => "the argument '" ++ label ++ "' cannot be used multiple times"
  | badValue value label reason =>
    "invalid value '" ++ visible value ++ "' for '" ++ label ++ "': " ++ reason
  | noSuchValue value label => "invalid value '" ++ visible value ++ "' for '" ++ label ++ "'"
  | required label => "the following required arguments were not provided:\n  " ++ label

namespace Setting

/-- Reads a whole number. -/
def readInteger (s : Setting) (text : String) : Except Misuse Int :=
  (readInt64 text).mapError fun e => .badValue text s.label e.message

/-- Reads a number of connections. -/
def readConnections (s : Setting) (text : String) : Except Misuse Nat := do
  let n ← s.readInteger text
  if 0 ≤ n ∧ n ≤ maxNat32 then return n.toNat
  else throw (.badValue text s.label s!"{n} is not in 0..={maxNat32}")

/-- Reads a yes or no. -/
def readChoice (s : Setting) (text : String) : Except Misuse Bool :=
  if text = "true" then .ok true
  else if text = "false" then .ok false
  else if text.isEmpty then .error (.valueMissing s.label)
  else .error (.noSuchValue text s.label)

/-- Reads the value of a setting. -/
def read : (s : Setting) → String → Except Misuse s.Value
  | maxConnections, text => readConnections maxConnections text
  | expirationHours, text => readInteger expirationHours text
  | refreshDays, text => readInteger refreshDays text
  | rateLimit, text => readInteger rateLimit text
  | trustProxy, text => readChoice trustProxy text
  | bindAddress, text | databaseUrl, text | secret, text | issuer, text | resetUrl, text => .ok text

end Setting

end Gatehouse.CommandLine
