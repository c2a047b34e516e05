/-
  Passwords and their hashes.

  A hash is a text of four parts: the version of the format, the cost, the salt and the digest.  Any
  hash of the format can be verified, whatever its cost; new hashes have one cost.  `verify` says
  whether a password belongs to a hash, or what is wrong with the hash, looking at its parts from
  left to right.
-/
import Gatehouse.Crypto.Bcrypt
import Gatehouse.Encoding
import Gatehouse.Error
import Gatehouse.Flow
import Gatehouse.Text.Numeral
import Gatehouse.Text.Split

namespace Gatehouse.Password

open Text

/-- The cost of new hashes. -/
def cost : Nat := 10

/-- The key that a password gives: its bytes and a zero, at most 72 of them. -/
def key (password : String) : List UInt8 := (utf8 password ++ [0]).take 72

/-- The digest of a password. -/
def digest (cost : Nat) (salt : List UInt8) (password : String) : List UInt8 :=
  Bcrypt.digest cost salt (key password)

/-- Bytes in the alphabet of hashes. -/
def encode (bytes : List UInt8) : List Char := Base64.encode Base64.passwordHash bytes

/-- The hash of a password under a salt. -/
def hashWith (salt : List UInt8) (password : String) : String :=
  String.ofList ("$2b$".toList ++ (toString cost).toList ++ '$' :: encode salt ++
    encode (digest cost salt password))

/-- What is wrong with a hash. -/
inductive HashError where
  /-- It does not have the parts of a hash, or the last one has the wrong length. -/
  | invalidHash (hash : String)
  /-- The version is none that we know. -/
  | invalidVersion (part : String)
  /-- The cost is no number. -/
  | invalidCost (part : String)
  /-- Salt or digest is not in base64. -/
  | encoding (cause : Base64.DecodeError)
  /-- The cost is out of bounds. -/
  | costNotAllowed (cost : Nat)
  /-- No salt could be had. -/
  | noSalt (reason : String)
deriving DecidableEq, Repr

/-- The wording of a problem of base64. -/
def encodingMessage : Base64.DecodeError → String
  | .invalidSymbol code offset => s!"Invalid symbol {code}, offset {offset}."
  | .invalidLastSymbol code offset => s!"Invalid last symbol {code}, offset {offset}."
  | .invalidLength => "Invalid input length"
  | .invalidPadding => "Invalid padding"

/-- The wording of each problem. -/
def HashError.message : HashError → String
  | .invalidHash hash => "Invalid hash: " ++ hash
  | .invalidVersion part => "Invalid Prefix: " ++ part
  | .invalidCost part => "Invalid Cost: " ++ part
  | .encoding cause => "Base64 error: " ++ encodingMessage cause
  | .costNotAllowed cost => s!"Cost needs to be between 4 and 31, got {cost}"
  | .noSalt reason => "Rand error: " ++ reason

/-- The parts of a hash, salt and digest still in base64. -/
structure Parts where
  /-- The cost. -/
  cost : Nat
  /-- The codes of the salt. -/
  salt : List Nat
  /-- The codes of the digest. -/
  digest : List Nat
deriving DecidableEq, Repr

/-- Tells whether a byte is inside a character. -/
def isContinuation (b : UInt8) : Bool := 0x80 ≤ b && b < 0xc0

/-- Splits a hash into its parts. -/
def split (hash : String) : Except HashError Parts :=
  match (Text.split '$' hash).filter (· ≠ "") with
  | [version, cost, rest] =>
    if version ∈ ["2a", "2b", "2x", "2y"] then
      match readNat maxNat32 cost with
      | .error _ => .error (.invalidCost cost)
      | .ok cost =>
        let bytes := utf8 rest
        if bytes.length = 53 ∧ !(bytes.drop 22).head?.any isContinuation then
          let codes := bytes.map UInt8.toNat
          .ok ⟨cost, codes.take 22, codes.drop 22⟩
        else .error (.invalidHash hash)
    else .error (.invalidVersion version)
  | _ => .error (.invalidHash hash)

/-- The bytes of a part of a hash. -/
def decode (codes : List Nat) : Except HashError (List UInt8) :=
  (Base64.decode Base64.passwordHash codes).mapError .encoding

/-- Tells whether a password belongs to a hash. -/
def matchHash (password hash : String) : Except HashError Bool := do
  let parts ← split hash
  let salt ← decode parts.salt
  if parts.cost < 4 ∨ 31 < parts.cost then throw (.costNotAllowed parts.cost)
  let wanted ← decode parts.digest
  return digest parts.cost salt password = wanted

/-- Tells whether a password belongs to a hash; a hash that is none is an error inside. -/
def verify (password hash : String) : Except AuthError Bool :=
  (matchHash password hash).mapError fun e => .internal ("bcrypt verify: " ++ e.message)

/-- The hash of a new password. -/
def hash (password : String) : Program String := do
  match ← Program.salt with
  | .ok salt => return hashWith salt.toList password
  | .error e => throw (.internal ("bcrypt hash: " ++ (HashError.noSalt e).message))

/-- The least number of characters of a new password. -/
def minLength : Nat := 8

/-- Checks a new password and its repetition. -/
def checkNew (password confirmation : String) : Except AuthError Unit :=
  if password.length < minLength then
    .error (.validation s!"Password must be at least {minLength} characters")
  else if password ≠ confirmation then .error (.validation "Passwords do not match")
  else .ok ()

end Gatehouse.Password
