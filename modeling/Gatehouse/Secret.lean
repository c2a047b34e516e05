/-
  Opaque secrets.

  A refresh token or a password-reset token is a text of random bytes that only its holder has.  We
  keep its digest, from which the text cannot be found.
-/
import Gatehouse.Crypto.Sha256
import Gatehouse.Encoding

namespace Gatehouse

/-- The digest of a token: sixty-four hexadecimal digits. -/
def digestToken (token : String) : String :=
  String.ofList (Hex.encode (Sha256.hash (Text.utf8 token)))

/-- A secret as its holder has it, and as we keep it. -/
structure Secret where
  /-- The text for its holder. -/
  plaintext : String
  /-- What is kept of it. -/
  digest : String
deriving DecidableEq, Repr

namespace Secret

/-- The text of random bytes. -/
def textOfBytes (bytes : List UInt8) : String :=
  String.ofList (Base64.encode Base64.urlSafe bytes)

/-- The secret made of random bytes. -/
def ofBytes (bytes : List UInt8) : Secret := ⟨textOfBytes bytes, digestToken (textOfBytes bytes)⟩

/-- The number of random bytes in a refresh token. -/
def refreshLength : Nat := 64

/-- The number of random bytes in a password-reset token. -/
def resetLength : Nat := 32

end Secret

end Gatehouse
