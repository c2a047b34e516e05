/-
  What a store keeps of a token, and of the client it was issued to.
-/
import Gatehouse.Clock
import Gatehouse.Text.CharClass
import Gatehouse.Uuid

namespace Gatehouse

/-! ## Clients -/

/-- The address and the user agent of a client, each trimmed, and absent rather than blank. -/
structure ClientInfo where
  /-- The network address. -/
  ip : Option String
  /-- What the client calls itself. -/
  userAgent : Option String
deriving DecidableEq, Repr

namespace ClientInfo

/-- The client behind raw values. -/
def ofRaw (ip userAgent : Option String) : ClientInfo :=
  ⟨ip.bind trimmed?, userAgent.bind trimmed?⟩

end ClientInfo

/-! ## Tokens -/

/-- What is kept of a refresh token.  `ι` is the type of the record's own identifier. -/
structure RefreshRecord (ι : Type) where
  /-- The identifier of the record. -/
  id : ι
  /-- The owner. -/
  user : Uuid
  /-- The digest of the token. -/
  digest : String
  /-- When the token was issued. -/
  createdAt : Instant
  /-- When the token was replaced, if it was. -/
  lastUsedAt : Option Instant
  /-- From when on the token is no longer good. -/
  expiresAt : Instant
  /-- Whether the token was used or revoked. -/
  revoked : Bool
  /-- The digest of the token that replaced it, if one did. -/
  replacedBy : Option String
  /-- The address of the client it was issued to. -/
  ip : Option String
  /-- The user agent of the client it was issued to. -/
  userAgent : Option String
deriving DecidableEq, Repr

/-- Tells whether a token that expires at `expiresAt` is no longer good. -/
def expired (expiresAt now : Instant) : Bool := expiresAt ≤ now

/-- What is kept of a password-reset token. -/
structure ResetRecord where
  /-- The place in the order of issue. -/
  id : Nat
  /-- The owner. -/
  user : Uuid
  /-- The digest of the token. -/
  digest : String
  /-- When the token was issued. -/
  createdAt : Instant
  /-- From when on the token is no longer good. -/
  expiresAt : Instant
  /-- Whether the token was used. -/
  used : Bool
deriving DecidableEq, Repr

end Gatehouse
