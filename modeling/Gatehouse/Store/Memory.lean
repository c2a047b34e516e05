/-
  The store in memory.

  Three tables: accounts by user, refresh records and reset records by digest.  Every operation is
  one step from a store to a store; it takes the time it happens at as an argument, and it gives a
  value or an error beside the new store.  Records are never removed, and identifiers count the
  records in the order of issue.
-/
import Gatehouse.Flow
import Gatehouse.Store.Record
import Gatehouse.Store.Table
import Gatehouse.Text.LowerCase

namespace Gatehouse

/-- The store in memory. -/
structure Memory where
  /-- The accounts. -/
  accounts : Table Uuid Account := ∅
  /-- The refresh records. -/
  refresh : Table String (RefreshRecord Nat) := ∅
  /-- The password-reset records. -/
  resets : Table String ResetRecord := ∅
  /-- The number of records issued so far. -/
  issued : Nat := 0
deriving DecidableEq, Repr

namespace Memory

/-- What an operation gives, and the store after it. -/
abbrev Outcome (α : Type) : Type := Except AuthError α × Memory

/-! ## Users -/

/-- Registers a user, or replaces the one with the same identifier. -/
def insertUser (m : Memory) (user : User) (passwordHash : String) : Memory :=
  { m with accounts := m.accounts.insert user.id ⟨user, passwordHash⟩ }

/-- The role of a user who owns a token. -/
def roleOf (m : Memory) (user : Uuid) : Except AuthError String :=
  match m.accounts.get? user with
  | some account => .ok account.user.role
  | none => .error .invalidRefreshToken

/-- Changes the role of a user. -/
def setRole (m : Memory) (user : Uuid) (role : String) : Outcome Unit :=
  if m.accounts.contains user then
    (.ok (), { m with
      accounts := m.accounts.modify user fun a => { a with user := { a.user with role } } })
  else (.error (.validation ("unknown user " ++ user.toText)), m)

/-- The account whose e-mail address is the given one, blanks around it and case ignored. -/
def findByEmail (m : Memory) (email : String) : Option Account :=
  let wanted := Text.lowerCase (Text.trim email)
  m.accounts.values.find? fun a => Text.lowerCase a.user.email = wanted

/-- The user with the identifier. -/
def findById (m : Memory) (user : Uuid) : Option User := (m.accounts.get? user).map (·.user)

/-- Changes the password hash of a user. -/
def setPassword (m : Memory) (user : Uuid) (hash : String) : Outcome Unit :=
  if m.accounts.contains user then
    (.ok (), { m with
      accounts := m.accounts.modify user fun a => { a with passwordHash := hash } })
  else (.error (.persistence .rowNotFound), m)

/-! ## Refresh tokens -/

/-- The refresh records of a user in the order of issue. -/
def recordsOf (m : Memory) (user : Uuid) : List (RefreshRecord Nat) :=
  m.refresh.values.filter (·.user = user)

/-- Keeps a new refresh token. -/
def insertRefresh (m : Memory) (now : Instant) (digest : String) (user : Uuid)
    (expiresAt : Instant) (client : ClientInfo) : Outcome Unit :=
  if m.refresh.contains digest then
    (.error (.internal "duplicate refresh token digest"), m)
  else
    let record : RefreshRecord Nat :=
      { id := m.issued, user, digest, createdAt := now, lastUsedAt := none, expiresAt
        revoked := false, replacedBy := none, ip := client.ip, userAgent := client.userAgent }
    (.ok (), { m with refresh := m.refresh.insert digest record, issued := m.issued + 1 })

/-- Revokes all refresh tokens of a user. -/
def revokeAll (m : Memory) (user : Uuid) : Memory :=
  { m with
    refresh := m.refresh.modifyAll fun r =>
      if r.user = user then { r with revoked := true } else r }

/-- The number of refresh tokens of a user that are not revoked. -/
def countOpen (m : Memory) (user : Uuid) : Nat :=
  (m.recordsOf user).countP fun r => !r.revoked

/-- Revokes one refresh token, and notes what replaced it if that is known. -/
def revoke (m : Memory) (digest : String) (replacedBy : Option String) : Outcome Unit :=
  if m.refresh.contains digest then
    (.ok (), { m with
      refresh := m.refresh.modify digest fun r =>
        { r with revoked := true, replacedBy := replacedBy.or r.replacedBy } })
  else (.error .invalidRefreshToken, m)

/-- Changes the time from which on a refresh token is no longer good. -/
def setExpiry (m : Memory) (digest : String) (expiresAt : Instant) : Outcome Unit :=
  if m.refresh.contains digest then
    (.ok (), { m with refresh := m.refresh.modify digest fun r => { r with expiresAt } })
  else (.error .invalidRefreshToken, m)

/-- Answers a token that was used before: closes all sessions of its owner. -/
def contain (m : Memory) (owner : Uuid) : Outcome Rotation :=
  let closed := m.revokeAll owner
  ((closed.roleOf owner).map fun role => ⟨owner, role, true⟩, closed)

/-- Replaces the record of a token that is still good. -/
def replace (m : Memory) (now : Instant) (record : RefreshRecord Nat) (old new : String)
    (expiresAt : Instant) (client : ClientInfo) : Outcome Rotation :=
  match m.roleOf record.user with
  | .error e => (.error e, m)
  | .ok role =>
    match m.insertRefresh now new record.user expiresAt client with
    | (.error e, m) => (.error e, m)
    | (.ok _, m) =>
      (.ok ⟨record.user, role, false⟩, { m with
        refresh := m.refresh.modify old fun r =>
          { r with revoked := true, replacedBy := some new, lastUsedAt := some now } })

/-- Presents the token with digest `old` for one with digest `new`. -/
def rotate (m : Memory) (now : Instant) (old new : String) (expiresAt : Instant)
    (client : ClientInfo) : Outcome Rotation :=
  match m.refresh.get? old with
  | none => (.error .invalidRefreshToken, m)
  | some record =>
    if record.revoked then m.contain record.user
    else if expired record.expiresAt now then (.error .invalidRefreshToken, m)
    else m.replace now record old new expiresAt client

/-! ## Password-reset tokens -/

/-- Keeps a new password-reset token. -/
def insertReset (m : Memory) (now : Instant) (digest : String) (user : Uuid)
    (expiresAt : Instant) : Outcome Unit :=
  if m.resets.contains digest then
    (.error (.internal "duplicate password reset digest"), m)
  else
    let record : ResetRecord :=
      { id := m.issued, user, digest, createdAt := now, expiresAt, used := false }
    (.ok (), { m with resets := m.resets.insert digest record, issued := m.issued + 1 })

/-- Uses up a password-reset token that is still good. -/
def consumeReset (m : Memory) (now : Instant) (digest : String) : Outcome Uuid :=
  match m.resets.get? digest with
  | none => (.error .invalidOrExpiredToken, m)
  | some record =>
    if record.used || expired record.expiresAt now then (.error .invalidOrExpiredToken, m)
    else
      (.ok record.user, { m with
        resets := m.resets.modify digest fun r => { r with used := true } })

/-! ## Calls -/

/-- Answers a call at a point in time. -/
def answer (m : Memory) (now : Instant) : (call : Call) → Outcome call.Reply
  | .insertRefresh digest user expiresAt client => m.insertRefresh now digest user expiresAt client
  | .rotate old new expiresAt client => m.rotate now old new expiresAt client
  | .revoke digest replacedBy => m.revoke digest replacedBy
  | .revokeAll user => (.ok (), m.revokeAll user)
  | .insertReset digest user expiresAt => m.insertReset now digest user expiresAt
  | .consumeReset digest => m.consumeReset now digest
  | .findByEmail email => (.ok (m.findByEmail email), m)
  | .findById user => (.ok (m.findById user), m)
  | .setPassword user hash => m.setPassword user hash

/-- What the store logs while it answers a call: that it closed the sessions of a user. -/
def events (m : Memory) (now : Instant) : Call → List Event
  | .rotate old new expiresAt client =>
    match (m.rotate now old new expiresAt client).1 with
    | .ok r => if r.reused then [.reuseContained r.user (m.countOpen r.user)] else []
    | .error _ => []
  | _ => []

end Memory

/-- The store in memory behind the service. -/
def Memory.backend : Backend Memory := fun call now m =>
  let (reply, after) := m.answer now call
  (reply, after, m.events now call)

end Gatehouse
