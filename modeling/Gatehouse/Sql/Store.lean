/-
  The store in a database.

  Every call of the store is a conversation with the database.  Replacing a refresh token and using
  up a reset token read a record before they change it, so they lock it and run in a transaction;
  the other calls are one statement each.
-/
import Gatehouse.Flow
import Gatehouse.Sql.Script

namespace Gatehouse.Sql

/-! ## Conversations -/

/-- Looks for the role of a user who owns a token. -/
def fetchRole (user : Uuid) : Conversation String := do
  match ← (Conversation.send (.roleOf user)).first? with
  | some role => return role
  | none => throw .invalidRefreshToken

/-- Closes all sessions of the owner of a token that was used before; counts them. -/
def containReuse (user : Uuid) : Conversation (Rotation × List Event) := do
  let revoked ← Conversation.send (.revokeUser user)
  let role ← fetchRole user
  return (⟨user, role, true⟩, [.reuseContained user revoked])

/-- Replaces the locked record of a token that is still good. -/
def replaceLocked (user : Uuid) (old new : String) (expiresAt : Instant) (client : ClientInfo) :
    Conversation (Rotation × List Event) := do
  let _ ← Conversation.send (.insertRefresh user new expiresAt client)
  let _ ← Conversation.send (.markReplaced old new)
  let role ← fetchRole user
  return (⟨user, role, false⟩, [])

/-- What is done inside the transaction that replaces a refresh token. -/
def rotateLocked (old new : String) (expiresAt : Instant) (client : ClientInfo) :
    Conversation (Rotation × List Event) := do
  match ← (Conversation.send (.lockRefresh old)).first? with
  | none => throw .invalidRefreshToken
  | some row =>
    if row.revoked then containReuse row.user
    else if row.expired then throw .invalidRefreshToken
    else replaceLocked row.user old new expiresAt client

/-- What is done inside the transaction that uses up a reset token. -/
def consumeLocked (digest : String) : Conversation Uuid := do
  match ← (Conversation.send (.lockReset digest)).first? with
  | none => throw .invalidOrExpiredToken
  | some user =>
    let _ ← Conversation.send (.markUsed digest)
    return user

/-- The conversation for a call, with what is to be logged once it has succeeded. -/
def conversation : (call : Call) → Conversation (call.Reply × List Event)
  | .insertRefresh digest user expiresAt client => do
    let _ ← Conversation.send (.insertRefresh user digest expiresAt client)
    return ((), [])
  | .rotate old new expiresAt client =>
    Conversation.transaction (rotateLocked old new expiresAt client)
  | .revoke digest replacedBy => do
    if (← Conversation.send (.revokeOne digest replacedBy)) = 0 then throw .invalidRefreshToken
    return ((), [])
  | .revokeAll user => do
    let revoked ← Conversation.send (.revokeUser user)
    return ((), [.sessionsClosed user revoked])
  | .insertReset digest user expiresAt => do
    let _ ← Conversation.send (.insertReset user digest expiresAt)
    return ((), [])
  | .consumeReset digest => do
    return (← Conversation.transaction (consumeLocked digest), [])
  | .findByEmail email => do
    return (← (Conversation.send (.findByEmail (Text.trim email))).first?, [])
  | .findById user => do
    let account ← (Conversation.send (.findById user)).first?
    return (account.map (·.user), [])
  | .setPassword user hash => do
    if (← Conversation.send (.setPassword user hash)) = 0 then throw (.persistence .rowNotFound)
    return ((), [])

/-- Looks for a refresh record. -/
def findRefresh (digest : String) : Conversation (Option (RefreshRecord Uuid)) :=
  Conversation.connected (Conversation.send (.findRefresh digest)).first?

/-- Registers a user. -/
def createUser (email : String) (name : Option String) (hash role : String) : Conversation Uuid :=
  Conversation.connected do
    match ← (Conversation.send (.createUser (Text.trim email) name hash role)).first? with
    | some user => return user
    | none => throw (.persistence .rowNotFound)

/-! ## The store -/

/-- A database and the messages sent to it so far. -/
structure Store (δ : Type) where
  /-- The state of the database. -/
  state : δ
  /-- The messages, in order. -/
  sent : List Message := []

variable {α δ : Type}

/-- Carries a conversation out. -/
def Store.run (db : Database δ) (c : Conversation α) (s : Store δ) : Except AuthError α × Store δ :=
  let (r, state, sent) := Script.run db (ExceptT.run c) s.state
  (r, ⟨state, s.sent ++ sent⟩)

/-- The store in a database behind the service. -/
def backend (db : Database δ) : Backend (Store δ) := fun call _ s =>
  match Store.run db (Conversation.connected (conversation call)) s with
  | (.ok (reply, events), s) => (.ok reply, s, events)
  | (.error e, s) => (.error e, s, [])

end Gatehouse.Sql
