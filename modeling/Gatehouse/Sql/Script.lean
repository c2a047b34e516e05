/-
  Conversations with a database.

  A `Script` takes a connection from the pool and then sends statements one by one, where each may
  depend on the answers to those before.  Statements between `begin` and `commit` take effect
  together or not at all; `transaction` sees to it that a transaction which is not committed is
  rolled back.

  A database is anything that answers.  Running a script against one gives the outcome and the
  messages that were sent, in order.
-/
import Gatehouse.Error
import Gatehouse.Sql.Statement

namespace Gatehouse.Sql

/-- A conversation that gives an `α` in the end. -/
inductive Script (α : Type) : Type where
  /-- The end, with a value. -/
  | done (value : α)
  /-- Takes a connection from the pool. -/
  | acquire (next : Except DatabaseError Unit → Script α)
  /-- Opens a transaction. -/
  | begin (next : Except DatabaseError Unit → Script α)
  /-- Makes a transaction take effect. -/
  | commit (next : Except DatabaseError Unit → Script α)
  /-- Gives a transaction up. -/
  | rollback (next : Script α)
  /-- Sends a statement. -/
  | send (s : Statement) (next : Except DatabaseError s.Result → Script α)

namespace Script

variable {α β : Type}

/-- Goes on with `f` after the end. -/
def bind (f : α → Script β) : Script α → Script β
  | done a => f a
  | acquire next => acquire fun r => (next r).bind f
  | begin next => begin fun r => (next r).bind f
  | commit next => commit fun r => (next r).bind f
  | rollback next => rollback (next.bind f)
  | send s next => send s fun r => (next r).bind f

instance : Monad Script where
  pure := done
  bind p f := p.bind f

end Script

/-- A conversation that may fail. -/
abbrev Conversation (α : Type) : Type := ExceptT AuthError Script α

namespace Conversation

variable {α : Type}

/-- An answer of the database as an outcome: its errors are those of the store. -/
def ofAnswer (r : Except DatabaseError α) : Except AuthError α := r.mapError .persistence

/-- Sends a statement. -/
def send (s : Statement) : Conversation s.Result :=
  ExceptT.mk (.send s fun r => .done (ofAnswer r))

/-- Sends a statement and gives its first row, if there is one. -/
def first? (rows : Conversation (List α)) : Conversation (Option α) := List.head? <$> rows

/-- What a conversation in a transaction has come to: it is committed if all went well, and rolled
back if not, also when the commit itself fails. -/
def finish : Except AuthError α → Script (Except AuthError α)
  | .error e => .rollback (.done (.error e))
  | .ok a => .commit fun
    | .ok _ => .done (.ok a)
    | .error e => .rollback (.done (.error (.persistence e)))

/-- Carries a conversation out in a transaction. -/
def transaction (body : Conversation α) : Conversation α :=
  ExceptT.mk (.begin fun
    | .error e => .done (.error (.persistence e))
    | .ok _ => (ExceptT.run body).bind finish)

/-- Carries a conversation out on a connection from the pool. -/
def connected (body : Conversation α) : Conversation α :=
  ExceptT.mk (.acquire fun
    | .error e => .done (.error (.persistence e))
    | .ok _ => ExceptT.run body)

end Conversation

/-! ## Databases -/

/-- A message to the database. -/
inductive Message where
  | begin
  | commit
  | rollback
  | statement (s : Statement)
deriving DecidableEq, Repr

/-- How a database in a state of type `δ` answers. -/
structure Database (δ : Type) where
  /-- Whether a connection can be had. -/
  acquire : δ → Except DatabaseError Unit
  /-- Opens a transaction. -/
  begin : δ → Except DatabaseError Unit × δ
  /-- Makes a transaction take effect. -/
  commit : δ → Except DatabaseError Unit × δ
  /-- Gives a transaction up. -/
  rollback : δ → δ
  /-- Carries a statement out. -/
  execute : (s : Statement) → δ → Except DatabaseError s.Result × δ

variable {α δ : Type}

/-- Runs a script: its value, the state of the database after it, and the messages sent. -/
def Script.run (db : Database δ) : Script α → δ → α × δ × List Message
  | .done a, d => (a, d, [])
  | .acquire next, d => (next (db.acquire d)).run db d
  | .begin next, d =>
    let (r, d) := db.begin d
    let (a, d, sent) := (next r).run db d
    (a, d, .begin :: sent)
  | .commit next, d =>
    let (r, d) := db.commit d
    let (a, d, sent) := (next r).run db d
    (a, d, .commit :: sent)
  | .rollback next, d =>
    let (a, d, sent) := next.run db (db.rollback d)
    (a, d, .rollback :: sent)
  | .send s next, d =>
    let (r, d) := db.execute s d
    let (a, d, sent) := (next r).run db d
    (a, d, .statement s :: sent)

end Gatehouse.Sql
