/-
  Programs that need the world.

  The service needs the time, random bytes, a store and a log.  A `Flow` is a program that asks for
  them one by one, so what it does in which order is a plain value, and one function, `Flow.run`,
  says what each request means in a world.  Different stores, clocks and sources of randomness are
  different worlds for the same programs.  One of them has a store with an outage, which refuses
  some kinds of call, as a database does when no connection becomes free, and leaves everything as
  it was.

  A flow may also be abandoned, when date arithmetic leaves the calendar.  Nothing is given back
  then, not even an error.
-/
import Gatehouse.Event
import Gatehouse.Store.Call

namespace Gatehouse

/-- A program that asks the world for what it needs and gives an `α` in the end. -/
inductive Flow (α : Type) : Type where
  /-- The end, with a value. -/
  | done (value : α)
  /-- The end without a value: a date is out of the calendar. -/
  | abort
  /-- Asks for the time. -/
  | clock (next : Instant → Flow α)
  /-- Asks for random bytes for a secret. -/
  | draw (n : Nat) (next : Except String (Vector UInt8 n) → Flow α)
  /-- Asks for the salt of a password hash. -/
  | salt (next : Except String (Vector UInt8 16) → Flow α)
  /-- Writes to the log. -/
  | emit (event : Event) (next : Flow α)
  /-- Asks the store. -/
  | store (call : Call) (next : Except AuthError call.Reply → Flow α)

namespace Flow

variable {α β : Type}

/-- Goes on with `f` after the end. -/
def bind (f : α → Flow β) : Flow α → Flow β
  | done a => f a
  | abort => abort
  | clock next => clock fun t => (next t).bind f
  | draw n next => draw n fun r => (next r).bind f
  | salt next => salt fun r => (next r).bind f
  | emit e next => emit e (next.bind f)
  | store c next => store c fun r => (next r).bind f

instance : Monad Flow where
  pure := done
  bind p f := p.bind f

end Flow

/-- A flow that may fail. -/
abbrev Program (α : Type) : Type := ExceptT AuthError Flow α

namespace Program

variable {α : Type}

/-- The time. -/
def now : Program Instant := ExceptT.lift (.clock .done)

/-- Writes to the log. -/
def log (e : Event) : Program Unit := ExceptT.lift (.emit e (.done ()))

/-- Random bytes for a secret, or what went wrong. -/
def draw (n : Nat) : Program (Except String (Vector UInt8 n)) := ExceptT.lift (.draw n .done)

/-- The salt of a password hash, or what went wrong. -/
def salt : Program (Except String (Vector UInt8 16)) := ExceptT.lift (.salt .done)

/-- Asks the store; its error is the program's. -/
def ask (call : Call) : Program call.Reply := ExceptT.mk (.store call .done)

/-- The value, or the end of the program if there is none. -/
def orAbort : Option α → Program α
  | some a => pure a
  | none => ExceptT.lift .abort

/-- The outcome of a program, as a value. -/
def outcome (p : Program α) : Program (Except AuthError α) := ExceptT.lift p

end Program

/-! ## Worlds -/

/-- A source of random bytes. -/
structure Entropy where
  /-- The bytes of the secret with this number, or what went wrong. -/
  secret : Nat → (n : Nat) → Except String (Vector UInt8 n)
  /-- The salt of a password hash, or what went wrong. -/
  salt : Except String (Vector UInt8 16)

/-- How a store of type `σ` answers calls: the reply, the store after it, and what it logs. -/
abbrev Backend (σ : Type) : Type :=
  (call : Call) → Instant → σ → Except AuthError call.Reply × σ × List Event

/-- A store that refuses the calls for which `down` holds. -/
def Backend.withOutage {σ : Type} (backend : Backend σ) (down : Call → Bool) : Backend σ :=
  fun call now store =>
    if down call then (.error (.persistence .poolTimedOut), store, []) else backend call now store

/-- What a flow runs in. -/
structure World (σ : Type) where
  /-- The time. -/
  now : Instant
  /-- The source of random bytes. -/
  entropy : Entropy
  /-- The number of secrets drawn so far. -/
  drawn : Nat := 0
  /-- The store. -/
  store : σ
  /-- What was logged. -/
  log : List Event := []

variable {σ α : Type}

/-- Runs a flow to its end; there is no result if it is abandoned. -/
def Flow.run (backend : Backend σ) : Flow α → World σ → Option (α × World σ)
  | .done a, w => some (a, w)
  | .abort, _ => none
  | .clock next, w => (next w.now).run backend w
  | .draw n next, w =>
    match w.entropy.secret (w.drawn + 1) n with
    | .ok bytes => (next (.ok bytes)).run backend { w with drawn := w.drawn + 1 }
    | .error e => (next (.error e)).run backend w
  | .salt next, w => (next w.entropy.salt).run backend w
  | .emit e next, w => next.run backend { w with log := w.log ++ [e] }
  | .store call next, w =>
    let (reply, after, events) := backend call w.now w.store
    (next reply).run backend { w with store := after, log := w.log ++ events }

/-- Runs a program to its end. -/
def Program.run (backend : Backend σ) (p : Program α) (w : World σ) :
    Option (Except AuthError α × World σ) :=
  Flow.run backend (ExceptT.run p) w

end Gatehouse
