/-
  A limit on how often a client may call a route.

  For each route and client the limiter keeps the times of the requests it accepted.  A request is
  accepted when fewer than the limit of them lie within the last minute.  Times that no longer count
  are dropped when their client comes again; a sweep drops the rest, and the clients for which
  nothing is left.  The sweep may run in the background at a fixed period.

  Times are those of a clock that never goes back.
-/
import Gatehouse.Clock
import Gatehouse.Event
import Gatehouse.Store.Table

namespace Gatehouse

/-- How long an accepted request counts: a minute. -/
def rateWindow : Int := 60 * 1000

/-- How long a sweep keeps the time of a request: two minutes. -/
def sweepRetention : Int := 120 * 1000

/-- The period of the background sweep if none is chosen, in milliseconds: five minutes. -/
def defaultSweepPeriod : Nat := 300 * 1000

/-- The background sweep. -/
structure Sweeper where
  /-- Its period in milliseconds. -/
  period : Nat
  /-- When it runs next. -/
  next : Instant
deriving DecidableEq, Repr

/-- The times of accepted requests for each route and client. -/
structure RateLimiter where
  /-- The times, oldest first, for each client of each route. -/
  windows : Table String (Table String (List Instant)) := ∅
  /-- The background sweep, if it is running. -/
  sweeper : Option Sweeper := none
deriving DecidableEq, Repr

namespace RateLimiter

/-- The times that are less than `span` old. -/
def recent (span : Int) (now : Instant) (times : List Instant) : List Instant :=
  times.filter fun t => now - span < t

/-- The times kept for a client of a route. -/
def timesOf (l : RateLimiter) (route client : String) : List Instant :=
  ((l.windows.get? route).bind (·.get? client)).getD []

/-- Replaces the times kept for a client of a route. -/
def setTimes (l : RateLimiter) (route client : String) (times : List Instant) : RateLimiter :=
  { l with
    windows := l.windows.insert route (((l.windows.get? route).getD ∅).insert client times) }

/-- Decides on a request of a client to a route. -/
def allow (l : RateLimiter) (client route : String) (limit : Nat) (now : Instant) :
    Bool × RateLimiter :=
  let times := recent rateWindow now (l.timesOf route client)
  if times.length < limit then (true, l.setTimes route client (times ++ [now]))
  else (false, l.setTimes route client times)

/-- The number of clients, counted once for each route. -/
def trackedKeys (l : RateLimiter) : Nat :=
  l.windows.values.foldr (fun clients n => clients.size + n) 0

/-- What a sweep leaves of the times of a client. -/
def sweepTimes (now : Instant) (times : List Instant) : Option (List Instant) :=
  let times := recent sweepRetention now times
  if times.isEmpty then none else some times

/-- What a sweep leaves of the clients of a route. -/
def sweepClients (now : Instant) (clients : Table String (List Instant)) :
    Option (Table String (List Instant)) :=
  let clients := clients.filterMap (sweepTimes now)
  if clients.entries.isEmpty then none else some clients

/-- The number of clients of a route of which a sweep leaves nothing. -/
def staleClients (now : Instant) (clients : Table String (List Instant)) : Nat :=
  clients.values.countP fun times => (sweepTimes now times).isNone

/-- Drops what is out of date, and counts the clients dropped. -/
def sweep (l : RateLimiter) (now : Instant) : Nat × RateLimiter :=
  (l.windows.values.foldr (fun clients n => staleClients now clients + n) 0,
    { l with windows := l.windows.filterMap (sweepClients now) })

/-! ## The background sweep -/

/-- A limiter that sweeps in the background with this period. -/
def start (period : Nat) (now : Instant) : RateLimiter × List Event :=
  ({ sweeper := some ⟨period, now + period⟩ }, [.sweeperStarted (period / 1000)])

/-- Tells whether the limiter sweeps in the background. -/
def isSweeping (l : RateLimiter) : Bool := l.sweeper.isSome

/-- Sweeps so many times, at every period from `next` on. -/
def sweepTicks (period : Nat) : Nat → Instant → RateLimiter → RateLimiter × List Event
  | 0, _, l => (l, [])
  | n + 1, next, l =>
    let (removed, swept) := l.sweep next
    let (last, events) := sweepTicks period n (next + period) swept
    (last, .swept removed swept.trackedKeys :: events)

/-- The number of times that the sweep is due up to a point in time. -/
def Sweeper.due (s : Sweeper) (now : Instant) : Nat :=
  if now < s.next then 0 else ((now - s.next) / s.period).toNat + 1

/-- Runs the background sweep up to a point in time, each time at its own time. -/
def advance (l : RateLimiter) (now : Instant) : RateLimiter × List Event :=
  match l.sweeper with
  | none => (l, [])
  | some s =>
    let n := Sweeper.due s now
    let (swept, events) := sweepTicks s.period n s.next l
    ({ swept with sweeper := some { s with next := s.next + n * s.period } }, events)

/-- Stops the background sweep. -/
def shutdown (l : RateLimiter) : RateLimiter × List Event :=
  match l.sweeper with
  | none => (l, [])
  | some _ => ({ l with sweeper := none }, [.sweeperExited, .limiterStopped])

end RateLimiter

end Gatehouse
