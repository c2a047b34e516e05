/-
  The times that a limiter keeps.

  A request and a sweep both throw times away, with two different windows.  What they leave is seen
  here one client of one route at a time, through `tracked?` where it matters whether the limiter
  keeps the client at all, and else through `timesOf`: a request changes the times of its own client
  and route (`timesOf_allow`), and a sweep cuts those of all (`timesOf_sweep`), also where it removes
  the client or the whole route, for then there are no times left.

  A time that was thrown away is never missed later, because the clock does not go back
  (`recent_recent`): what is out of one window now is out of every later window that is no longer.
-/
import Gatehouse.Proofs.Store.Table
import Gatehouse.RateLimit

namespace Gatehouse.RateLimiter

/-! ## Recent times -/

@[simp] theorem recent_nil (span : Int) (now : Instant) : recent span now [] = [] := rfl

/-- Which times are recent is asked of each of them alone. -/
theorem recent_append (span : Int) (now : Instant) (times more : List Instant) :
    recent span now (times ++ more) = recent span now times ++ recent span now more :=
  List.filter_append times more

/-- **Nothing that is thrown away is missed later**: a cut before another one changes nothing, if it
lies no later. -/
theorem recent_recent {wide narrow : Int} {now later : Instant}
    (h : now - wide ≤ later - narrow) (times : List Instant) :
    recent narrow later (recent wide now times) = recent narrow later times := by
  unfold recent
  rw [List.filter_filter]
  refine List.filter_congr fun t _ => ?_
  by_cases ht : later - narrow < t
  · have hwide : now - wide < t := Int.lt_of_le_of_lt h ht
    simp only [ht, hwide, decide_true, Bool.and_self]
  · simp only [ht, decide_false, Bool.false_and]

/-- A clock with a first moment cannot look back beyond it.  A window that would begin before that
moment has no beginning, and every time lies in it; `recent` need not tell such windows apart. -/
theorem recent_of_origin {origin : Instant} {times : List Instant} (h : ∀ t ∈ times, origin ≤ t)
    (span : Int) (now : Instant) :
    recent span now times =
      if now - span < origin then times else times.filter fun t => now - span < t := by
  split
  · rename_i hstart
    refine List.filter_eq_self.2 fun t ht => decide_eq_true ?_
    exact Int.lt_of_lt_of_le hstart (h t ht)
  · rfl

/-! ## What is kept of a client -/

/-- The times kept for a client of a route, if the limiter keeps the client there at all. -/
def tracked? (l : RateLimiter) (route client : String) : Option (List Instant) :=
  (l.windows.get? route).bind (·.get? client)

theorem timesOf_eq (l : RateLimiter) (route client : String) :
    l.timesOf route client = (l.tracked? route client).getD [] := rfl

/-- The background sweep has no part in what is kept. -/
theorem tracked?_congr {l l' : RateLimiter} (h : l'.windows = l.windows) (route client : String) :
    l'.tracked? route client = l.tracked? route client := by
  rw [tracked?, tracked?, h]

/-- A limiter that has accepted nothing tracks nobody. -/
theorem tracked?_of_fresh {l : RateLimiter} (h : l.windows = ∅) (route client : String) :
    l.tracked? route client = none := by
  rw [tracked?, h, Table.get?_empty, Option.bind_none]

/-! ## What a request leaves -/

/-- To note times for one client on one route changes nothing for the others. -/
theorem tracked?_setTimes (l : RateLimiter) (route client : String) (times : List Instant)
    (r c : String) :
    (l.setTimes route client times).tracked? r c =
      if r = route ∧ c = client then some times else l.tracked? r c := by
  by_cases hr : r = route
  · subst hr
    by_cases hc : c = client
    · simp [tracked?, setTimes, hc]
    · cases hget : l.windows.get? r <;> simp [tracked?, setTimes, hc, hget]
  · simp [tracked?, setTimes, hr]

/-- A request is accepted exactly if fewer than the limit were accepted in the last minute. -/
theorem allow_fst (l : RateLimiter) (client route : String) (limit : Nat) (now : Instant) :
    (l.allow client route limit now).1 =
      decide ((recent rateWindow now (l.timesOf route client)).length < limit) := by
  by_cases h : (recent rateWindow now (l.timesOf route client)).length < limit
  · simp only [allow, h, if_true, decide_true]
  · simp only [allow, h, if_false, decide_false]

/-- A request keeps of its own times those that count, and its own if it is accepted. -/
theorem allow_snd (l : RateLimiter) (client route : String) (limit : Nat) (now : Instant) :
    (l.allow client route limit now).2 =
      l.setTimes route client (recent rateWindow now (l.timesOf route client) ++
        if (l.allow client route limit now).1 then [now] else []) := by
  rw [allow_fst]
  by_cases h : (recent rateWindow now (l.timesOf route client)).length < limit
  · simp only [allow, h, decide_true, if_true]
  · simp only [allow, h, decide_false, Bool.false_eq_true, if_false, List.append_nil]

/-- What is tracked after a decision: of the one client the recent times, with the new one if it was
accepted, and of the others what was tracked before. -/
theorem tracked?_allow (l : RateLimiter) (client route : String) (limit : Nat) (now : Instant)
    (r c : String) :
    (l.allow client route limit now).2.tracked? r c =
      if r = route ∧ c = client then
        some (recent rateWindow now (l.timesOf route client) ++
          if (l.allow client route limit now).1 then [now] else [])
      else l.tracked? r c := by
  rw [allow_snd, tracked?_setTimes]

theorem timesOf_allow (l : RateLimiter) (client route : String) (limit : Nat) (now : Instant)
    (r c : String) :
    (l.allow client route limit now).2.timesOf r c =
      if r = route ∧ c = client then
        recent rateWindow now (l.timesOf route client) ++
          if (l.allow client route limit now).1 then [now] else []
      else l.timesOf r c := by
  rw [timesOf_eq, tracked?_allow]
  split
  · rfl
  · rfl

/-! ## What a sweep leaves -/

/-- A client that a sweep removes from a route has no times left, so it makes no difference whether
the whole route goes. -/
theorem bind_sweepClients (now : Instant) (clients : Table String (List Instant))
    (client : String) :
    (sweepClients now clients).bind (·.get? client) =
      (clients.get? client).bind (sweepTimes now) := by
  simp only [sweepClients, ← Table.get?_filterMap]
  split
  · rename_i hempty
    have hnone : (clients.filterMap (sweepTimes now)).entries = [] := List.isEmpty_iff.1 hempty
    simp [Table.get?, hnone, Table.lookup]
  · rfl

/-- A sweep cuts the times of every client of every route, and drops those that have none left. -/
theorem tracked?_sweep (l : RateLimiter) (now : Instant) (route client : String) :
    (l.sweep now).2.tracked? route client = (l.tracked? route client).bind (sweepTimes now) := by
  simp only [sweep, tracked?, Table.get?_filterMap]
  rw [Option.bind_assoc, Option.bind_assoc]
  simp only [bind_sweepClients]

theorem getD_sweepTimes (now : Instant) (times : Option (List Instant)) :
    (times.bind (sweepTimes now)).getD [] = recent sweepRetention now (times.getD []) := by
  cases times with
  | none => rfl
  | some times =>
    simp only [Option.bind_some, Option.getD_some, sweepTimes]
    split
    · rename_i hempty
      exact (List.isEmpty_iff.1 hempty).symm
    · rfl

/-- A sweep drops old times only. -/
theorem timesOf_sweep (l : RateLimiter) (now : Instant) (route client : String) :
    (l.sweep now).2.timesOf route client =
      recent sweepRetention now (l.timesOf route client) := by
  rw [timesOf_eq, tracked?_sweep, getD_sweepTimes, timesOf_eq]

end Gatehouse.RateLimiter
