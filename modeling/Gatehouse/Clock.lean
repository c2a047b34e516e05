/-
  Points in time, and the calendar that bounds them.

  A point in time is a whole number of milliseconds since the start of 1970, and a duration is a
  number of them too.  Sums of a point and a duration are taken inside the calendar, which ends with
  the year 262142 on one side and with -262143 on the other: a sum beyond it has no value, and
  neither has a duration of more than 2 ^ 63 - 1 milliseconds.  Both limits are far from any real
  date, but settings can reach them.  A clock cannot: it counts nanoseconds in sixty-four bits, so
  that what it shows lies between the years 1677 and 2262.
-/

namespace Gatehouse

/-- A point in time: milliseconds since the start of 1970, negative before it. -/
abbrev Instant := Int

/-- A duration in milliseconds. -/
abbrev Duration := Int

/-- What a clock shows that has counted so many nanoseconds since the start of 1970. -/
def Instant.ofNanoseconds (n : Int64) : Instant := Int.fdiv n.toInt 1000000

/-- The whole seconds of a point in time, rounded down. -/
def Instant.seconds (t : Instant) : Int := Int.fdiv t 1000

/-- The whole seconds of a duration, rounded towards zero. -/
def Duration.seconds (d : Duration) : Int := Int.tdiv d 1000

/-- The first second of the calendar. -/
def calendarStart : Int := -8334601228800

/-- The last second of the calendar. -/
def calendarEnd : Int := 8210266876799

/-- Tells whether a point in time has a date. -/
def Instant.inCalendar (t : Instant) : Bool :=
  calendarStart ≤ t.seconds && t.seconds ≤ calendarEnd

/-- The greatest number of milliseconds that a duration may have in either direction. -/
def maxDuration : Nat := 0x7fffffffffffffff

/-- A duration of so many seconds, if it is not too long. -/
def duration? (seconds : Int) : Option Duration :=
  if (seconds * 1000).natAbs ≤ maxDuration then some (seconds * 1000) else none

/-- A duration of whole hours. -/
def hours? (n : Int) : Option Duration := duration? (n * 3600)

/-- A duration of whole days. -/
def days? (n : Int) : Option Duration := duration? (n * 86400)

/-- The point in time that lies `d` after `t`, if the calendar has it. -/
def Instant.plus? (t : Instant) (d : Duration) : Option Instant :=
  let sum : Instant := t + d
  if sum.inCalendar then some sum else none

theorem Instant.seconds_eq_ediv (t : Instant) : t.seconds = t / 1000 :=
  Int.fdiv_eq_ediv_of_nonneg t (show (0 : Int) ≤ 1000 by decide)

/-- Whole seconds are added to the second of a point in time. -/
theorem Instant.seconds_add (t : Instant) (n : Int) :
    Instant.seconds (t + n * 1000) = t.seconds + n := by
  simp only [Instant.seconds_eq_ediv]
  omega

theorem Instant.seconds_mono {t u : Instant} (h : t ≤ u) : t.seconds ≤ u.seconds := by
  simp only [Instant.seconds_eq_ediv]
  exact Int.ediv_le_ediv (by decide) h

theorem Instant.seconds_nonneg {t : Instant} (h : (0 : Int) ≤ t) : 0 ≤ t.seconds :=
  Instant.seconds_mono h

/-- A clock shows no time beyond 2 ^ 63 nanoseconds on either side of 1970. -/
theorem Instant.natAbs_ofNanoseconds_le (n : Int64) :
    (Instant.ofNanoseconds n).natAbs ≤ 9223372036855 := by
  have hlow : -2 ^ 63 ≤ n.toInt := n.le_toInt
  have hhigh : n.toInt < 2 ^ 63 := n.toInt_lt
  have hdiv : Instant.ofNanoseconds n = n.toInt / 1000000 :=
    Int.fdiv_eq_ediv_of_nonneg n.toInt (show (0 : Int) ≤ 1000000 by decide)
  rw [hdiv]
  omega

/-- A sum is found exactly when it lies in the calendar, and then it is the plain sum. -/
theorem Instant.plus?_eq_some_iff {t u : Instant} {d : Duration} :
    t.plus? d = some u ↔ u = t + d ∧ Instant.inCalendar (t + d) = true := by
  by_cases h : Instant.inCalendar (t + d) = true
  · simp only [Instant.plus?, h, if_true, Option.some.injEq, and_true]
    exact eq_comm
  · simp [Instant.plus?, h]

end Gatehouse
