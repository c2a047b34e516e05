/-
  The memory of a limiter follows its traffic.

  A limiter that sweeps in the background keeps a client of a route only while the client is active
  there: for as long as a request counts for the sweep, and then until the sweep comes by.  This is
  told for a whole run, of requests, of sweeps that somebody asks for, and of time that passes, in
  any order.

  Two invariants carry it.  One says what is kept of a client that is tracked (`Remembers`): the
  latest of its accepted requests, and never none.  The other says how old these may be (`Young`):
  `since` is the time at which the background sweep was last due, and what has been left since then
  by a sweep or a request was recent at that time.

  The first holds whatever the time of a sweep, so it covers the states between two ticks of the
  background sweep as well.
-/
import Gatehouse.Proofs.RateLimit.Ledger
import Gatehouse.Proofs.RateLimit.Sweep

namespace Gatehouse.RateLimiter

/-! ## Runs in time -/

/-- What comes about for a limiter. -/
inductive Turn where
  /-- Something is asked of it. -/
  | call (act : Act)
  /-- Time has passed, and the background sweep has run as often as it was due. -/
  | wait (now : Instant)
deriving DecidableEq, Repr

/-- The time of a turn. -/
def Turn.now : Turn → Instant
  | .call act => act.now
  | .wait now => now

/-- The limit of a request is at least one, and not more than `most`. -/
def Turn.Limited (most : Nat) : Turn → Prop
  | .call (.allow _ _ limit _) => 1 ≤ limit ∧ limit ≤ most
  | .call (.sweep _) => True
  | .wait _ => True

instance (most : Nat) : DecidablePred (Turn.Limited most)
  | .call (.allow _ _ limit _) => inferInstanceAs (Decidable (1 ≤ limit ∧ limit ≤ most))
  | .call (.sweep _) => inferInstanceAs (Decidable True)
  | .wait _ => inferInstanceAs (Decidable True)

/-- The turns come in the order of time, none before `start` and none after `last`. -/
def Timely (start : Instant) (turns : List Turn) (last : Instant) : Prop :=
  (start :: (turns.map Turn.now ++ [last])).IsChain (· ≤ ·)

instance (start : Instant) (turns : List Turn) (last : Instant) :
    Decidable (Timely start turns last) :=
  inferInstanceAs (Decidable (List.IsChain (· ≤ ·) _))

theorem timely_nil {start last : Instant} : Timely start [] last ↔ start ≤ last := by
  simp [Timely]

theorem timely_cons {start last : Instant} {t : Turn} {turns : List Turn} :
    Timely start (t :: turns) last ↔ start ≤ t.now ∧ Timely t.now turns last :=
  List.isChain_cons_cons

/-- The limiter after a turn. -/
def turn (l : RateLimiter) : Turn → RateLimiter
  | .call act => (l.step act).2
  | .wait now => (l.advance now).1

/-- The limiter after a list of turns. -/
def through (l : RateLimiter) (turns : List Turn) : RateLimiter := turns.foldl turn l

/-- The times of accepted requests, by route and client, oldest first. -/
abbrev Log := String → String → List Instant

/-- Tells whether a turn is a request of the client to the route that is accepted. -/
def accepts (l : RateLimiter) (route client : String) : Turn → Bool
  | .call (.allow c r limit now) =>
    decide (route = r ∧ client = c) && (l.allow c r limit now).1
  | .call (.sweep _) => false
  | .wait _ => false

/-- A log with what is accepted in a turn. -/
def note (l : RateLimiter) (log : Log) (t : Turn) : Log := fun route client =>
  log route client ++ if l.accepts route client t then [t.now] else []

/-- A log with what is accepted on a list of turns. -/
def noteAll : RateLimiter → Log → List Turn → Log
  | _, log, [] => log
  | l, log, t :: turns => (l.turn t).noteAll (l.note log t) turns

/-- All requests that are accepted on a list of turns. -/
def accepted (l : RateLimiter) (turns : List Turn) : Log := l.noteAll (fun _ _ => []) turns

/-! ## What is kept -/

/-- `Remembers most now l log` — what is kept of every client that is tracked, where `log` has all
requests accepted up to `now`. -/
structure Remembers (most : Nat) (now : Instant) (l : RateLimiter) (log : Log) : Prop where
  /-- Nothing was accepted later than now. -/
  past : ∀ {route client t}, t ∈ log route client → t ≤ now
  /-- The log is in the order of time. -/
  ordered : ∀ route client, (log route client).Pairwise (· ≤ ·)
  /-- What is kept are the latest requests. -/
  latest : ∀ {route client times}, l.tracked? route client = some times →
    times <:+ log route client
  /-- Something is kept. -/
  kept : ∀ {route client times}, l.tracked? route client = some times → times ≠ []
  /-- No more is kept than the greatest limit. -/
  few : ∀ {route client times}, l.tracked? route client = some times → times.length ≤ most
  /-- Every route has a client. -/
  visited : ∀ {route clients}, l.windows.get? route = some clients → 0 < clients.size

variable {most : Nat} {now later : Instant} {l l' : RateLimiter} {log : Log}

/-- A limiter that has accepted nothing yet. -/
theorem Remembers.of_fresh (h : l.windows = ∅) : Remembers most now l fun _ _ => [] := by
  have hnone {route client : String} {times : List Instant} :
      l.tracked? route client ≠ some times := by
    rw [tracked?_of_fresh h]
    exact (Option.some_ne_none times).symm
  refine ⟨?_, ?_, ?_, ?_, ?_, ?_⟩
  · intro route client t ht
    cases ht
  · exact fun _ _ => List.Pairwise.nil
  · exact fun ht => absurd ht hnone
  · exact fun ht => absurd ht hnone
  · exact fun ht => absurd ht hnone
  · intro route clients hget
    rw [h, Table.get?_empty] at hget
    cases hget

theorem Remembers.mono (h : Remembers most now l log) (hle : now ≤ later) :
    Remembers most later l log :=
  { h with past := fun ht => Int.le_trans (h.past ht) hle }

/-- When the background sweep runs is of no account. -/
theorem Remembers.of_windows (h : Remembers most now l log) (hsame : l'.windows = l.windows) :
    Remembers most now l' log := by
  refine ⟨h.past, h.ordered, ?_, ?_, ?_, ?_⟩
  · exact fun ht => h.latest (tracked?_congr hsame _ _ ▸ ht)
  · exact fun ht => h.kept (tracked?_congr hsame _ _ ▸ ht)
  · exact fun ht => h.few (tracked?_congr hsame _ _ ▸ ht)
  · exact fun hget => h.visited (hsame ▸ hget)

/-- **A sweep keeps the invariant**, at whatever time. -/
theorem Remembers.sweep (h : Remembers most now l log) (t : Instant) :
    Remembers most now (l.sweep t).2 log := by
  have hleft {route client : String} {left : List Instant}
      (hl : (l.sweep t).2.tracked? route client = some left) :
      ∃ times, l.tracked? route client = some times ∧ left <:+ times ∧ left ≠ [] := by
    rw [tracked?_sweep, Option.bind_eq_some_iff] at hl
    obtain ⟨times, htracked, htimes⟩ := hl
    obtain ⟨rfl, hne⟩ := sweepTimes_eq_some_iff.1 htimes
    have hordered : times.Pairwise (· ≤ ·) :=
      (h.ordered route client).sublist (h.latest htracked).sublist
    exact ⟨times, htracked, recent_suffix hordered sweepRetention t, hne⟩
  refine ⟨h.past, h.ordered, ?_, ?_, ?_, ?_⟩
  · intro route client left hl
    obtain ⟨times, htracked, hsuffix, -⟩ := hleft hl
    exact hsuffix.trans (h.latest htracked)
  · intro route client left hl
    obtain ⟨_, _, _, hne⟩ := hleft hl
    exact hne
  · intro route client left hl
    obtain ⟨times, htracked, hsuffix, -⟩ := hleft hl
    exact Nat.le_trans hsuffix.length_le (h.few htracked)
  · intro route clients hget
    have hget : (l.windows.get? route).bind (sweepClients t) = some clients := by
      rwa [← Table.get?_filterMap]
    obtain ⟨before, -, hbefore⟩ := Option.bind_eq_some_iff.1 hget
    rcases sweepClients_eq_none_or t before with ⟨hgone, -⟩ | ⟨hsome, hsize⟩
    · rw [hgone] at hbefore
      cases hbefore
    · rw [hsome] at hbefore
      cases hbefore
      exact hsize

/-- Whoever puts times down for a client leaves a route with a client. -/
theorem size_pos_setTimes {route client : String} {times : List Instant}
    (h : ∀ {r clients}, l.windows.get? r = some clients → 0 < clients.size)
    {r : String} {clients : Table String (List Instant)}
    (hget : (l.setTimes route client times).windows.get? r = some clients) : 0 < clients.size := by
  rw [setTimes, Table.get?_insert] at hget
  split at hget
  · cases hget
    exact Table.size_pos_of_get? (Table.get?_insert_self _ client times)
  · exact h hget

/-- The log stays in the order of time, whatever comes about. -/
theorem Remembers.note (h : Remembers most now l log) {t : Turn} (hle : now ≤ t.now)
    (route client : String) :
    (∀ s ∈ l.note log t route client, s ≤ t.now) ∧
      (l.note log t route client).Pairwise (· ≤ ·) := by
  have hpast : ∀ s ∈ log route client, s ≤ t.now := fun s hs => Int.le_trans (h.past hs) hle
  unfold RateLimiter.note
  split
  · refine ⟨?_, ?_⟩
    · intro s hs
      rcases List.mem_append.1 hs with hs | hs
      · exact hpast s hs
      · exact Int.le_of_eq (List.mem_singleton.1 hs)
    · refine List.pairwise_append.2 ⟨h.ordered route client, List.pairwise_singleton .., ?_⟩
      intro s hs s' hs'
      rw [List.mem_singleton.1 hs']
      exact hpast s hs
  · rw [List.append_nil]
    exact ⟨hpast, h.ordered route client⟩

theorem Remembers.timesOf (h : Remembers most now l log) (route client : String) :
    l.timesOf route client <:+ log route client ∧ (l.timesOf route client).length ≤ most := by
  rw [timesOf_eq]
  cases htracked : l.tracked? route client with
  | none => exact ⟨List.nil_suffix, Nat.zero_le most⟩
  | some times => exact ⟨h.latest htracked, h.few htracked⟩

/-- What a request leaves of its own client: it is denied only where as many times count as the
limit says. -/
theorem Remembers.tracked?_allow_self (h : Remembers most now l log) {client route : String}
    {limit : Nat} (hlimit : 1 ≤ limit) (hmost : limit ≤ most) {times : List Instant}
    (ht : (l.allow client route limit later).2.tracked? route client = some times) :
    times <:+ l.note log (.call (.allow client route limit later)) route client ∧
      times ≠ [] ∧ times.length ≤ most := by
  obtain ⟨hlatest, hfew⟩ := h.timesOf route client
  have hcut : recent rateWindow later (l.timesOf route client) <:+ l.timesOf route client :=
    recent_suffix ((h.ordered route client).sublist hlatest.sublist) rateWindow later
  obtain ⟨older, holder⟩ := hcut.trans hlatest
  have hdecision := l.allow_fst client route limit later
  have haccepts : l.accepts route client (.call (.allow client route limit later)) =
      (l.allow client route limit later).1 := by simp [accepts]
  rw [tracked?_allow, if_pos ⟨rfl, rfl⟩] at ht
  rw [RateLimiter.note, haccepts, ← Option.some.inj ht]
  cases haccepted : (l.allow client route limit later).1 with
  | true =>
    have hbelow := of_decide_eq_true (hdecision.symm.trans haccepted)
    rw [if_pos rfl]
    refine ⟨⟨older, by rw [← List.append_assoc, holder]; rfl⟩, ?_, ?_⟩
    · exact List.append_ne_nil_of_right_ne_nil _ (List.cons_ne_nil later [])
    · rw [List.length_append, List.length_singleton]
      omega
  | false =>
    have hreached := of_decide_eq_false (hdecision.symm.trans haccepted)
    rw [if_neg Bool.false_ne_true, if_neg Bool.false_ne_true, List.append_nil, List.append_nil]
    refine ⟨hcut.trans hlatest, ?_, Nat.le_trans hcut.length_le hfew⟩
    intro hnil
    rw [hnil, List.length_nil] at hreached
    omega

/-- **A request keeps the invariant**, be it accepted or not. -/
theorem Remembers.allow (h : Remembers most now l log) (client route : String) {limit : Nat}
    (hlimit : 1 ≤ limit) (hmost : limit ≤ most) (hle : now ≤ later) :
    Remembers most later (l.allow client route limit later).2
      (l.note log (.call (.allow client route limit later))) := by
  have hnote := h.note (t := .call (.allow client route limit later)) hle
  have hleft {r c : String} {times : List Instant}
      (ht : (l.allow client route limit later).2.tracked? r c = some times) :
      times <:+ l.note log (.call (.allow client route limit later)) r c ∧
        times ≠ [] ∧ times.length ≤ most := by
    by_cases hpair : r = route ∧ c = client
    · obtain ⟨rfl, rfl⟩ := hpair
      exact h.tracked?_allow_self hlimit hmost ht
    · have haccepts : l.accepts r c (.call (.allow client route limit later)) = false := by
        rw [accepts, Bool.and_eq_false_iff]
        exact Or.inl (decide_eq_false hpair)
      rw [tracked?_allow, if_neg hpair] at ht
      rw [RateLimiter.note, haccepts, if_neg Bool.false_ne_true, List.append_nil]
      exact ⟨h.latest ht, h.kept ht, h.few ht⟩
  refine ⟨?_, ?_, ?_, ?_, ?_, ?_⟩
  · exact fun {route client t} ht => (hnote route client).1 t ht
  · exact fun route client => (hnote route client).2
  · exact fun ht => (hleft ht).1
  · exact fun ht => (hleft ht).2.1
  · exact fun ht => (hleft ht).2.2
  · intro r clients hget
    rw [allow_snd] at hget
    exact size_pos_setTimes h.visited hget

/-- A turn in which no request is accepted leaves the log. -/
theorem note_of_not {t : Turn} (h : ∀ route client, l.accepts route client t = false) :
    l.note log t = log := by
  funext route client
  rw [note, h route client, if_neg Bool.false_ne_true, List.append_nil]

/-! ## The background sweep -/

/-- **The background sweep keeps the invariant**, after each of its ticks. -/
theorem Remembers.sweepTicks (h : Remembers most now l log) (period n : Nat) (next : Instant) :
    Remembers most now (l.sweepTicks period n next).1 log := by
  induction n generalizing l next with
  | zero => exact h
  | succ n ih => exact ih (h.sweep next) (next + period)

/-- What time leaves when the background sweep is running. -/
theorem advance_fst {s : Sweeper} (h : l.sweeper = some s) (now : Instant) :
    (l.advance now).1 =
      { (sweepTicks s.period (Sweeper.due s now) s.next l).1 with
        sweeper := some { s with next := s.next + Sweeper.due s now * s.period } } := by
  rw [advance, h]

theorem advance_of_stopped (h : l.sweeper = none) (now : Instant) : l.advance now = (l, []) := by
  rw [advance, h]

theorem Remembers.advance (h : Remembers most now l log) (hle : now ≤ later) :
    Remembers most later (l.advance later).1 log := by
  cases hs : l.sweeper with
  | none =>
    rw [advance_of_stopped hs]
    exact h.mono hle
  | some s =>
    have hticks := (h.mono hle).sweepTicks s.period (Sweeper.due s later) s.next
    rw [advance_fst hs]
    exact hticks.of_windows rfl

/-- **Every turn keeps the invariant.** -/
theorem Remembers.turn (h : Remembers most now l log) {t : Turn} (hle : now ≤ t.now)
    (hlimited : t.Limited most) : Remembers most t.now (l.turn t) (l.note log t) := by
  cases t with
  | wait later =>
    rw [note_of_not fun _ _ => rfl]
    exact h.advance hle
  | call act =>
    cases act with
    | sweep later =>
      rw [note_of_not fun _ _ => rfl]
      exact (h.sweep later).mono hle
    | allow client route limit later =>
      obtain ⟨hlimit, hmost⟩ := hlimited
      exact h.allow client route hlimit hmost hle

/-- **Every run keeps the invariant.** -/
theorem Remembers.through (h : Remembers most now l log) {turns : List Turn} {last : Instant}
    (htime : Timely now turns last) (hlimited : ∀ t ∈ turns, t.Limited most) :
    Remembers most last (l.through turns) (l.noteAll log turns) := by
  induction turns generalizing l now log with
  | nil => exact h.mono (timely_nil.1 htime)
  | cons t turns ih =>
    obtain ⟨hle, hrest⟩ := timely_cons.1 htime
    have hfirst := h.turn hle (hlimited t List.mem_cons_self)
    exact ih hfirst hrest fun t' ht' => hlimited t' (List.mem_cons_of_mem t ht')

/-! ## How old a request may be -/

/-- `Young since l` — of every client that is tracked a request is kept that a sweep at `since`
leaves. -/
def Young (since : Instant) (l : RateLimiter) : Prop :=
  ∀ route client times, l.tracked? route client = some times →
    ∃ t ∈ times, since - sweepRetention < t

variable {since : Instant}

theorem Young.of_fresh (h : l.windows = ∅) : Young since l := by
  intro route client times ht
  rw [tracked?_of_fresh h] at ht
  cases ht

theorem Young.of_windows (h : Young since l) (hsame : l'.windows = l.windows) : Young since l' := by
  intro route client times ht
  rw [tracked?_congr hsame] at ht
  exact h route client times ht

theorem Young.mono (h : Young since l) {earlier : Instant} (hle : earlier ≤ since) :
    Young earlier l := by
  intro route client times ht
  obtain ⟨t, hmem, hyoung⟩ := h route client times ht
  exact ⟨t, hmem, Int.lt_of_le_of_lt (Int.sub_le_sub_right hle sweepRetention) hyoung⟩

/-- What a sweep leaves is young. -/
theorem young_sweep (l : RateLimiter) (t : Instant) : Young t (l.sweep t).2 := by
  intro route client left hl
  rw [tracked?_sweep, Option.bind_eq_some_iff] at hl
  obtain ⟨times, -, htimes⟩ := hl
  obtain ⟨rfl, hne⟩ := sweepTimes_eq_some_iff.1 htimes
  obtain ⟨s, hs⟩ := List.exists_mem_of_ne_nil _ hne
  exact ⟨s, hs, (mem_recent.1 hs).2⟩

/-- What the background sweep leaves is young at the time of its last tick. -/
theorem young_sweepTicks (period n : Nat) (next : Instant) (l : RateLimiter) :
    Young (next + n * period) (l.sweepTicks period (n + 1) next).1 := by
  induction n generalizing l next with
  | zero =>
    have hfirst : next + (0 : Nat) * period = next := by simp
    rw [hfirst]
    exact young_sweep l next
  | succ n ih =>
    have hlater : next + (n + 1 : Nat) * period = next + period + n * period := by grind
    rw [hlater]
    exact ih (next + period) (l.sweep next).2

/-- A request leaves of its own client what still counts for the limit, and that counts for the
sweep. -/
theorem Young.allow (h : Young since l) {client route : String} {limit : Nat} (hle : since ≤ now)
    (kept : ∀ {r c times}, (l.allow client route limit now).2.tracked? r c = some times →
      times ≠ []) : Young since (l.allow client route limit now).2 := by
  intro r c times ht
  have hne := kept ht
  rw [tracked?_allow] at ht
  split at ht
  · obtain ⟨t, hmem⟩ := List.exists_mem_of_ne_nil times hne
    have hrecent : now - rateWindow < t := by
      rw [← Option.some.inj ht, List.mem_append] at hmem
      rcases hmem with hmem | hmem
      · exact (mem_recent.1 hmem).2
      · split at hmem
        · rw [List.mem_singleton.1 hmem]
          exact Int.sub_lt_self now (by decide)
        · cases hmem
    have hwindow : rateWindow ≤ sweepRetention := by decide
    exact ⟨t, hmem, Int.lt_of_le_of_lt (Int.sub_le_sub hle hwindow) hrecent⟩
  · exact h r c times ht

/-- `OnTime s now l` — the background sweep runs with this schedule, has run when it was last due,
and is due again within a period. -/
structure OnTime (s : Sweeper) (now : Instant) (l : RateLimiter) : Prop where
  /-- It is running. -/
  running : l.sweeper = some s
  /-- It is due soon. -/
  soon : s.next ≤ now + s.period
  /-- It has been there a period before. -/
  young : Young (s.next - s.period) l

variable {s : Sweeper}

/-- How often the background sweep is due: either it is not due yet, or its last time is at most a
period ago. -/
theorem due_cases (hperiod : 0 < s.period) (now : Instant) :
    (Sweeper.due s now = 0 ∧ now < s.next) ∨
    ∃ n : Nat, Sweeper.due s now = n + 1 ∧ s.next + n * s.period ≤ now ∧
      now < s.next + n * s.period + s.period := by
  unfold Sweeper.due
  split
  · rename_i hearly
    exact Or.inl ⟨rfl, hearly⟩
  · rename_i hdue
    have hdue : s.next ≤ now := Int.not_lt.1 hdue
    have hpos : (0 : Int) < s.period := by omega
    have hnonneg : 0 ≤ (now - s.next) / s.period :=
      Int.ediv_nonneg (Int.sub_nonneg_of_le hdue) (Int.le_of_lt hpos)
    have hn : (((now - s.next) / s.period).toNat : Int) = (now - s.next) / s.period :=
      Int.toNat_of_nonneg hnonneg
    have hlow := Int.ediv_mul_le (now - s.next) (Int.ne_of_gt hpos)
    have hhigh := Int.lt_ediv_add_one_mul_self (now - s.next) hpos
    rw [Int.add_mul, Int.one_mul] at hhigh
    refine Or.inr ⟨((now - s.next) / s.period).toNat, rfl, ?_, ?_⟩
    · rw [hn]
      unfold Instant at *
      omega
    · rw [hn]
      unfold Instant at *
      omega

/-- Time passes: the background sweep runs as often as it is due, and is not due after that. -/
theorem OnTime.advance (h : OnTime s now l) (hperiod : 0 < s.period) (hle : now ≤ later) :
    ∃ s', s'.period = s.period ∧ later < s'.next ∧ OnTime s' later (l.advance later).1 := by
  rw [advance_fst h.running]
  rcases due_cases hperiod later with ⟨hdue, hearly⟩ | ⟨n, hdue, hlow, hhigh⟩
  · have hnext : s.next + (Sweeper.due s later : Int) * s.period = s.next := by simp [hdue]
    rw [hnext, hdue]
    refine ⟨s, rfl, hearly, rfl, ?_, h.young.of_windows rfl⟩
    exact Int.le_trans h.soon (Int.add_le_add_right hle s.period)
  · -- the last tick is a period before the next one
    have hnext : s.next + (Sweeper.due s later : Int) * s.period =
        s.next + n * s.period + s.period := by
      rw [hdue]
      grind
    rw [hnext, hdue]
    refine ⟨{ s with next := s.next + n * s.period + s.period }, rfl, hhigh, rfl, ?_, ?_⟩
    · exact Int.add_le_add_right hlow s.period
    · have hlast : s.next + n * s.period + s.period - s.period = s.next + n * s.period :=
        Int.add_sub_cancel _ _
      have hyoung := young_sweepTicks s.period n s.next l
      rw [← hlast] at hyoung
      exact hyoung.of_windows rfl

/-- Nothing that is asked of the limiter touches the schedule. -/
theorem sweeper_step (l : RateLimiter) (act : Act) : (l.step act).2.sweeper = l.sweeper := by
  cases act with
  | sweep t => rfl
  | allow client route limit t =>
    rw [step, allow_snd]
    rfl

/-- **Every turn leaves the background sweep on time.** -/
theorem OnTime.turn (h : OnTime s now l) (hperiod : 0 < s.period) {t : Turn} (hle : now ≤ t.now)
    (kept : ∀ {r c times}, (l.turn t).tracked? r c = some times → times ≠ []) :
    ∃ s', s'.period = s.period ∧ OnTime s' t.now (l.turn t) := by
  cases t with
  | wait later =>
    obtain ⟨s', hsame, -, hontime⟩ := h.advance hperiod hle
    exact ⟨s', hsame, hontime⟩
  | call act =>
    have hsoon : s.next ≤ act.now + s.period := Int.le_trans h.soon (Int.add_le_add_right hle _)
    have hsince : s.next - s.period ≤ act.now := Int.sub_right_le_of_le_add hsoon
    refine ⟨s, rfl, (sweeper_step l act).trans h.running, hsoon, ?_⟩
    cases act with
    | sweep later => exact (young_sweep l later).mono hsince
    | allow client route limit later => exact h.young.allow hsince kept

/-- **Every run leaves the background sweep on time.** -/
theorem OnTime.through (h : OnTime s now l) (hperiod : 0 < s.period)
    (hremembers : Remembers most now l log) {turns : List Turn} {last : Instant}
    (htime : Timely now turns last) (hlimited : ∀ t ∈ turns, t.Limited most) :
    ∃ s', s'.period = s.period ∧ OnTime s' last (l.through turns) := by
  induction turns generalizing l now log s with
  | nil =>
    have hle := timely_nil.1 htime
    refine ⟨s, rfl, h.running, ?_, h.young⟩
    exact Int.le_trans h.soon (Int.add_le_add_right hle s.period)
  | cons t turns ih =>
    obtain ⟨hle, hrest⟩ := timely_cons.1 htime
    have hfirst := hremembers.turn hle (hlimited t List.mem_cons_self)
    obtain ⟨s₁, hsame₁, hontime₁⟩ := h.turn hperiod hle hfirst.kept
    obtain ⟨s₂, hsame₂, hontime₂⟩ := ih hontime₁ (hsame₁ ▸ hperiod) hfirst hrest fun t' ht' =>
      hlimited t' (List.mem_cons_of_mem t ht')
    exact ⟨s₂, hsame₂.trans hsame₁, hontime₂⟩

/-! ## When the background sweep has been stopped -/

theorem shutdown_fst (l : RateLimiter) : l.shutdown.1 = { l with sweeper := none } := by
  unfold shutdown
  cases hs : l.sweeper with
  | none =>
    show l = { l with sweeper := none }
    rw [← hs]
  | some s => rfl

theorem shutdown_of_stopped (h : l.sweeper = none) : l.shutdown = (l, []) := by
  rw [shutdown, h]

/-- It is not started again. -/
theorem sweeper_through_of_stopped (h : l.sweeper = none) (turns : List Turn) :
    (l.through turns).sweeper = none := by
  induction turns generalizing l with
  | nil => exact h
  | cons t turns ih =>
    refine ih ?_
    cases t with
    | call act => exact (sweeper_step l act).trans h
    | wait now =>
      rw [turn, advance_of_stopped h]
      exact h

/-! ## The memory and the traffic -/

/-- `Tidy most log l` — what the limiter keeps is in order, and a sweep does what it should, where
`log` has all accepted requests. -/
structure Tidy (most : Nat) (log : Log) (l : RateLimiter) : Prop where
  /-- What is kept of a client is not empty, in the order of time, and no more than the greatest
  limit. -/
  entries : ∀ route client times, l.tracked? route client = some times →
    times ≠ [] ∧ times.Pairwise (· ≤ ·) ∧ times.length ≤ most
  /-- Every route has a client. -/
  routes : ∀ route clients, l.windows.get? route = some clients → 0 < clients.size
  /-- A sweep returns by how much the number of tracked keys falls. -/
  counted : ∀ t, (l.sweep t).1 + (l.sweep t).2.trackedKeys = l.trackedKeys
  /-- A sweep drops the keys whose last accepted request is two minutes old, and no others. -/
  dropped : ∀ route client times, l.tracked? route client = some times →
    ∃ last, (log route client).getLast? = some last ∧
      ∀ t, (l.sweep t).2.tracked? route client = none ↔ 120 * 1000 ≤ t - last
  /-- A sweep adds no key. -/
  unchanged : ∀ route client, l.tracked? route client = none →
    ∀ t, (l.sweep t).2.tracked? route client = none

/-- What is kept is in order when it is the end of what was accepted. -/
theorem Remembers.tidy (h : Remembers most now l log) : Tidy most log l where
  entries route client times ht := by
    have hordered := (h.ordered route client).sublist (h.latest ht).sublist
    exact ⟨h.kept ht, hordered, h.few ht⟩
  routes route clients hget := h.visited hget
  counted t := l.sweep_fst_add t
  dropped route client times ht := by
    have hordered := (h.ordered route client).sublist (h.latest ht).sublist
    -- the last one kept is the last one accepted
    have hlast : times.getLast? = some (times.getLast (h.kept ht)) :=
      List.getLast?_eq_some_getLast _
    refine ⟨times.getLast (h.kept ht), ?_, ?_⟩
    · obtain ⟨older, holder⟩ := h.latest ht
      rw [← holder, List.getLast?_append, hlast, Option.some_or]
    · intro t
      rw [tracked?_sweep, ht, Option.bind_some]
      exact sweepTimes_eq_none_iff hordered hlast
  unchanged route client ht t := by
    rw [tracked?_sweep, ht, Option.bind_none]

/-- **The memory of a limiter follows its traffic.**  Whatever is asked of a limiter that sweeps in
the background, and whenever, what it keeps is in order, also between two ticks of the background
sweep; and when this has run as often as it is due, every key that is tracked has an accepted
request that is less than a period and two minutes old.  After a shutdown the background sweep never
comes back: the memory is what it was, time alone does not change it, nor does another shutdown, and
sweeps that somebody asks for go on doing what they should. -/
theorem memory_follows_traffic {period most : Nat} {start last : Instant} {turns : List Turn}
    (hperiod : 0 < period) (htime : Timely start turns last)
    (hlimited : ∀ t ∈ turns, t.Limited most) :
    let fresh := (RateLimiter.start period start).1
    let l := fresh.through turns
    let log := fresh.accepted turns
    Tidy most log l ∧
    (∃ s, l.sweeper = some s ∧ s.period = period ∧
      ∀ n, Tidy most log (l.sweepTicks s.period n s.next).1) ∧
    (∀ route client times, (l.advance last).1.tracked? route client = some times →
      ∃ t ∈ log route client, last - t < period + 120 * 1000) ∧
    (l.shutdown.1.windows = l.windows ∧ l.shutdown.1.isSweeping = false ∧
      Tidy most log l.shutdown.1 ∧
      ∀ more, (∀ now, (l.shutdown.1.through more).advance now = (l.shutdown.1.through more, [])) ∧
        (l.shutdown.1.through more).shutdown = (l.shutdown.1.through more, [])) := by
  intro fresh l log
  have hbegin : Remembers most start fresh fun _ _ => [] := Remembers.of_fresh rfl
  have hremembers : Remembers most last l log := hbegin.through htime hlimited
  have hschedule : OnTime ⟨period, start + period⟩ start fresh :=
    ⟨rfl, Int.le_refl _, Young.of_fresh rfl⟩
  obtain ⟨s, hsame, hontime⟩ := hschedule.through hperiod hbegin htime hlimited
  have hsame : s.period = period := hsame
  have hpos : 0 < s.period := hsame ▸ hperiod
  refine ⟨hremembers.tidy, ⟨s, hontime.running, hsame, ?_⟩, ?_, ?_⟩
  · exact fun n => (hremembers.sweepTicks s.period n s.next).tidy
  · intro route client times ht
    obtain ⟨s', hsame', hnotdue, hontime'⟩ := hontime.advance hpos (Int.le_refl last)
    obtain ⟨t, hmem, hyoung⟩ := hontime'.young route client times ht
    have hlatest := (hremembers.advance (Int.le_refl last)).latest ht
    refine ⟨t, hlatest.subset hmem, ?_⟩
    have hretention : sweepRetention = 120 * 1000 := rfl
    rw [hsame', hsame] at hyoung
    unfold Instant at *
    omega
  · have hstopped : l.shutdown.1.sweeper = none := by rw [shutdown_fst]
    refine ⟨?_, ?_, ?_, ?_⟩
    · rw [shutdown_fst]
    · rw [isSweeping, hstopped, Option.isSome_none]
    · rw [shutdown_fst]
      exact Remembers.tidy (hremembers.of_windows rfl)
    · intro more
      have hstill := sweeper_through_of_stopped hstopped more
      exact ⟨advance_of_stopped hstill, shutdown_of_stopped hstill⟩

/-- A client that is denied once and does not come back, and another one that comes later. -/
def evening : List Turn :=
  [.call (.allow "alice" "/login" 2 0), .call (.allow "alice" "/login" 2 1000),
    .call (.allow "alice" "/login" 2 2000), .call (.sweep 120999),
    .call (.allow "bob" "/refresh" 1 200000), .wait 310000]

/-- After five minutes the background sweep has dropped the client that did not come back, though a
sweep one millisecond before the two minutes were over had not.  The other one stays as long. -/
theorem memory_follows_traffic_evening :
    Timely 0 evening 319999 ∧ (∀ t ∈ evening, t.Limited 2) ∧
      let l := (RateLimiter.start 300000 0).1.through evening
      (((RateLimiter.start 300000 0).1.through (evening.take 4)).tracked? "/login" "alice" =
          some [1000] ∧ l.tracked? "/login" "alice" = none ∧ l.trackedKeys = 1) ∧
        (l.sweep 319999).2.tracked? "/refresh" "bob" ≠ none ∧
        (l.sweep 320000).2.tracked? "/refresh" "bob" = none ∧
        (l.sweep 320000).1 + (l.sweep 320000).2.trackedKeys = 1 ∧
        l.shutdown.1.advance 600000 = (l.shutdown.1, []) := by
  have hperiod : 0 < 300000 := by decide
  have htime : Timely 0 evening 319999 := by decide
  have hlimited : ∀ t ∈ evening, t.Limited 2 := by decide
  obtain ⟨htidy, -, -, -, -, -, hstopped⟩ :=
    memory_follows_traffic hperiod htime hlimited
  have hbob : ((RateLimiter.start 300000 0).1.through evening).tracked? "/refresh" "bob" =
      some [200000] := by decide +kernel
  have hkeys : ((RateLimiter.start 300000 0).1.through evening).trackedKeys = 1 := by
    decide +kernel
  have hlog : ((RateLimiter.start 300000 0).1.accepted evening "/refresh" "bob").getLast? =
      some 200000 := by decide +kernel
  obtain ⟨last, hlast, hdropped⟩ := htidy.dropped "/refresh" "bob" [200000] hbob
  obtain rfl : last = 200000 := Option.some.inj (hlast.symm.trans hlog)
  refine ⟨htime, hlimited, ⟨by decide +kernel, by decide +kernel, hkeys⟩, ?_, ?_, ?_, ?_⟩
  · intro hnone
    exact absurd ((hdropped 319999).1 hnone) (by decide)
  · exact (hdropped 320000).2 (by decide)
  · rw [htidy.counted 320000, hkeys]
  · exact (hstopped []).1 600000

/-- A sweep that somebody asks for after a shutdown does change the memory. -/
theorem sweep_after_shutdown :
    Timely 0 [.call (.allow "alice" "/login" 1 0)] 0 ∧
      (∀ t ∈ [Turn.call (.allow "alice" "/login" 1 0)], t.Limited 1) ∧
      let l := ((RateLimiter.start 300000 0).1.through
        [.call (.allow "alice" "/login" 1 0)]).shutdown.1
      l.isSweeping = false ∧ l.trackedKeys = 1 ∧
        (l.sweep 120000).1 = 1 ∧ (l.sweep 120000).2.windows ≠ l.windows := by
  decide +kernel

end Gatehouse.RateLimiter
