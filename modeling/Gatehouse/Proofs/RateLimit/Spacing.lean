/-
  Never more than the limit in a minute.

  The limiter looks back from each request over the last sixty seconds.  What is promised to the
  outside is more: of the requests that it accepts, no more than the limit lie in any stretch of
  time that is shorter than a minute from its first moment to its last (`Brief`), wherever the
  stretch begins.

  The invariant speaks of the ledger, which forgets nothing (`Metered`).  The step is this: if a
  request is accepted in a stretch, then all that was accepted in the stretch before it lies within
  the last sixty seconds, because the stretch is brief and the clock does not go back.  So there
  were fewer than the limit.
-/
import Gatehouse.Proofs.RateLimit.Ledger

namespace Gatehouse.RateLimiter

/-- Any two of the points in time lie less than a minute apart. -/
def Brief (during : Instant → Bool) : Prop :=
  ∀ s t, during s = true → during t = true → t - rateWindow < s

/-- The minute from a point in time on, without its end. -/
def minuteFrom (start t : Instant) : Bool := start ≤ t && t < start + 60 * 1000

/-- The minute after a point in time, with its end. -/
def minuteAfter (start t : Instant) : Bool := start < t && t ≤ start + 60 * 1000

theorem brief_minuteFrom (start : Instant) : Brief (minuteFrom start) := by
  intro s t hs ht
  simp only [minuteFrom, Bool.and_eq_true, decide_eq_true_eq] at hs ht
  have hstart : t - rateWindow < start := Int.sub_right_lt_of_lt_add ht.2
  exact Int.lt_of_lt_of_le hstart hs.1

theorem brief_minuteAfter (start : Instant) : Brief (minuteAfter start) := by
  intro s t hs ht
  simp only [minuteAfter, Bool.and_eq_true, decide_eq_true_eq] at hs ht
  have hstart : t - rateWindow ≤ start := Int.sub_right_le_of_le_add ht.2
  exact Int.lt_of_le_of_lt hstart hs.1

/-- What has come about up to a point in time, if every request was held against this limit. -/
structure Metered (limit : Nat) (now : Instant) (l : RateLimiter) (g : Ledger) : Prop where
  /-- The limiter counts what the ledger counts. -/
  agrees : Agrees now l g
  /-- Nothing was accepted later than now. -/
  past : ∀ {route client t}, t ∈ g.accepted route client → t ≤ now
  /-- In no brief stretch more was accepted than the limit. -/
  spaced : ∀ {route client during}, Brief during → (g.accepted route client).countP during ≤ limit

variable {limit : Nat} {now t : Instant} {l : RateLimiter} {g : Ledger}

/-- A limiter that has accepted nothing yet. -/
theorem Metered.of_fresh (h : l.windows = ∅) : Metered limit now l {} where
  agrees route client later _ := by simp [timesOf, h]
  past ht := by cases ht
  spaced _ := Nat.zero_le limit

theorem Metered.sweep (h : Metered limit now l g) (hle : now ≤ t) :
    Metered limit t (l.sweep t).2 g where
  agrees := (h.agrees.step (a := .sweep t) hle).2
  past ht := Int.le_trans (h.past ht) hle
  spaced := h.spaced

/-- What a request finds accepted in a stretch to which it belongs lies in the last minute. -/
theorem countP_le_recent {during : Instant → Bool} (brief : Brief during)
    (ht : during t = true) (times : List Instant) :
    times.countP during ≤ (recent rateWindow t times).length := by
  have hcount : times.countP during ≤ times.countP fun s => t - rateWindow < s :=
    List.countP_mono_left fun s _ hs => decide_eq_true (brief s t hs ht)
  rwa [List.countP_eq_length_filter (p := fun s => decide (t - rateWindow < s))] at hcount

/-- **A request keeps the promise**, be it accepted or not. -/
theorem Metered.allow (h : Metered limit now l g) (client route : String) (hle : now ≤ t) :
    Metered limit t (l.allow client route limit t).2 (g.allow client route limit t).2 where
  agrees := (h.agrees.step (a := .allow client route limit t) hle).2
  past {r c s} hs := by
    rw [Ledger.accepted_allow] at hs
    split at hs
    · rcases List.mem_append.1 hs with hs | hs
      · exact Int.le_trans (h.past hs) hle
      · split at hs
        · exact Int.le_of_eq (List.mem_singleton.1 hs)
        · cases hs
    · exact Int.le_trans (h.past hs) hle
  spaced {r c during} brief := by
    rw [Ledger.accepted_allow]
    split
    · cases haccepted : (g.allow client route limit t).1 with
      | false =>
        rw [if_neg Bool.false_ne_true, List.append_nil]
        exact h.spaced brief
      | true =>
        rw [if_pos rfl, List.countP_append, List.countP_singleton]
        split
        · rename_i hduring
          -- the request lies in the stretch, so what was there before is recent
          have hrecent := countP_le_recent brief hduring (g.accepted route client)
          have hfew : (recent rateWindow t (g.accepted route client)).length < limit := by
            rw [Ledger.allow_fst] at haccepted
            exact of_decide_eq_true haccepted
          omega
        · exact h.spaced brief
    · exact h.spaced brief

/-- An accepted request is written down. -/
theorem Metered.accepted_allow (h : Metered limit now l g) {client route : String} (hle : now ≤ t)
    (haccepted : (l.allow client route limit t).1 = true) :
    (g.allow client route limit t).2.accepted route client = g.accepted route client ++ [t] := by
  rw [h.agrees.allow_fst client route limit hle] at haccepted
  rw [Ledger.accepted_allow, if_pos ⟨rfl, rfl⟩, if_pos haccepted]

/-- What is written down stays. -/
theorem countP_accepted_le (g : Ledger) (client route : String) (limit : Nat) (t : Instant)
    (r c : String) (during : Instant → Bool) :
    (g.accepted r c).countP during ≤
      ((g.allow client route limit t).2.accepted r c).countP during := by
  rw [Ledger.accepted_allow]
  split
  · rename_i hpair
    obtain ⟨rfl, rfl⟩ := hpair
    rw [List.countP_append]
    exact Nat.le_add_right ..
  · exact Nat.le_refl _

end Gatehouse.RateLimiter
