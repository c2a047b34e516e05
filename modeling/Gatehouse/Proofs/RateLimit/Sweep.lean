/-
  What a sweep drops.

  A sweep counts the clients that it drops, route by route, and the routes of which no client is
  left go without being counted.  So the count is exactly by how much the number of tracked keys
  falls (`sweep_fst_add`).

  A client is dropped when none of its times is recent.  The limiter writes times down in their
  order, so this is when the last one is not; and what a cut leaves of times in their order is the
  end of them (`recent_suffix`).
-/
import Gatehouse.Proofs.RateLimit.Window

namespace Gatehouse.RateLimiter

/-! ## The count -/

/-- What a sweep leaves of a route: nothing when no client is left. -/
theorem sweepClients_eq_none_or (now : Instant) (clients : Table String (List Instant)) :
    (sweepClients now clients = none ∧ (clients.filterMap (sweepTimes now)).size = 0) ∨
    (sweepClients now clients = some (clients.filterMap (sweepTimes now)) ∧
      0 < (clients.filterMap (sweepTimes now)).size) := by
  unfold sweepClients
  by_cases hempty : (clients.filterMap (sweepTimes now)).entries = []
  · refine Or.inl ⟨?_, ?_⟩
    · simp only [hempty, List.isEmpty_nil, if_true]
    · rw [Table.size, hempty, List.length_nil]
  · refine Or.inr ⟨?_, List.length_pos_iff.2 hempty⟩
    have hnot : (clients.filterMap (sweepTimes now)).entries.isEmpty = false :=
      Bool.eq_false_iff.2 fun h => hempty (List.isEmpty_iff.1 h)
    simp only [hnot, Bool.false_eq_true, if_false]

/-- Of each route, what a sweep counts and what it leaves make up what was there. -/
theorem foldr_staleClients_add (now : Instant) (routes : List (Table String (List Instant))) :
    routes.foldr (fun clients n => staleClients now clients + n) 0 +
        (routes.filterMap (sweepClients now)).foldr (fun clients n => clients.size + n) 0 =
      routes.foldr (fun clients n => clients.size + n) 0 := by
  induction routes with
  | nil => rfl
  | cons clients routes ih =>
    have hroute : staleClients now clients + (clients.filterMap (sweepTimes now)).size =
        clients.size := clients.countP_add_size_filterMap (sweepTimes now)
    rcases sweepClients_eq_none_or now clients with ⟨hgone, hnobody⟩ | ⟨hleft, -⟩
    · rw [List.filterMap_cons_none hgone, List.foldr_cons, List.foldr_cons]
      omega
    · rw [List.filterMap_cons_some hleft, List.foldr_cons, List.foldr_cons, List.foldr_cons]
      omega

/-- **A sweep returns exactly by how much the number of tracked keys falls.** -/
theorem sweep_fst_add (l : RateLimiter) (now : Instant) :
    (l.sweep now).1 + (l.sweep now).2.trackedKeys = l.trackedKeys := by
  unfold trackedKeys sweep
  rw [Table.values_filterMap]
  exact foldr_staleClients_add now l.windows.values

/-! ## Times in their order -/

variable {times : List Instant} {now : Instant}

/-- What is recent of times in their order is the end of them. -/
theorem recent_suffix (ordered : times.Pairwise (· ≤ ·)) (span : Int) (now : Instant) :
    recent span now times <:+ times := by
  induction times with
  | nil => exact List.suffix_refl []
  | cons t times ih =>
    obtain ⟨hfirst, hrest⟩ := List.pairwise_cons.1 ordered
    by_cases ht : now - span < t
    · -- what comes after a recent time is recent
      have hall : recent span now (t :: times) = t :: times := by
        refine List.filter_eq_self.2 fun s hs => decide_eq_true ?_
        rcases List.mem_cons.1 hs with rfl | hs
        · exact ht
        · exact Int.lt_of_lt_of_le ht (hfirst s hs)
      exact ⟨[], hall⟩
    · have hcut : recent span now (t :: times) = recent span now times :=
        List.filter_cons_of_neg (by simpa using ht)
      rw [hcut]
      exact (ih hrest).trans (List.suffix_cons t times)

theorem mem_recent {span : Int} {t : Instant} :
    t ∈ recent span now times ↔ t ∈ times ∧ now - span < t := by
  rw [recent, List.mem_filter, decide_eq_true_iff]

/-- What a sweep leaves of a client: nothing when none of its times is recent. -/
theorem sweepTimes_eq_some_iff {left : List Instant} :
    sweepTimes now times = some left ↔ recent sweepRetention now times = left ∧ left ≠ [] := by
  unfold sweepTimes
  by_cases hempty : recent sweepRetention now times = []
  · constructor
    · intro h
      simp [hempty] at h
    · rintro ⟨rfl, hne⟩
      exact absurd hempty hne
  · have hnot : (recent sweepRetention now times).isEmpty = false :=
      Bool.eq_false_iff.2 fun h => hempty (List.isEmpty_iff.1 h)
    simp only [hnot, Bool.false_eq_true, if_false, Option.some.injEq]
    constructor
    · rintro rfl
      exact ⟨rfl, hempty⟩
    · exact fun h => h.1

/-- A client is dropped when its last time is two minutes old. -/
theorem sweepTimes_eq_none_iff (ordered : times.Pairwise (· ≤ ·)) {last : Instant}
    (hlast : times.getLast? = some last) :
    sweepTimes now times = none ↔ 120 * 1000 ≤ now - last := by
  obtain ⟨before, rfl⟩ := List.getLast?_eq_some_iff.1 hlast
  have hmost : ∀ t ∈ before ++ [last], t ≤ last := by
    intro t ht
    rcases List.mem_append.1 ht with ht | ht
    · exact (List.pairwise_append.1 ordered).2.2 t ht last (List.mem_singleton_self last)
    · exact Int.le_of_eq (List.mem_singleton.1 ht)
  have hspan : sweepRetention = 120 * 1000 := rfl
  constructor
  · intro hnone
    refine Int.not_lt.1 fun hyoung => ?_
    -- the last time would be left
    have hrecent : now - sweepRetention < last := by
      unfold Instant at *
      omega
    have hmem : last ∈ recent sweepRetention now (before ++ [last]) :=
      mem_recent.2 ⟨by simp, hrecent⟩
    have hsome : sweepTimes now (before ++ [last]) =
        some (recent sweepRetention now (before ++ [last])) :=
      sweepTimes_eq_some_iff.2 ⟨rfl, List.ne_nil_of_mem hmem⟩
    rw [hnone] at hsome
    cases hsome
  · intro hold
    cases hleft : sweepTimes now (before ++ [last]) with
    | none => rfl
    | some left =>
      obtain ⟨rfl, hne⟩ := sweepTimes_eq_some_iff.1 hleft
      obtain ⟨t, ht⟩ := List.exists_mem_of_ne_nil _ hne
      obtain ⟨hmem, hrecent⟩ := mem_recent.1 ht
      have hle := hmost t hmem
      unfold Instant at *
      omega

end Gatehouse.RateLimiter
