/-
  The limiter against one that forgets nothing.

  A ledger keeps the times of all accepted requests for ever, for each client of each route apart,
  and counts those of the last sixty seconds.  The limiter throws times away as it goes, and whole
  clients and routes with them.  Still the two decide alike (`decides_as_ledger`).

  What carries the proof is an invariant over time: from now on, whenever that is, the same times
  count in both (`Agrees`).  It says nothing of the times that do not count, so throwing them away
  keeps it; and it looks forward, so what a request or a sweep does now is good for every time to
  come.

  The ledger also shows what a decision depends on, since it keeps every client of every route for
  itself: on the accepted requests of that client to that route, and on nothing else.
-/
import Gatehouse.Proofs.RateLimit.Window

namespace Gatehouse

/-! ## Runs -/

namespace RateLimiter

/-- What is asked of a limiter. -/
inductive Act where
  /-- A client sends a request to a route. -/
  | allow (client route : String) (limit : Nat) (now : Instant)
  /-- What is out of date is dropped. -/
  | sweep (now : Instant)
deriving DecidableEq, Repr

/-- The time of an act. -/
def Act.now : Act → Instant
  | .allow _ _ _ now => now
  | .sweep now => now

/-- The acts come in the order of time. -/
def InOrder (acts : List Act) : Prop := acts.Pairwise fun a b => a.now ≤ b.now

instance (acts : List Act) : Decidable (InOrder acts) :=
  inferInstanceAs (Decidable (acts.Pairwise fun a b => a.now ≤ b.now))

section Runs

variable {σ : Type} (step : σ → Act → Option Bool × σ)

/-- The state after a list of acts. -/
def after (s : σ) (acts : List Act) : σ := acts.foldl (fun s a => (step s a).2) s

/-- The decisions on a list of acts, one for each; a sweep decides nothing. -/
def decisions : σ → List Act → List (Option Bool)
  | _, [] => []
  | s, a :: acts => (step s a).1 :: decisions (step s a).2 acts

@[simp] theorem after_nil (s : σ) : after step s [] = s := rfl

@[simp] theorem after_cons (s : σ) (a : Act) (acts : List Act) :
    after step s (a :: acts) = after step (step s a).2 acts := rfl

theorem after_append (s : σ) (first second : List Act) :
    after step s (first ++ second) = after step (after step s first) second := List.foldl_append

end Runs

/-- What the limiter decides, and the limiter after it. -/
def step (l : RateLimiter) : Act → Option Bool × RateLimiter
  | .allow client route limit now =>
    (some (l.allow client route limit now).1, (l.allow client route limit now).2)
  | .sweep now => (none, (l.sweep now).2)

/-- `l.Counts a route client` — the act is a request of the client to the route, and it is
accepted. -/
def Counts (l : RateLimiter) (a : Act) (route client : String) : Prop :=
  ∃ limit now, a = .allow client route limit now ∧ (l.allow client route limit now).1 = true

end RateLimiter

open RateLimiter

/-! ## The ledger -/

/-- A limiter that forgets nothing: the times of all requests it has accepted, for each client of
each route. -/
structure Ledger where
  /-- The times, by route and client, oldest first. -/
  accepted : String → String → List Instant := fun _ _ => []

namespace Ledger

/-- Accepts a request if fewer than the limit were accepted in the last sixty seconds. -/
def allow (g : Ledger) (client route : String) (limit : Nat) (now : Instant) : Bool × Ledger :=
  if (g.accepted route client).countP (fun t => now - 60 * 1000 < t) < limit then
    (true, { accepted := fun r c =>
      if r = route ∧ c = client then g.accepted r c ++ [now] else g.accepted r c })
  else (false, g)

/-- What the ledger decides, and the ledger after it. -/
def step (g : Ledger) : Act → Option Bool × Ledger
  | .allow client route limit now =>
    (some (g.allow client route limit now).1, (g.allow client route limit now).2)
  | .sweep _ => (none, g)

theorem allow_fst (g : Ledger) (client route : String) (limit : Nat) (now : Instant) :
    (g.allow client route limit now).1 =
      decide ((recent rateWindow now (g.accepted route client)).length < limit) := by
  have hcount : (g.accepted route client).countP (fun t => now - 60 * 1000 < t) =
      (recent rateWindow now (g.accepted route client)).length :=
    List.countP_eq_length_filter
  by_cases h : (recent rateWindow now (g.accepted route client)).length < limit
  · simp only [allow, hcount, h, if_true, decide_true]
  · simp only [allow, hcount, h, if_false, decide_false]

theorem accepted_allow (g : Ledger) (client route : String) (limit : Nat) (now : Instant)
    (r c : String) :
    (g.allow client route limit now).2.accepted r c =
      if r = route ∧ c = client then
        g.accepted route client ++ if (g.allow client route limit now).1 then [now] else []
      else g.accepted r c := by
  by_cases h : r = route ∧ c = client
  · obtain ⟨rfl, rfl⟩ := h
    unfold allow
    split <;> simp
  · unfold allow
    split <;> simp [h]

/-! ### What a decision depends on -/

variable {g g' : Ledger} {route client : String}

/-- What two ledgers hold for a client of a route stays the same in both, whatever is done. -/
theorem accepted_step_congr (h : g.accepted route client = g'.accepted route client) (a : Act) :
    (g.step a).2.accepted route client = (g'.step a).2.accepted route client := by
  cases a with
  | sweep now => exact h
  | allow c r limit now =>
    simp only [step, accepted_allow]
    split
    · rename_i hpair
      obtain ⟨rfl, rfl⟩ := hpair
      rw [allow_fst, allow_fst, h]
    · exact h

theorem accepted_after_congr (h : g.accepted route client = g'.accepted route client)
    (acts : List Act) :
    (after step g acts).accepted route client = (after step g' acts).accepted route client := by
  induction acts generalizing g g' with
  | nil => exact h
  | cons a acts ih => exact ih (accepted_step_congr h a)

/-- Only an accepted request of the client to the route is written down for the two. -/
theorem accepted_step_of_not {a : Act}
    (h : ∀ limit now, a = .allow client route limit now →
      (g.allow client route limit now).1 = false) :
    (g.step a).2.accepted route client = g.accepted route client := by
  cases a with
  | sweep now => rfl
  | allow c r limit now =>
    simp only [step, accepted_allow]
    split
    · rename_i hpair
      obtain ⟨rfl, rfl⟩ := hpair
      simp [h limit now rfl]
    · rfl

end Ledger

/-! ## The limiter and the ledger -/

namespace RateLimiter

/-- `Agrees now l g` — at every time from now on the same times count for the limiter and for the
ledger, for each client of each route. -/
def Agrees (now : Instant) (l : RateLimiter) (g : Ledger) : Prop :=
  ∀ route client later, now ≤ later →
    recent rateWindow later (l.timesOf route client) =
      recent rateWindow later (g.accepted route client)

variable {l : RateLimiter} {g : Ledger} {now : Instant}

theorem Agrees.empty (now : Instant) : Agrees now {} {} := fun _ _ _ _ => rfl

theorem Agrees.mono (h : Agrees now l g) {later : Instant} (hle : now ≤ later) :
    Agrees later l g :=
  fun route client t ht => h route client t (Int.le_trans hle ht)

theorem Agrees.allow_fst (h : Agrees now l g) (client route : String) (limit : Nat)
    {later : Instant} (hle : now ≤ later) :
    (l.allow client route limit later).1 = (g.allow client route limit later).1 := by
  rw [RateLimiter.allow_fst, Ledger.allow_fst, h route client later hle]

/-- **One act keeps the agreement, and is decided alike.** -/
theorem Agrees.step (h : Agrees now l g) {a : Act} (hle : now ≤ a.now) :
    (l.step a).1 = (g.step a).1 ∧ Agrees a.now (l.step a).2 (g.step a).2 := by
  cases a with
  | allow client route limit t =>
    have hle : now ≤ t := hle
    have hsame := h.allow_fst client route limit hle
    refine ⟨congrArg some hsame, fun r c later hlater => ?_⟩
    simp only [RateLimiter.step, Ledger.step, timesOf_allow, Ledger.accepted_allow, hsame]
    split
    · -- the limiter has cut its times now, and that changes nothing for a later window
      have hcut : t - rateWindow ≤ later - rateWindow := Int.sub_le_sub_right hlater rateWindow
      rw [recent_append, recent_append, recent_recent hcut,
        h route client later (Int.le_trans hle hlater)]
    · exact h r c later (Int.le_trans hle hlater)
  | sweep t =>
    refine ⟨rfl, fun r c later hlater => ?_⟩
    -- a sweep looks back further than a request
    have hcut : t - sweepRetention ≤ later - rateWindow :=
      Int.sub_le_sub hlater (show rateWindow ≤ sweepRetention by decide)
    simp only [RateLimiter.step, Ledger.step, timesOf_sweep]
    rw [recent_recent hcut]
    exact h r c later (Int.le_trans hle hlater)

/-- **A run keeps the agreement, and every act of it is decided alike.** -/
theorem Agrees.run (h : Agrees now l g) {acts : List Act} (horder : InOrder acts)
    (hle : ∀ a ∈ acts, now ≤ a.now) :
    decisions RateLimiter.step l acts = decisions Ledger.step g acts ∧
      ∀ last, now ≤ last → (∀ a ∈ acts, a.now ≤ last) →
        Agrees last (after RateLimiter.step l acts) (after Ledger.step g acts) := by
  induction acts generalizing l g now with
  | nil => exact ⟨rfl, fun last hlast _ => h.mono hlast⟩
  | cons a acts ih =>
    obtain ⟨hfirst, hrest⟩ := List.pairwise_cons.1 horder
    obtain ⟨hsame, hagrees⟩ := h.step (hle a List.mem_cons_self)
    obtain ⟨hdecisions, hafter⟩ := ih hagrees hrest hfirst
    refine ⟨List.cons_eq_cons.2 ⟨hsame, hdecisions⟩, fun last _ hlast => ?_⟩
    exact hafter last (hlast a List.mem_cons_self) fun b hb => hlast b (List.mem_cons_of_mem a hb)

/-- What holds after a run from the beginning, at any time that is not before its end. -/
theorem agrees_after {acts : List Act} (horder : InOrder acts) :
    decisions RateLimiter.step {} acts = decisions Ledger.step {} acts ∧
      ∀ last, (∀ a ∈ acts, a.now ≤ last) →
        Agrees last (after RateLimiter.step {} acts) (after Ledger.step {} acts) := by
  cases acts with
  | nil => exact ⟨rfl, fun last _ => Agrees.empty last⟩
  | cons a acts =>
    have hfirst : ∀ b ∈ a :: acts, a.now ≤ b.now := by
      intro b hb
      rcases List.mem_cons.1 hb with rfl | hb
      · exact Int.le_refl b.now
      · exact (List.pairwise_cons.1 horder).1 b hb
    obtain ⟨hdecisions, hafter⟩ := (Agrees.empty a.now).run horder hfirst
    exact ⟨hdecisions, fun last hlast => hafter last (hlast a List.mem_cons_self) hlast⟩

/-- **The limiter decides as one that forgets nothing.**  On any list of acts in the order of time,
whatever the routes, clients and limits and wherever the sweeps stand, it decides every request as
the ledger does.  So an act that is not an accepted request of a client to a route, be it a sweep, a
request of somebody else or to some other route, or a request that is denied, can be left out, and
no later request of that client to that route is decided otherwise. -/
theorem decides_as_ledger {acts : List Act} (horder : InOrder acts) :
    decisions step {} acts = decisions Ledger.step {} acts ∧
    ∀ before act rest, acts = before ++ act :: rest →
      ∀ route client, ¬ (after step {} before).Counts act route client →
        ∀ limit now, (∀ a ∈ acts, a.now ≤ now) →
          ((after step {} acts).allow client route limit now).1 =
            ((after step {} (before ++ rest)).allow client route limit now).1 := by
  refine ⟨(agrees_after horder).1, ?_⟩
  rintro before act rest rfl route client hcounts limit now hlast
  have hsub : (before ++ rest).Sublist (before ++ act :: rest) :=
    List.Sublist.append_left (List.sublist_cons_self act rest) before
  have hwith := (agrees_after horder).2 now hlast
  have hwithout := (agrees_after (horder.sublist hsub)).2 now fun a ha =>
    hlast a (hsub.subset ha)
  have hbefore := horder.sublist (List.sublist_append_left before (act :: rest))
  -- the act is not accepted by the ledger either, so the ledger does not write it down
  have hledger : ∀ limit t, act = .allow client route limit t →
      ((after Ledger.step {} before).allow client route limit t).1 = false := by
    rintro limit t rfl
    have hle : ∀ a ∈ before, a.now ≤ t := fun a ha =>
      (List.pairwise_append.1 horder).2.2 a ha _ List.mem_cons_self
    rw [← ((agrees_after hbefore).2 t hle).allow_fst client route limit (Int.le_refl t)]
    exact Bool.eq_false_iff.2 fun h => hcounts ⟨limit, t, rfl, h⟩
  have hsame : (after Ledger.step {} (before ++ act :: rest)).accepted route client =
      (after Ledger.step {} (before ++ rest)).accepted route client := by
    rw [after_append, after_append, after_cons]
    exact Ledger.accepted_after_congr (Ledger.accepted_step_of_not hledger) rest
  rw [hwith.allow_fst client route limit (Int.le_refl now),
    hwithout.allow_fst client route limit (Int.le_refl now), Ledger.allow_fst,
    Ledger.allow_fst, hsame]

/-- A limit of two, requests up to the last millisecond of the first minute and at its end, and a
sweep that leaves nothing. -/
def rush : List Act :=
  [.allow "alice" "/login" 2 0, .allow "alice" "/login" 2 1000, .allow "alice" "/login" 2 59999,
    .allow "alice" "/login" 2 60000, .sweep 60000, .allow "bob" "/login" 1 60000,
    .allow "alice" "/login" 0 60000, .sweep 180000, .allow "alice" "/login" 1 180000]

/-- The first request counts for less than a minute: another is denied one millisecond before the
minute is over, and accepted when it is.  The one that was denied leaves no trace. -/
theorem decides_as_ledger_rush :
    InOrder rush ∧
      decisions step {} rush =
        [some true, some true, some false, some true, none, some true, some false, none,
          some true] ∧
      ((after step {} rush).allow "alice" "/login" 2 180001).1 =
        ((after step {} (rush.eraseIdx 2)).allow "alice" "/login" 2 180001).1 := by
  have horder : InOrder rush := by decide
  obtain ⟨hdecisions, hfree⟩ := decides_as_ledger horder
  refine ⟨horder, hdecisions.trans (by decide +kernel), ?_⟩
  refine hfree (rush.take 2) (.allow "alice" "/login" 2 59999) (rush.drop 3) rfl "/login" "alice"
    ?_ 2 180001 (by decide)
  rintro ⟨limit, now, hact, haccepted⟩
  obtain ⟨rfl, rfl⟩ : 2 = limit ∧ 59999 = now := by simpa using hact
  revert haccepted
  decide +kernel

end RateLimiter
end Gatehouse
