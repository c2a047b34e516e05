/-
  A server at work.

  `serve` answers one request.  A site is what stays between requests: the limiter, the store, the
  number of secrets drawn and the log.  What comes from outside comes with each visit: when the
  request arrives by the clock that never goes back, what the calendar clock shows, and whether the
  source of random bytes fails.  So the two clocks and the failures are free in every run, and two
  runs with the same visits have the same failures, however many secrets each has drawn.

  A run is a list of visits, with sweeps of the limiter in between.  `Site.visits` lists the visits
  of a run, each with the site that it finds, so that statements about all requests of a run are
  statements about this list.  A visit whose flow is abandoned has no response; what it did to the
  site stays done.
-/
import Gatehouse.Http.Server
import Gatehouse.Proofs.Flow

namespace Gatehouse

namespace Http

/-! ## Who is answered by what -/

/-- The name under which a request is counted. -/
def Request.key (r : Request) (p : Portal) : String :=
  (clientAddress r.headers r.peer p.trustProxy).getD unknownClient

variable {p : Portal} {l : RateLimiter} {now : Instant} {r : Request} {route : Route}

/-- A preflight is answered from the path alone and is never counted. -/
theorem serve_of_options (h : r.method = "OPTIONS") :
    serve p l now r = (l, .done (openToAll (preflight (Route.ofPath? r.path)))) := by
  simp only [serve, h, if_true]

/-- A path without a route is answered with 404 and is never counted. -/
theorem serve_of_unknown (h : r.method ≠ "OPTIONS") (hpath : Route.ofPath? r.path = none) :
    serve p l now r = (l, .done (openToAll { status := 404 })) := by
  simp only [serve, h, if_false, hpath]

theorem serve_of_route (h : r.method ≠ "OPTIONS") (hpath : Route.ofPath? r.path = some route) :
    serve p l now r = ((answerRoute p l now r route).1,
      (openToAll ∘ finish r route) <$> (answerRoute p l now r route).2) := by
  simp only [serve, h, if_false, hpath]

/-- The flow that refuses a request which came too early. -/
def turnAway (p : Portal) (r : Request) : Flow Response :=
  .emit (.throttled (r.key p) r.path p.rateLimit) (refuse .tooManyRequests)

/-- A throttled route asks the limiter first, and turns the request away if it says no. -/
theorem answerRoute_of_throttle (h : route.guard = .throttle) :
    answerRoute p l now r route = ((l.allow (r.key p) r.path p.rateLimit now).2,
      if (l.allow (r.key p) r.path p.rateLimit now).1 then handleMethod p {} r route
      else turnAway p r) := by
  rcases hallow : l.allow (r.key p) r.path p.rateLimit now with ⟨accepted, limiter⟩
  unfold Request.key at hallow
  simp only [answerRoute, h, throttled, hallow]
  cases accepted with
  | false => rfl
  | true => rfl

/-- The limiter sees only the throttled routes. -/
theorem answerRoute_fst (h : route.guard ≠ .throttle) : (answerRoute p l now r route).1 = l := by
  cases hguard : route.guard with
  | throttle => exact absurd hguard h
  | none => simp only [answerRoute, hguard]
  | token => simp only [answerRoute, hguard]
  | admin => simp only [answerRoute, hguard]

/-- A request that is counted: it is no preflight, and its route counts requests. -/
def Request.Counted (r : Request) : Prop :=
  r.method ≠ "OPTIONS" ∧ ∃ route, Route.ofPath? r.path = some route ∧ route.guard = .throttle

/-- **What a request does to the limiter**: it is put to it if it is counted. -/
theorem limiter_serve (p : Portal) (l : RateLimiter) (now : Instant) (r : Request) :
    (r.Counted ∧ (serve p l now r).1 = (l.allow (r.key p) r.path p.rateLimit now).2) ∨
      (¬ r.Counted ∧ (serve p l now r).1 = l) := by
  by_cases hmethod : r.method = "OPTIONS"
  · refine Or.inr ⟨fun h => h.1 hmethod, ?_⟩
    rw [serve_of_options hmethod]
  · cases hpath : Route.ofPath? r.path with
    | none =>
      refine Or.inr ⟨?_, ?_⟩
      · rintro ⟨-, route, hroute, -⟩
        rw [hpath] at hroute
        cases hroute
      · rw [serve_of_unknown hmethod hpath]
    | some route =>
      rw [serve_of_route hmethod hpath]
      by_cases hguard : route.guard = .throttle
      · refine Or.inl ⟨⟨hmethod, route, hpath, hguard⟩, ?_⟩
        rw [answerRoute_of_throttle hguard]
      · refine Or.inr ⟨?_, answerRoute_fst hguard⟩
        rintro ⟨-, route', hroute', hguard'⟩
        rw [hpath] at hroute'
        obtain rfl := Option.some.inj hroute'
        exact hguard hguard'

/-! ## Sites -/

/-- A request as it comes in, with what the world shows while it is answered. -/
structure Visit where
  /-- When it arrives, by the clock that never goes back. -/
  time : Instant
  /-- What the calendar clock shows. -/
  date : Instant
  /-- What is wrong with the source of random bytes, if it fails. -/
  fault : Option String := none
  /-- The bytes of the secret with this number, if it does not fail. -/
  bytes : Nat → (n : Nat) → Vector UInt8 n := fun _ n => .replicate n 0
  /-- The salt of a password hash, or what went wrong. -/
  salt : Except String (Vector UInt8 16) := .error ""
  /-- The request. -/
  request : Request

/-- The source of random bytes during a visit. -/
def Visit.entropy (v : Visit) : Entropy where
  secret k n :=
    match v.fault with
    | none => .ok (v.bytes k n)
    | some e => .error e
  salt := v.salt

/-- What happens to a site. -/
inductive Act where
  /-- A request comes in. -/
  | visit (v : Visit)
  /-- The limiter drops what is out of date. -/
  | sweep (time : Instant)

/-- When it happens. -/
def Act.time : Act → Instant
  | .visit v => v.time
  | .sweep time => time

/-- The acts come in the order of time. -/
def InOrder (acts : List Act) : Prop := acts.Pairwise fun a b => a.time ≤ b.time

instance (acts : List Act) : Decidable (InOrder acts) :=
  inferInstanceAs (Decidable (acts.Pairwise fun a b => a.time ≤ b.time))

/-- A run has a beginning. -/
theorem InOrder.exists_start {acts : List Act} (h : InOrder acts) :
    ∃ start, ∀ a ∈ acts, start ≤ a.time := by
  cases acts with
  | nil => exact ⟨0, fun a ha => by cases ha⟩
  | cons a acts =>
    refine ⟨a.time, fun b hb => ?_⟩
    rcases List.mem_cons.1 hb with rfl | hb
    · exact Int.le_refl b.time
    · exact (List.pairwise_cons.1 h).1 b hb

/-- A server between two requests. -/
structure Site (σ : Type) where
  /-- The limiter. -/
  limiter : RateLimiter := {}
  /-- The store. -/
  store : σ
  /-- The number of secrets drawn so far. -/
  drawn : Nat := 0
  /-- What was logged. -/
  log : List Event := []

namespace Site

/-- The world in which a visit is answered. -/
def world (s : Site σ) (v : Visit) : World σ := ⟨v.date, v.entropy, s.drawn, s.store, s.log⟩

variable (p : Portal) (backend : Backend σ)

/-- What a visit is answered, unless its flow is abandoned, and the site after it. -/
def answer (s : Site σ) (v : Visit) : Option Response × Site σ :=
  let (limiter, flow) := serve p s.limiter v.time v.request
  let (response, w) := flow.exec backend (s.world v)
  (response, ⟨limiter, w.store, w.drawn, w.log⟩)

/-- The site after an act. -/
def step (s : Site σ) : Act → Site σ
  | .visit v => (s.answer p backend v).2
  | .sweep time =>
    let (removed, limiter) := s.limiter.sweep time
    { s with limiter, log := s.log ++ [.swept removed limiter.trackedKeys] }

/-- The site after a run. -/
def run (s : Site σ) (acts : List Act) : Site σ := acts.foldl (step p backend) s

/-- The visits of a run, each with the site that it finds. -/
def visits : Site σ → List Act → List (Site σ × Visit)
  | _, [] => []
  | s, .visit v :: acts => (s, v) :: visits (s.step p backend (.visit v)) acts
  | s, .sweep time :: acts => visits (s.step p backend (.sweep time)) acts

/-- The responses of a run, one for each visit. -/
def responses (s : Site σ) (acts : List Act) : List (Option Response) :=
  (s.visits p backend acts).map fun e => (e.1.answer p backend e.2).1

variable {p backend}

@[simp] theorem run_nil (s : Site σ) : s.run p backend [] = s := rfl

@[simp] theorem run_cons (s : Site σ) (a : Act) (acts : List Act) :
    s.run p backend (a :: acts) = (s.step p backend a).run p backend acts := rfl

@[simp] theorem visits_visit (s : Site σ) (v : Visit) (acts : List Act) :
    s.visits p backend (.visit v :: acts) =
      (s, v) :: (s.step p backend (.visit v)).visits p backend acts := rfl

@[simp] theorem visits_sweep (s : Site σ) (time : Instant) (acts : List Act) :
    s.visits p backend (.sweep time :: acts) =
      (s.step p backend (.sweep time)).visits p backend acts := rfl

@[simp] theorem responses_visit (s : Site σ) (v : Visit) (acts : List Act) :
    s.responses p backend (.visit v :: acts) =
      (s.answer p backend v).1 :: (s.step p backend (.visit v)).responses p backend acts := rfl

@[simp] theorem responses_sweep (s : Site σ) (time : Instant) (acts : List Act) :
    s.responses p backend (.sweep time :: acts) =
      (s.step p backend (.sweep time)).responses p backend acts := rfl

variable {s : Site σ} {v : Visit}

theorem fst_answer : (s.answer p backend v).1 =
    ((serve p s.limiter v.time v.request).2.exec backend (s.world v)).1 := rfl

theorem store_answer : (s.answer p backend v).2.store =
    ((serve p s.limiter v.time v.request).2.exec backend (s.world v)).2.store := rfl

theorem drawn_answer : (s.answer p backend v).2.drawn =
    ((serve p s.limiter v.time v.request).2.exec backend (s.world v)).2.drawn := rfl

end Site

end Http

end Gatehouse
