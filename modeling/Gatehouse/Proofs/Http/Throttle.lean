/-
  The limit at the boundary of the server.

  A client may send so many requests a minute to each credential route.  The limiter counts under
  the path of the request and the name of its client, and a path that leads to a credential route is
  spelled in one way only (`Route.exists_path`).  So whatever else a request says, the limit is held
  for the route, and not for a spelling of its path.

  `Site.Hands` says that a request comes to the handler of a route: it is answered by the flow of
  the handler, and by no other flow that the server has (`hands_iff`).  Besides these requests the
  limiter counts those whose method does not fit, so the bound for the accepted ones is a bound for
  those that are handled.
-/
import Gatehouse.Proofs.Http.Refusal
import Gatehouse.Proofs.RateLimit.Spacing

namespace Gatehouse.Http

open RateLimiter (Metered Brief minuteFrom minuteAfter)

variable {σ : Type} {p : Portal} {backend : Backend σ}

/-! ## Credential routes -/

/-- The routes that take credentials. -/
def credentialRoutes : List Route := [.login, .refresh, .forgotPassword, .resetPassword]

theorem guard_of_mem {route : Route} (h : route ∈ credentialRoutes) : route.guard = .throttle := by
  revert route
  decide

theorem accepts_of_mem {route : Route} (h : route ∈ credentialRoutes) (method : String) :
    route.accepts method = true ↔ method = "POST" := by
  have hread : route.isRead = false := by
    revert route
    decide
  simp [Route.accepts, hread]

/-- Every path to a credential route is the same. -/
theorem exists_path {route : Route} (h : route ∈ credentialRoutes) :
    ∃ path, ∀ path', Route.ofPath? path' = some route → path' = path := by
  have unique : ∀ e ∈ Route.fixed, ∀ e' ∈ Route.fixed, e.2 = e'.2 → e.1 = e'.1 := by decide
  have listed {path : String} (hpath : Route.ofPath? path = some route) :
      (path, route) ∈ Route.fixed := by
    rcases Option.or_eq_some_iff.1 hpath with hlookup | ⟨-, hsegment⟩
    · obtain ⟨before, after, hfixed, -⟩ := List.lookup_eq_some_iff.1 hlookup
      rw [hfixed]
      exact List.mem_append_right before List.mem_cons_self
    · obtain ⟨segment, -, rfl⟩ := Option.map_eq_some_iff.1 hsegment
      simp [credentialRoutes] at h
  by_cases hsome : ∃ path, Route.ofPath? path = some route
  · obtain ⟨path, hpath⟩ := hsome
    exact ⟨path, fun path' hpath' => unique _ (listed hpath') _ (listed hpath) rfl⟩
  · exact ⟨"", fun path' hpath' => absurd ⟨path', hpath'⟩ hsome⟩

/-- How the handler of a credential route begins: it refuses what it was sent, or it asks for random
bytes, or for something in the store. -/
def Opens (q : Flow Response) : Prop :=
  (∃ response, q = .done response ∧ response.status ∈ bodyRefusals) ∨
    (∃ n next, q = .draw n next) ∨ ∃ call next, q = .store call next

theorem opens_withBody {α : Type} {shape : Json.Shape α} {r : Request} {f : α → Flow Response}
    (hf : ∀ a, Opens (f a)) : Opens (withBody shape r f) := by
  unfold withBody
  split
  · exact hf _
  · rename_i response herror
    exact Or.inl ⟨response, rfl, status_of_readBody herror⟩

/-- What is done to the response does not change how the handler begins. -/
theorem Opens.map {q : Flow Response} (h : Opens q) {f : Response → Response}
    (hf : ∀ response, (f response).status = response.status) : Opens (f <$> q) := by
  rcases h with ⟨response, rfl, hstatus⟩ | ⟨n, next, rfl⟩ | ⟨call, next, rfl⟩
  · exact Or.inl ⟨f response, rfl, (hf response).symm ▸ hstatus⟩
  · exact Or.inr (Or.inl ⟨n, _, rfl⟩)
  · exact Or.inr (Or.inr ⟨call, _, rfl⟩)

theorem Opens.status {response : Response} (h : Opens (.done response)) :
    response.status ∈ bodyRefusals := by
  rcases h with ⟨response', hdone, hstatus⟩ | ⟨n, next, hdraw⟩ | ⟨call, next, hstore⟩
  · cases hdone
    exact hstatus
  · cases hdraw
  · cases hstore

theorem not_opens_emit (e : Event) (next : Flow Response) : ¬ Opens (.emit e next) := by
  rintro (⟨response, hdone, -⟩ | ⟨n, next', hdraw⟩ | ⟨call, next', hstore⟩)
  · cases hdone
  · cases hdraw
  · cases hstore

theorem opens_handle {route : Route} (h : route ∈ credentialRoutes) (p : Portal) (r : Request) :
    Opens (handle p {} r route) := by
  cases route with
  | login =>
    refine opens_withBody fun b => ?_
    unfold Portal.login
    split
    · exact Or.inl ⟨_, rfl, by decide⟩
    · exact Or.inr (Or.inr ⟨_, _, rfl⟩)
  | refresh => exact opens_withBody fun token => Or.inr (Or.inl ⟨_, _, rfl⟩)
  | forgotPassword => exact opens_withBody fun email => Or.inr (Or.inr ⟨_, _, rfl⟩)
  | resetPassword =>
    refine opens_withBody fun b => ?_
    unfold Portal.resetPassword Password.checkNew
    split
    · exact Or.inl ⟨_, rfl, by decide⟩
    · split
      · exact Or.inl ⟨_, rfl, by decide⟩
      · exact Or.inr (Or.inr ⟨_, _, rfl⟩)
  | _ => simp [credentialRoutes] at h

/-! ## Coming to a handler -/

namespace Site

/-- The visit is answered by the handler of the route. -/
def Hands (p : Portal) (s : Site σ) (v : Visit) (route : Route) : Prop :=
  Route.ofPath? v.request.path = some route ∧
    (serve p s.limiter v.time v.request).2 =
      (openToAll ∘ finish v.request route) <$> handle p {} v.request route

/-- The limiter lets the visit pass. -/
def Passes (p : Portal) (s : Site σ) (v : Visit) : Prop :=
  (s.limiter.allow (v.request.key p) v.request.path p.rateLimit v.time).1 = true

variable {s : Site σ} {v : Visit} {route : Route}

/-- **Who comes to the handler of a credential route**: a request to its path, with the method that
fits, which the limiter lets pass. -/
theorem hands_iff (h : route ∈ credentialRoutes) :
    s.Hands p v route ↔
      Route.ofPath? v.request.path = some route ∧ v.request.method = "POST" ∧ s.Passes p v := by
  refine and_congr_right fun hpath => ?_
  have opens : Opens ((openToAll ∘ finish v.request route) <$> handle p {} v.request route) :=
    (opens_handle h p v.request).map (status_finish v.request route)
  by_cases hoptions : v.request.method = "OPTIONS"
  · rw [serve_of_options hoptions, hpath]
    constructor
    · intro hflow
      have hstatus := Opens.status (hflow ▸ opens)
      exact absurd hstatus (by decide : (200 : Nat) ∉ bodyRefusals)
    · rintro ⟨hpost, -⟩
      rw [hoptions] at hpost
      exact absurd hpost (by decide)
  · rw [serve_of_route hoptions hpath, answerRoute_of_throttle (guard_of_mem h)]
    unfold Passes
    cases haccepted : (s.limiter.allow (v.request.key p) v.request.path p.rateLimit v.time).1 with
    | false =>
      constructor
      · intro hflow
        exact absurd (hflow ▸ opens) (not_opens_emit _ _)
      · rintro ⟨-, hpasses⟩
        cases hpasses
    | true =>
      simp only [if_true, and_true, handleMethod]
      rw [← accepts_of_mem h]
      cases haccepts : route.accepts v.request.method with
      | true => simp only [if_true]
      | false =>
        simp only [Bool.false_eq_true, if_false, iff_false]
        intro hflow
        have hstatus := Opens.status (hflow ▸ opens)
        rw [status_finish] at hstatus
        exact absurd hstatus (by decide)

/-! ## One act -/

variable {now : Instant} {g : Ledger}

/-- **What an act does to the ledger.**  Nothing that is written down is lost, and a visit that
comes to the handler of a credential route is written down for its path and its client. -/
theorem exists_metered_step (backend : Backend σ) (h : Metered p.rateLimit now s.limiter g)
    {a : Act} (hle : now ≤ a.time) :
    ∃ g' : Ledger, Metered p.rateLimit a.time (s.step p backend a).limiter g' ∧
      (∀ path client during,
        (g.accepted path client).countP during ≤ (g'.accepted path client).countP during) ∧
      ∀ v, a = .visit v → ∀ route ∈ credentialRoutes, s.Hands p v route →
        g'.accepted v.request.path (v.request.key p) =
          g.accepted v.request.path (v.request.key p) ++ [v.time] := by
  cases a with
  | sweep time =>
    exact ⟨g, h.sweep hle, fun _ _ _ => Nat.le_refl _, fun v hv => by cases hv⟩
  | visit v =>
    rcases limiter_serve p s.limiter v.time v.request with ⟨-, hlimiter⟩ | ⟨hnot, hlimiter⟩
    · have kept := RateLimiter.countP_accepted_le g (v.request.key p) v.request.path
        p.rateLimit v.time
      refine ⟨_, ?_, kept, ?_⟩
      · have hsame : (s.step p backend (.visit v)).limiter =
            (s.limiter.allow (v.request.key p) v.request.path p.rateLimit v.time).2 := hlimiter
        rw [hsame]
        exact h.allow (v.request.key p) v.request.path hle
      · rintro _ ⟨⟩ route hroute hhands
        exact h.accepted_allow hle ((hands_iff hroute).1 hhands).2.2
    · have hsame : (s.step p backend (.visit v)).limiter = s.limiter := hlimiter
      refine ⟨g, ⟨?_, ?_, h.spaced⟩, fun _ _ _ => Nat.le_refl _, ?_⟩
      · rw [hsame]
        exact h.agrees.mono hle
      · exact fun ht => Int.le_trans (h.past ht) hle
      · rintro _ ⟨⟩ route hroute hhands
        obtain ⟨hpath, hpost, -⟩ := (hands_iff hroute).1 hhands
        refine absurd ⟨?_, route, hpath, guard_of_mem hroute⟩ hnot
        rw [hpost]
        decide

/-! ## A run -/

open Classical in
/-- The number of visits of a run that come to the handler of a route from a client during a stretch
of time. -/
noncomputable def handled (p : Portal) (backend : Backend σ) (s : Site σ) (acts : List Act)
    (route : Route) (client : String) (during : Instant → Bool) : Nat :=
  (s.visits p backend acts).countP fun e =>
    e.1.Hands p e.2 route ∧ e.2.request.key p = client ∧ during e.2.time = true

/-- **In a run, what was written down before and what comes to the handler** stay within the limit
together. -/
theorem handled_le (backend : Backend σ) {acts : List Act}
    (h : Metered p.rateLimit now s.limiter g)
    (horder : InOrder acts) (hle : ∀ a ∈ acts, now ≤ a.time) (hroute : route ∈ credentialRoutes)
    {path : String} (hpath : ∀ path', Route.ofPath? path' = some route → path' = path)
    (client : String) {during : Instant → Bool} (brief : Brief during) :
    (g.accepted path client).countP during + s.handled p backend acts route client during ≤
      p.rateLimit := by
  classical
  induction acts generalizing s g now with
  | nil => exact h.spaced brief
  | cons a acts ih =>
    obtain ⟨hfirst, hrest⟩ := List.pairwise_cons.1 horder
    obtain ⟨g', hmetered, hkept, hwritten⟩ :=
      exists_metered_step backend h (hle a List.mem_cons_self)
    have hbound := ih hmetered hrest hfirst
    have hbefore := hkept path client during
    cases a with
    | sweep time =>
      have hsame : s.handled p backend (.sweep time :: acts) route client during =
          (s.step p backend (.sweep time)).handled p backend acts route client during := rfl
      omega
    | visit v =>
      have hcount : s.handled p backend (.visit v :: acts) route client during =
          (s.step p backend (.visit v)).handled p backend acts route client during +
            if s.Hands p v route ∧ v.request.key p = client ∧ during v.time = true then 1
            else 0 := by
        simp only [handled, visits_visit, List.countP_cons, decide_eq_true_eq]
      rw [hcount]
      split
      · rename_i hcomes
        obtain ⟨hhands, rfl, hduring⟩ := hcomes
        have hnew := hwritten v rfl route hroute hhands
        rw [hpath _ hhands.1] at hnew
        rw [hnew, List.countP_append, List.countP_singleton, if_pos hduring] at hbound
        omega
      · omega

/-- **A visit that is answered 429** has changed neither the store nor the number of secrets. -/
theorem unchanged_of_status {response : Response} (h : (s.answer p backend v).1 = some response)
    (hstatus : response.status = 429) :
    (s.answer p backend v).2.store = s.store ∧ (s.answer p backend v).2.drawn = s.drawn := by
  rw [fst_answer] at h
  obtain ⟨route, hflow⟩ := turnedAway_of_status h hstatus
  rw [store_answer, drawn_answer, hflow]
  exact ⟨rfl, rfl⟩

/-- **Throttling.**  In every run of a server with a limiter that has accepted nothing yet, no
more visits than the limit come from one client to the handler of a credential route in a minute,
wherever the minute begins; and a visit that is answered 429 leaves the store and the number of
secrets as they were. -/
theorem throttled_per_client (p : Portal) (backend : Backend σ) {s : Site σ} {acts : List Act}
    (fresh : s.limiter.windows = ∅) (horder : InOrder acts) :
    (∀ route ∈ credentialRoutes, ∀ client start,
      s.handled p backend acts route client (minuteFrom start) ≤ p.rateLimit ∧
        s.handled p backend acts route client (minuteAfter start) ≤ p.rateLimit) ∧
    ∀ e ∈ s.visits p backend acts, ∀ response, (e.1.answer p backend e.2).1 = some response →
      response.status = 429 →
        (e.1.answer p backend e.2).2.store = e.1.store ∧
          (e.1.answer p backend e.2).2.drawn = e.1.drawn := by
  refine ⟨fun route hroute client start => ?_, fun e _ response h hstatus =>
    unchanged_of_status h hstatus⟩
  obtain ⟨path, hpath⟩ := exists_path hroute
  have bounded {during : Instant → Bool} (brief : Brief during) :
      s.handled p backend acts route client during ≤ p.rateLimit := by
    obtain ⟨start, hstart⟩ := horder.exists_start
    have hmetered : Metered p.rateLimit start s.limiter {} := .of_fresh fresh
    have hle := handled_le backend hmetered horder hstart hroute hpath client brief
    exact Nat.le_trans (Nat.le_add_left ..) hle
  constructor
  · exact bounded (RateLimiter.brief_minuteFrom start)
  · exact bounded (RateLimiter.brief_minuteAfter start)

/-! ## A client that knocks too often -/

/-- One request a minute is allowed. -/
def onceAMinute : Portal := ⟨⟨⟨"", "", 0⟩, 0⟩, 1, "", false⟩

/-- A log-in without a body. -/
def knock (time : Instant) (method : String) : Visit where
  time := time
  date := 0
  request := ⟨method, "/api/v1/auth/login", [], [], none⟩

/-- A method that does not fit counts, a preflight does not; and a sweep sets nobody free. -/
def knocking : List Act :=
  [.visit (knock 0 "OPTIONS"), .visit (knock 0 "POST"), .visit (knock 30000 "POST"),
    .sweep 59000, .visit (knock 59999 "POST"), .visit (knock 60000 "GET"),
    .visit (knock 60001 "POST"), .visit (knock 120000 "POST")]

theorem throttled_per_client_knocking :
    InOrder knocking ∧
      (({ store := {} } : Site Memory).responses onceAMinute Memory.backend knocking).map
          (Option.map (·.status)) =
        [some 200, some 415, some 429, some 429, some 405, some 429, some 415] ∧
      ∀ start, ({ store := {} } : Site Memory).handled onceAMinute Memory.backend knocking .login
        unknownClient (minuteFrom start) ≤ 1 := by
  have horder : InOrder knocking := by decide
  have hthrottled :=
    throttled_per_client onceAMinute Memory.backend (s := { store := {} }) rfl horder
  refine ⟨horder, by decide +kernel, fun start => ?_⟩
  exact (hthrottled.1 .login List.mem_cons_self unknownClient start).1

end Site

end Gatehouse.Http
