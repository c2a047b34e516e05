/-
  Whether there is an account cannot be found out.

  Two servers are twins (`Twins`) if one of them has an account more than the other, and their
  limiters are the same.  Somebody sends both the same requests: log-ins, whose passwords are wrong
  for every account with the address, and requests for a reset.  Then the responses are the same,
  one by one, and so are the limiters in the end (`accounts_stay_hidden`).

  The proof compares the two runs request by request.  A flow answers alike in two worlds (`Alike`)
  if it ends with the same response in both and changes nothing but reset records; this goes through
  the ways in which handlers are put together.  What the worlds differ in beyond the account makes
  no difference: the reset records, the number of secrets drawn and the log are not looked at.

  One thing is asked of the clock.  A request for a reset is abandoned if the calendar has no date
  for the end of the token, and it comes to that only if there is an account with the address.  So
  the time must lie an hour or more before the end of the calendar (`InTime`), and every time that a
  clock shows does (`inTime_ofNanoseconds`).
-/
import Gatehouse.Proofs.Http.Site
import Gatehouse.Proofs.Portal.Probing

namespace Gatehouse.Http

open Memory (OnlyResets)

/-- The calendar has a date for the end of a reset token that is issued now. -/
def InTime (now : Instant) : Prop := Instant.inCalendar (now + resetLifetime) = true

/-- **Whatever a clock shows is in time.** -/
theorem inTime_ofNanoseconds (n : Int64) : InTime (.ofNanoseconds n) := by
  have hshown : (Instant.ofNanoseconds n).natAbs ≤ 9223372036855 :=
    Instant.natAbs_ofNanoseconds_le n
  have hlifetime : resetLifetime = 3600000 := rfl
  rw [InTime, Instant.inCalendar, Bool.and_eq_true, decide_eq_true_iff, decide_eq_true_iff,
    Instant.seconds_eq_ediv, hlifetime, calendarStart, calendarEnd]
  omega

theorem InTime.not_late {w : World Memory} (h : InTime w.now) : ¬ Portal.Late w := by
  rintro ⟨-, hend⟩
  have hsome : w.now.plus? resetLifetime = some (w.now + resetLifetime) :=
    Instant.plus?_eq_some_iff.2 ⟨rfl, h⟩
  rw [hsome] at hend
  cases hend

/-! ## Flows that answer alike -/

/-- The flow ends with the same response in both worlds, or is abandoned in both, and changes
nothing but reset records. -/
structure Alike (q : Flow Response) (w w' : World Memory) : Prop where
  /-- What is sent is the same. -/
  same : (q.exec Memory.backend w').1 = (q.exec Memory.backend w).1
  /-- Something is sent, if the calendar allows it. -/
  answered : InTime w.now → ∃ response, (q.exec Memory.backend w).1 = some response
  /-- What the first world keeps. -/
  keeps : w.store.OnlyResets (q.exec Memory.backend w).2.store
  /-- What the second world keeps. -/
  keeps' : w'.store.OnlyResets (q.exec Memory.backend w').2.store

variable {w w' : World Memory}

theorem alike_done (response : Response) : Alike (.done response) w w' where
  same := rfl
  answered _ := ⟨response, rfl⟩
  keeps := .refl _
  keeps' := .refl _

theorem alike_emit (e : Event) (response : Response) : Alike (.emit e (.done response)) w w' where
  same := rfl
  answered _ := ⟨response, rfl⟩
  keeps := .refl _
  keeps' := .refl _

theorem alike_refuse (e : ApiError) : Alike (refuse e) w w' := by
  unfold refuse
  split
  · exact alike_emit _ _
  · exact alike_done _

/-- Only how a flow runs in the two worlds matters. -/
theorem Alike.congr {q q' : Flow Response} (h : Alike q w w')
    (hw : q'.exec Memory.backend w = q.exec Memory.backend w)
    (hw' : q'.exec Memory.backend w' = q.exec Memory.backend w') : Alike q' w w' where
  same := by rw [hw, hw', h.same]
  answered := by
    rw [hw]
    exact h.answered
  keeps := by
    rw [hw]
    exact h.keeps
  keeps' := by
    rw [hw']
    exact h.keeps'

theorem Alike.map {q : Flow Response} (h : Alike q w w') (f : Response → Response) :
    Alike (f <$> q) w w' where
  same := by rw [Flow.exec_map, Flow.exec_map, h.same]
  answered hdate := by
    obtain ⟨response, hresponse⟩ := h.answered hdate
    exact ⟨f response, by rw [Flow.exec_map, hresponse, Option.map_some]⟩
  keeps := by
    rw [Flow.exec_map]
    exact h.keeps
  keeps' := by
    rw [Flow.exec_map]
    exact h.keeps'

theorem alike_withBody {α : Type} {shape : Json.Shape α} {r : Request} {f : α → Flow Response}
    (h : ∀ a, readBody shape r = .ok a → Alike (f a) w w') : Alike (withBody shape r f) w w' := by
  unfold withBody
  split
  · rename_i a hbody
    exact h a hbody
  · exact alike_done _

/-- A handler that refuses in both worlds for the same reason, and leaves them as they were. -/
theorem alike_respond {α : Type} {h : Handler α} {ok : α → Response} {e : ApiError}
    (hexec : Flow.exec Memory.backend (ExceptT.run h) w = (some (.error e), w))
    (hexec' : Flow.exec Memory.backend (ExceptT.run h) w' = (some (.error e), w')) :
    Alike (respond h ok) w w' := by
  have hrespond {v : World Memory}
      (hv : Flow.exec Memory.backend (ExceptT.run h) v = (some (.error e), v)) :
      (respond h ok).exec Memory.backend v = (refuse e).exec Memory.backend v := by
    show Flow.exec Memory.backend (Flow.bind _ _) v = _
    rw [Flow.exec_bind, hv]
  exact (alike_refuse e).congr (hrespond hexec) (hrespond hexec')

/-! ## Requests that try an address -/

section Handlers

variable {p : Portal} {x : Account} {r : Request}

/-- The password of a log-in is not that of an account with its address. -/
def Request.WrongFor (r : Request) (accounts : Table Uuid Account) : Prop :=
  ∀ b, readBody LoginBody.shape r = .ok b → ∀ k account, accounts.get? k = some account →
    Text.lowerCase account.user.email = Text.lowerCase (Text.trim b.email) →
      Password.verify b.password account.passwordHash ≠ .ok true

/-- A reset is asked for by the address of the account. -/
def Request.Seeks (r : Request) (x : Account) : Prop :=
  ∃ email, readBody (oneText "email") r = .ok email ∧
    Text.lowerCase x.user.email = Text.lowerCase (Text.trim email)

/-- The hash of the account is one that the service makes for a new password. -/
def Made (x : Account) : Prop :=
  ∃ (salt : Vector UInt8 16) (password : String),
    x.passwordHash = Password.hashWith salt.toList password

variable (more : w'.store.Extends w.store x) (distinct : w'.store.Distinct)
include more distinct

/-- **A log-in with a wrong password** is answered alike, whether there is one account more or not,
if its hash was made by the service. -/
theorem alike_login (made : Made x) (wrong : r.WrongFor w'.store.accounts) :
    Alike (handle p {} r .login) w w' := by
  refine alike_withBody fun b hbody => ?_
  have wrong' (account : Account) (h : w'.store.findByEmail b.email = some account) :
      Password.verify b.password account.passwordHash ≠ .ok true := by
    obtain ⟨k, hk, hemail⟩ := Memory.exists_of_findByEmail h
    exact wrong b hbody k account hk hemail
  have wrong (account : Account) (h : w.store.findByEmail b.email = some account) :
      Password.verify b.password account.passwordHash ≠ .ok true := by
    obtain ⟨k, hk, hemail⟩ := Memory.exists_of_findByEmail h
    exact wrong b hbody k account (more.get?_of_get? hk) hemail
  have hsame : Portal.refusal b.email b.password (w'.store.findByEmail b.email) =
      Portal.refusal b.email b.password (w.store.findByEmail b.email) := by
    rcases more.findByEmail distinct b.email with ⟨hnone, hx⟩ | hfound
    · obtain ⟨salt, password, hhash⟩ := made
      rw [hnone, hx]
      exact Portal.refusal_of_made hhash b.email b.password
    · rw [hfound]
  have hexec := Portal.exec_login p (r.client p) wrong
  have hexec' := Portal.exec_login p (r.client p) wrong'
  rw [hsame] at hexec'
  exact alike_respond hexec hexec'

/-- **A request for a reset** is answered alike, unless it seeks the account that is not in both
stores and comes too late. -/
theorem alike_forgotPassword (late : Portal.Late w' ↔ Portal.Late w)
    (inTime : r.Seeks x → InTime w.now) : Alike (handle p {} r .forgotPassword) w w' := by
  refine alike_withBody fun email hbody => ?_
  obtain ⟨outcome, after, hexec, hnone, honly⟩ := Portal.exec_forgotPassword p email w
  obtain ⟨outcome', after', hexec', hnone', honly'⟩ := Portal.exec_forgotPassword p email w'
  have hboth : outcome' = none ↔ outcome = none := by
    rw [hnone, hnone', late]
    rcases more.findByEmail distinct email with ⟨habsent, hx⟩ | hfound
    · -- the account is sought, so it is not too late
      obtain ⟨k, hk, hemail⟩ := Memory.exists_of_findByEmail hx
      have hdate : InTime w.now := inTime ⟨email, hbody, hemail⟩
      have hnot : ¬ Portal.Late w := hdate.not_late
      simp only [hnot, and_false]
    · rw [hfound]
  have hsame : outcome' = outcome := by
    cases outcome with
    | none => exact hboth.2 rfl
    | some u =>
      cases outcome' with
      | none => cases hboth.1 rfl
      | some u' => rfl
  have haccepted {v after : World Memory} {outcome : Option Unit}
      (hv : (p.forgotPassword email).exec Memory.backend v = (outcome, after)) :
      Flow.exec Memory.backend (do p.forgotPassword email; return { status := 202 }) v =
        (outcome.map fun _ => ({ status := 202 } : Response), after) := by
    show Flow.exec Memory.backend (Flow.bind _ _) v = _
    rw [Flow.exec_bind, hv]
    cases outcome with
    | none => rfl
    | some u => rfl
  constructor
  · rw [haccepted hexec, haccepted hexec', hsame]
  · intro hdate
    rw [haccepted hexec]
    cases outcome with
    | none => exact absurd (hnone.1 rfl).2 hdate.not_late
    | some u => exact ⟨_, rfl⟩
  · rw [haccepted hexec]
    exact honly
  · rw [haccepted hexec']
    exact honly'

end Handlers

/-! ## Twins -/

/-- The second site has the account `x` more than the first, with an address of its own and a hash
that was made by the service, and the limiters are the same.  In what else the stores hold they may
differ. -/
structure Twins (x : Account) (s s' : Site Memory) : Prop where
  /-- The account comes to the others. -/
  more : s'.store.Extends s.store x
  /-- No two users have the same address. -/
  distinct : s'.store.Distinct
  /-- The hash is one that is made for a new password. -/
  made : Made x
  /-- The limiters are the same. -/
  limiter : s'.limiter = s.limiter

/-- The visit tries an address: it asks for a reset, or it logs in with a password that is wrong for
every account with the address. -/
structure Visit.Probes (v : Visit) (accounts : Table Uuid Account) : Prop where
  /-- The method is the one that fits. -/
  post : v.request.method = "POST"
  /-- Nothing else is asked for. -/
  path : Route.ofPath? v.request.path = some .login ∨
    Route.ofPath? v.request.path = some .forgotPassword
  /-- A log-in has a wrong password. -/
  wrong : Route.ofPath? v.request.path = some .login → v.request.WrongFor accounts

/-- The visit asks for a reset by the address of the account. -/
def Visit.Seeks (v : Visit) (x : Account) : Prop :=
  Route.ofPath? v.request.path = some .forgotPassword ∧ v.request.Seeks x

namespace Twins

variable {p : Portal} {x : Account} {s s' : Site Memory} {v : Visit}

/-- Whether a visit is late for a reset does not depend on the site. -/
theorem late_world_iff (s s' : Site Memory) (v : Visit) :
    Portal.Late (s'.world v) ↔ Portal.Late (s.world v) := by
  have hsecret (s : Site Memory) :
      ((s.world v).secret? Secret.resetLength).isSome = v.fault.isNone := by
    simp only [Site.world, World.secret?, Visit.entropy]
    cases v.fault with
    | none => rfl
    | some e => rfl
  unfold Portal.Late
  rw [hsecret, hsecret]
  rfl

/-- The flow that answers a visit does so alike for twins. -/
theorem alike (twins : Twins x s s') (probes : v.Probes s'.store.accounts)
    (inTime : v.Seeks x → InTime v.date) :
    Alike (serve p s.limiter v.time v.request).2 (s.world v) (s'.world v) := by
  have hoptions : v.request.method ≠ "OPTIONS" := by
    rw [probes.post]
    decide
  have handled {route : Route} (hpath : Route.ofPath? v.request.path = some route)
      (hguard : route.guard = .throttle)
      (h : Alike (handle p {} v.request route) (s.world v) (s'.world v)) :
      Alike (serve p s.limiter v.time v.request).2 (s.world v) (s'.world v) := by
    rw [serve_of_route hoptions hpath, answerRoute_of_throttle hguard]
    refine Alike.map ?_ _
    split
    · unfold handleMethod
      split
      · exact h
      · exact alike_done _
    · exact alike_emit _ _
  rcases probes.path with hpath | hpath
  · exact handled hpath rfl (alike_login twins.more twins.distinct twins.made (probes.wrong hpath))
  · refine handled hpath rfl (alike_forgotPassword twins.more twins.distinct ?_ ?_)
    · exact late_world_iff s s' v
    · exact fun hseeks => inTime ⟨hpath, hseeks⟩

/-- **A visit** is answered alike by twins, and they stay twins. -/
theorem answer (p : Portal) (twins : Twins x s s') (probes : v.Probes s'.store.accounts)
    (inTime : v.Seeks x → InTime v.date) :
    (s'.answer p Memory.backend v).1 = (s.answer p Memory.backend v).1 ∧
      (InTime v.date → ∃ response, (s.answer p Memory.backend v).1 = some response) ∧
      Twins x (s.answer p Memory.backend v).2 (s'.answer p Memory.backend v).2 ∧
      s.store.OnlyResets (s.answer p Memory.backend v).2.store ∧
      s'.store.OnlyResets (s'.answer p Memory.backend v).2.store := by
  have alike := twins.alike (p := p) probes inTime
  have hfst : (s'.answer p Memory.backend v).1 =
      ((serve p s.limiter v.time v.request).2.exec Memory.backend (s'.world v)).1 := by
    rw [Site.fst_answer, twins.limiter]
  have limiter : (s'.answer p Memory.backend v).2.limiter =
      (s.answer p Memory.backend v).2.limiter := by
    show (serve p s'.limiter v.time v.request).1 = (serve p s.limiter v.time v.request).1
    rw [twins.limiter]
  have keeps : s.store.OnlyResets (s.answer p Memory.backend v).2.store := alike.keeps
  have keeps' : s'.store.OnlyResets (s'.answer p Memory.backend v).2.store := by
    rw [Site.store_answer, twins.limiter]
    exact alike.keeps'
  refine ⟨hfst.trans alike.same, alike.answered, ⟨?_, ?_, twins.made, limiter⟩, keeps, keeps'⟩
  · exact keeps.more keeps' twins.more
  · exact keeps'.distinct twins.distinct

theorem sweep (twins : Twins x s s') (time : Instant) :
    Twins x (s.step p Memory.backend (.sweep time)) (s'.step p Memory.backend (.sweep time)) where
  more := twins.more
  distinct := twins.distinct
  made := twins.made
  limiter := by
    show (s'.limiter.sweep time).2 = (s.limiter.sweep time).2
    rw [twins.limiter]

/-- **Whether there is an account stays hidden.**  Twins give the same responses to any log-ins with
wrong passwords and any requests for a reset, and every visit has a response, at any times that a
clock can show (`inTime_ofNanoseconds`).  Their limiters stay the same, and in both nothing changes
but reset records. -/
theorem accounts_stay_hidden (p : Portal) {acts : List Act} (twins : Twins x s s')
    (probes : ∀ v, .visit v ∈ acts → v.Probes s'.store.accounts)
    (inTime : ∀ v, .visit v ∈ acts → v.Seeks x → InTime v.date) :
    s'.responses p Memory.backend acts = s.responses p Memory.backend acts ∧
    (∀ e ∈ s.visits p Memory.backend acts, InTime e.2.date →
      ∃ response, (e.1.answer p Memory.backend e.2).1 = some response) ∧
    (s'.run p Memory.backend acts).limiter = (s.run p Memory.backend acts).limiter ∧
    s.store.OnlyResets (s.run p Memory.backend acts).store ∧
    s'.store.OnlyResets (s'.run p Memory.backend acts).store := by
  induction acts generalizing s s' with
  | nil =>
    refine ⟨rfl, ?_, twins.limiter, .refl _, .refl _⟩
    intro e he
    cases he
  | cons a acts ih =>
    have later (v : Visit) (h : .visit v ∈ acts) : .visit v ∈ a :: acts := List.mem_cons_of_mem a h
    have inTime' (v : Visit) (h : .visit v ∈ acts) : v.Seeks x → InTime v.date :=
      inTime v (later v h)
    cases a with
    | sweep time => exact ih (twins.sweep time) (fun v h => probes v (later v h)) inTime'
    | visit v =>
      obtain ⟨hanswer, hanswered, twins', keeps, keeps'⟩ :=
        twins.answer p (probes v List.mem_cons_self) (inTime v List.mem_cons_self)
      have probes' (u : Visit) (h : .visit u ∈ acts) :
          u.Probes (s'.answer p Memory.backend v).2.store.accounts := by
        rw [keeps'.accounts]
        exact probes u (later u h)
      obtain ⟨hrest, hanswers, hlimiter, hkeeps, hkeeps'⟩ := ih twins' probes' inTime'
      refine ⟨?_, fun e he => ?_, hlimiter, keeps.trans hkeeps, keeps'.trans hkeeps'⟩
      · rw [Site.responses_visit, Site.responses_visit, hanswer]
        exact congrArg _ hrest
      · rcases List.mem_cons.1 he with rfl | he
        · exact hanswered
        · exact hanswers e he

/-! ## An account, and a site without it -/

/-- The account that is looked for. -/
def sought : Account :=
  ⟨⟨.ofNat 1, "a@example.org", none, "learner"⟩,
    Password.hashWith (Vector.replicate 16 0).toList "password"⟩

/-- A site without accounts. -/
def without : Site Memory := { store := {} }

/-- The same site with the account. -/
def withSought : Site Memory where
  store := ({} : Memory).insertUser sought.user sought.passwordHash

theorem eq_sought {k : Uuid} {account : Account}
    (h : withSought.store.accounts.get? k = some account) :
    k = sought.user.id ∧ account = sought := by
  have hget : withSought.store.accounts.get? k = if k = sought.user.id then some sought else none :=
    Table.get?_insert ∅ sought.user.id k sought
  rw [hget] at h
  split at h
  · rename_i hk
    exact ⟨hk, (Option.some.inj h).symm⟩
  · cases h

theorem twins_sought : Twins sought without withSought where
  more := ⟨rfl, fun k => Table.get?_insert ∅ sought.user.id k sought⟩
  distinct _ _ _ _ hk hk' _ := (eq_sought hk).1.trans (eq_sought hk').1.symm
  made := ⟨Vector.replicate 16 0, "password", rfl⟩
  limiter := rfl

/-- A portal with a limit of three requests a minute. -/
def examplePortal : Portal := ⟨⟨⟨"", "", 0⟩, 0⟩, 3, "http://localhost/reset", false⟩

/-- A request with a body in JSON, at the start of 1970. -/
def post (path body : String) : Visit where
  time := 0
  date := .ofNanoseconds 0
  request :=
    ⟨"POST", path, [⟨"content-type", Text.utf8 "application/json"⟩], Text.utf8 body, none⟩

/-- A reset is asked for by the address of the account. -/
def askReset : Visit :=
  post "/api/v1/auth/forgot-password" "\x7b\"email\":\"a@example.org\"\x7d"

/-- Somebody logs in with an address that nobody has. -/
def tryLogin : Visit :=
  post "/api/v1/auth/login"
    "\x7b\"email\":\"b@example.org\",\"password\":\"password\"\x7d"

theorem probes_askReset : askReset.Probes withSought.store.accounts where
  post := rfl
  path := Or.inr (show Route.ofPath? "/api/v1/auth/forgot-password" = _ by decide +kernel)
  wrong h := by
    have hpath : Route.ofPath? "/api/v1/auth/forgot-password" ≠ some .login := by decide +kernel
    exact absurd h hpath

theorem probes_tryLogin : tryLogin.Probes withSought.store.accounts where
  post := rfl
  path := Or.inl (show Route.ofPath? "/api/v1/auth/login" = _ by decide +kernel)
  wrong _ b hbody k account hk hemail := by
    have hread : (readBody LoginBody.shape tryLogin.request).toOption.map (·.email) =
        some "b@example.org" := by decide +kernel
    rw [hbody] at hread
    have haddress : b.email = "b@example.org" := Option.some.inj hread
    have hother : Text.lowerCase sought.user.email ≠
        Text.lowerCase (Text.trim "b@example.org") := by decide +kernel
    rw [(eq_sought hk).2, haddress] at hemail
    exact absurd hemail hother

/-- The account is sought until the limit is reached, and an address is tried that nobody has. -/
def probing : List Act :=
  [.visit askReset, .visit askReset, .visit askReset, .visit askReset, .visit tryLogin]

theorem accounts_stay_hidden_sought :
    Twins sought without withSought ∧
      (∀ v, .visit v ∈ probing → v.Probes withSought.store.accounts) ∧
      (∀ v, .visit v ∈ probing → InTime v.date) ∧
      (without.responses examplePortal Memory.backend probing).map (Option.map (·.status)) =
        [some 202, some 202, some 202, some 429, some 401] ∧
      withSought.responses examplePortal Memory.backend probing =
        without.responses examplePortal Memory.backend probing := by
  have either {v : Visit} (h : .visit v ∈ probing) : v = askReset ∨ v = tryLogin := by
    simpa [probing] using h
  have probes (v : Visit) (h : .visit v ∈ probing) : v.Probes withSought.store.accounts := by
    rcases either h with rfl | rfl
    · exact probes_askReset
    · exact probes_tryLogin
  have inTime (v : Visit) (h : .visit v ∈ probing) : InTime v.date := by
    have hdate : v.date = .ofNanoseconds 0 := by rcases either h with rfl | rfl <;> rfl
    rw [hdate]
    exact inTime_ofNanoseconds 0
  have hidden := accounts_stay_hidden examplePortal twins_sought probes fun v h _ => inTime v h
  exact ⟨twins_sought, probes, inTime, by decide +kernel, hidden.1⟩

end Twins

end Gatehouse.Http
