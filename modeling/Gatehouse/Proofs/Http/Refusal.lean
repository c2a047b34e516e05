/-
  Who answers that there were too many requests.

  Only the limiter does.  The service has no error that means it, and no handler refuses in this
  way by itself, whatever the store replies.  So such an answer was given before anything was
  handled: nothing was asked of the store, and no secret was drawn.

  The proof follows the text of the programs.  A handler is patient (`Handler.Patient`) if it never
  ends with this refusal, and a flow is patient if it never ends with such a response; both go
  through the ways in which programs are put together.
-/
import Gatehouse.Proofs.Http.Site
import Gatehouse.Proofs.Portal.Talk

namespace Gatehouse

variable {σ α β : Type}

namespace Flow

/-- What a flow gives in a world is the end of one of its dialogues. -/
theorem exists_ends_of_exec {backend : Backend σ} {p : Flow α} {w : World σ} {a : α}
    (h : (p.exec backend w).1 = some a) : ∃ es, p.Ends es a := by
  induction p generalizing w with
  | done b => exact ⟨[], ends_done.2 ⟨rfl, Option.some.inj h⟩⟩
  | abort => cases h
  | clock next ih =>
    obtain ⟨es, hes⟩ := ih w.now h
    exact ⟨_, ends_step (p := .clock next) (w := w) backend hes⟩
  | draw n next ih =>
    -- which world comes next depends on the source, and so does the rest of the dialogue
    have hstep : ∃ es, ((Flow.draw n next).step backend w).rest.Ends es a := by
      simp only [exec] at h
      simp only [step]
      cases hbytes : w.entropy.secret (w.drawn + 1) n with
      | ok bytes =>
        rw [hbytes] at h
        exact ih _ h
      | error e =>
        rw [hbytes] at h
        exact ih _ h
    obtain ⟨es, hes⟩ := hstep
    exact ⟨_, ends_step backend hes⟩
  | salt next ih =>
    obtain ⟨es, hes⟩ := ih w.entropy.salt h
    exact ⟨_, ends_step (p := .salt next) (w := w) backend hes⟩
  | emit e next ih =>
    obtain ⟨es, hes⟩ := ih h
    exact ⟨_, ends_step (p := .emit e next) (w := w) backend hes⟩
  | store call next ih =>
    obtain ⟨es, hes⟩ := ih _ h
    exact ⟨_, ends_step (p := .store call next) (w := w) backend hes⟩

/-- What is logged on the way is no exchange: the dialogues are those of the rest. -/
theorem ends_emit {e : Event} {next : Flow α} {es : List Exchange} {a : α} :
    (emit e next).Ends es a ↔ next.Ends es a := by
  rw [Ends]

end Flow

/-! ## Handlers -/

/-- No error of the service means that there were too many requests. -/
theorem ApiError.ofAuth_ne (e : AuthError) : ofAuth e ≠ .tooManyRequests := by
  unfold ofAuth
  split
  · exact ApiError.noConfusion
  · split <;> exact ApiError.noConfusion

/-- No other refusal has the status of this one. -/
theorem ApiError.status_ne {e : ApiError} (h : e ≠ .tooManyRequests) : e.status ≠ 429 := by
  cases e with
  | tooManyRequests => exact absurd rfl h
  | _ => simp [status]

namespace Handler

/-- The handler never refuses a request because there were too many. -/
def Patient (h : Handler α) : Prop := ∀ es, ¬ Flow.Ends (ExceptT.run h) es (.error .tooManyRequests)

variable {h : Handler α}

theorem patient_pure (a : α) : Patient (pure a) := by
  intro es hes
  cases ((Program.ends_pure a _).1 hes).2

/-- A handler that refuses for another reason is patient. -/
theorem patient_throw {e : ApiError} (he : e ≠ .tooManyRequests) :
    Patient (throw e : Handler α) := by
  intro es hes
  exact he (Except.error.inj ((Program.ends_throw e _).1 hes).2)

/-- Two patient handlers are patient one after the other. -/
theorem patient_bind {f : α → Handler β} (hh : Patient h) (hf : ∀ a, Patient (f a)) :
    Patient (h >>= f) := by
  intro es hes
  rcases Program.ends_bind.1 hes with ⟨e, hfirst, he⟩ | ⟨a, first, second, -, hsecond, -⟩
  · obtain rfl := Except.error.inj he
    exact hh es hfirst
  · exact hf a second hsecond

/-- After a refusal there is no second part. -/
theorem patient_throw_bind {e : ApiError} (he : e ≠ .tooManyRequests) (f : α → Handler β) :
    Patient ((throw e : Handler α) >>= f) := by
  intro es hes
  rcases Program.ends_bind.1 hes with ⟨e', hfirst, he'⟩ | ⟨a, first, second, hfirst, -, -⟩
  · obtain rfl := Except.error.inj he'
    exact patient_throw he es hfirst
  · cases ((Program.ends_throw e _).1 hfirst).2

/-- **A program of the service is patient** on behalf of a request, whatever the store replies to
it: its errors are those of the service, and none of them means that there were too many requests.
-/
theorem patient_forRequest (p : Program α) : Patient p.forRequest := by
  intro es hes
  obtain ⟨y, -, hy⟩ := Program.ends_adapt hes
  cases y with
  | ok a => cases hy
  | error e => exact ApiError.ofAuth_ne e (Except.error.inj hy).symm

end Handler

namespace Portal

open Handler

/-- A log-in is refused for what is missing or wrong, never for its number. -/
theorem patient_login (p : Portal) (email password : String) (client : ClientInfo) :
    Patient (p.login email password client) := by
  unfold login
  split
  · exact patient_throw_bind ApiError.noConfusion _
  · refine patient_bind (patient_forRequest _) fun found => ?_
    split
    · exact patient_throw (ApiError.ofAuth_ne _)
    · refine patient_bind (patient_forRequest _) fun passed => ?_
      split
      · refine patient_bind (patient_forRequest _) fun pair => ?_
        exact patient_bind (patient_forRequest _) fun _ => patient_pure _
      · exact patient_throw (ApiError.ofAuth_ne _)

/-- Ending the sessions of a user is refused only for the identifier, or because nobody has it. -/
theorem patient_revokeSessions (userId : String) : Patient (revokeSessions userId) := by
  unfold revokeSessions
  split
  · exact patient_throw ApiError.noConfusion
  · refine patient_bind (patient_forRequest _) fun found => ?_
    split
    · exact patient_throw_bind ApiError.noConfusion _
    · exact patient_forRequest _

/-- Showing the own account is refused only because there is none. -/
theorem patient_currentUser (claims : Claims) : Patient (currentUser claims) := by
  unfold currentUser
  split
  · exact patient_throw (ApiError.ofAuth_ne _)
  · refine patient_bind (patient_forRequest _) fun found => ?_
    split
    · exact patient_throw ApiError.noConfusion
    · exact patient_pure _

end Portal

/-! ## Responses -/

namespace Http

open Handler

/-- The flow never ends with a response that says that there were too many requests. -/
def Patient (p : Flow Response) : Prop := ∀ es response, p.Ends es response → response.status ≠ 429

theorem patient_done {response : Response} (h : response.status ≠ 429) :
    Patient (.done response) := by
  intro es response' hes
  obtain ⟨-, rfl⟩ := Flow.ends_done.1 hes
  exact h

/-- To refuse for another reason is patient, though what failed inside is logged first. -/
theorem patient_refuse {e : ApiError} (he : e ≠ .tooManyRequests) : Patient (refuse e) := by
  have hdone : Patient (.done (Response.json e.status e.body)) :=
    patient_done (ApiError.status_ne he)
  cases e with
  | internal detail =>
    intro es response hes
    unfold refuse at hes
    exact hdone es response (Flow.ends_emit.1 hes)
  | _ => exact hdone

/-- A handler that is patient is answered so. -/
theorem patient_outcome {h : Handler α} (hh : Handler.Patient h) {f : α → Flow Response}
    (hf : ∀ a, Patient (f a)) {g : Except ApiError α → Flow Response}
    (hok : ∀ a, g (.ok a) = f a) (herror : ∀ e, g (.error e) = refuse e) :
    Patient ((ExceptT.run h).bind g) := by
  intro es response hes
  obtain ⟨x, first, second, hfirst, hsecond, -⟩ := Flow.ends_bind.1 hes
  cases x with
  | ok a => exact hf a second response (hok a ▸ hsecond)
  | error e =>
    have he : e ≠ .tooManyRequests := by
      rintro rfl
      exact hh first hfirst
    exact patient_refuse he second response (herror e ▸ hsecond)

theorem patient_respond {h : Handler α} (hh : Handler.Patient h) {ok : α → Response}
    (hok : ∀ a, (ok a).status = 200) : Patient (respond h ok) := by
  have hdone (a : α) : Patient (.done (ok a)) := by
    apply patient_done
    rw [hok a]
    decide
  exact patient_outcome hh hdone (fun _ => rfl) fun _ => rfl

/-- A guard comes before what it guards, and both have to be patient. -/
theorem patient_guarded {check : Handler Claims} (hcheck : Handler.Patient check)
    {next : Claims → Flow Response} (hnext : ∀ claims, Patient (next claims)) :
    Patient (guarded check next) :=
  patient_outcome hcheck hnext (fun _ => rfl) fun _ => rfl

/-- The statuses of the responses that refuse a body: it is no JSON, too long, not said to be JSON,
or of the wrong form. -/
def bodyRefusals : List Nat := [400, 413, 415, 422]

/-- A request whose body cannot be read is answered with one of these. -/
theorem status_of_readBody {shape : Json.Shape α} {r : Request} {response : Response}
    (h : readBody shape r = .error response) : response.status ∈ bodyRefusals := by
  unfold readBody at h
  split at h
  · obtain rfl := Except.error.inj h
    decide
  split at h
  · obtain rfl := Except.error.inj h
    decide
  split at h
  · cases h
  · obtain rfl := Except.error.inj h
    decide
  · obtain rfl := Except.error.inj h
    decide

/-- Reading the body refuses only what cannot be read, so that the rest decides. -/
theorem patient_withBody {shape : Json.Shape α} {r : Request} {f : α → Flow Response}
    (hf : ∀ a, Patient (f a)) : Patient (withBody shape r f) := by
  unfold withBody
  split
  · exact hf _
  · rename_i response herror
    have hstatus := status_of_readBody herror
    refine patient_done fun hmany => ?_
    rw [hmany] at hstatus
    revert hstatus
    decide

variable {p : Portal} {r : Request} {claims : Claims}

/-- A token is missing, of another scheme or not good, but there are never too many. -/
theorem patient_authenticate (p : Portal) (r : Request) : Handler.Patient (authenticate p r) := by
  unfold authenticate
  refine patient_bind ?_ fun token => patient_forRequest _
  unfold bearerToken
  split
  · exact patient_throw ApiError.noConfusion
  · simp only []
    split
    · exact patient_pure _
    · exact patient_throw ApiError.noConfusion

theorem patient_requireRole (role : String) (claims : Option Claims) :
    Handler.Patient (requireRole role claims) := by
  unfold requireRole
  split
  · exact patient_throw ApiError.noConfusion
  · split
    · exact patient_bind (patient_forRequest _) fun _ => patient_throw ApiError.noConfusion
    · exact patient_pure _

/-- **No handler answers that there were too many requests.** -/
theorem patient_handle (p : Portal) (claims : Claims) (r : Request) (route : Route) :
    Patient (handle p claims r route) := by
  cases route with
  | health => exact patient_done (by decide)
  | login =>
    refine patient_withBody fun b => ?_
    exact patient_respond (p.patient_login b.email b.password _) fun _ => rfl
  | refresh =>
    exact patient_withBody fun token => patient_respond (patient_forRequest _) fun _ => rfl
  | logout =>
    exact patient_withBody fun token => patient_respond (patient_forRequest _) fun _ => rfl
  | logoutAll => exact patient_respond (patient_forRequest _) fun _ => rfl
  | forgotPassword =>
    refine patient_withBody fun email => ?_
    intro es response hes
    obtain ⟨_, first, second, -, hdone, -⟩ := Flow.ends_bind.1 hes
    obtain ⟨-, rfl⟩ := Flow.ends_done.1 hdone
    decide
  | resetPassword =>
    exact patient_withBody fun b => patient_respond (patient_forRequest _) fun _ => rfl
  | me => exact patient_respond (Portal.patient_currentUser claims) fun _ => rfl
  | revokeSessions segment =>
    simp only [handle]
    split
    · exact patient_done (by decide)
    · exact patient_respond (Portal.patient_revokeSessions _) fun _ => rfl

/-- Neither does a method that does not fit. -/
theorem patient_handleMethod (p : Portal) (claims : Claims) (r : Request) (route : Route) :
    Patient (handleMethod p claims r route) := by
  unfold handleMethod
  split
  · exact patient_handle p claims r route
  · exact patient_done (by decide)

theorem patient_map {q : Flow Response} (hq : Patient q) {f : Response → Response}
    (hf : ∀ response, (f response).status = response.status) : Patient (f <$> q) := by
  intro es response hes
  obtain ⟨response', first, second, hfirst, hsecond, -⟩ := Flow.ends_bind.1 hes
  obtain ⟨-, rfl⟩ := Flow.ends_done.1 hsecond
  rw [hf response']
  exact hq first response' hfirst

/-- A response is sent with the status that the handler gave it. -/
theorem status_finish (r : Request) (route : Route) (response : Response) :
    ((openToAll ∘ finish r route) response).status = response.status := by
  simp only [Function.comp_apply, openToAll, finish]
  split <;> split <;> rfl

/-- On a route that does not count requests nobody can say that there were too many. -/
theorem patient_answerRoute {l : RateLimiter} {now : Instant} {route : Route}
    (h : route.guard ≠ .throttle) : Patient (answerRoute p l now r route).2 := by
  unfold answerRoute
  split
  · exact patient_handleMethod p {} r route
  · contradiction
  · refine patient_guarded (patient_authenticate p r) fun claims => ?_
    exact patient_handleMethod p claims r route
  · refine patient_guarded ?_ fun claims => patient_handleMethod p claims r route
    refine patient_bind (patient_authenticate p r) fun claims => ?_
    exact patient_bind (patient_requireRole adminRole (some claims)) fun _ => patient_pure claims

/-- **A request that is answered 429 was turned away by the limiter.** -/
theorem turnedAway_of_status {l : RateLimiter} {now : Instant} {backend : Backend σ} {w : World σ}
    {response : Response}
    (h : ((serve p l now r).2.exec backend w).1 = some response) (hstatus : response.status = 429) :
    ∃ route, (serve p l now r).2 = (openToAll ∘ finish r route) <$> turnAway p r := by
  have impatient : ¬ Patient (serve p l now r).2 := by
    intro patient
    obtain ⟨es, hes⟩ := Flow.exists_ends_of_exec h
    exact patient es response hes hstatus
  -- every way through the server is patient, but for the limiter's
  by_cases hmethod : r.method = "OPTIONS"
  · refine absurd ?_ impatient
    rw [serve_of_options hmethod]
    apply patient_done
    cases Route.ofPath? r.path with
    | none => decide
    | some route => exact (by decide : (200 : Nat) ≠ 429)
  · cases hpath : Route.ofPath? r.path with
    | none =>
      refine absurd ?_ impatient
      rw [serve_of_unknown hmethod hpath]
      exact patient_done (by decide)
    | some route =>
      rw [serve_of_route hmethod hpath] at impatient ⊢
      by_cases hguard : route.guard = .throttle
      · rw [answerRoute_of_throttle hguard] at impatient ⊢
        refine ⟨route, ?_⟩
        cases haccepted : (l.allow (r.key p) r.path p.rateLimit now).1 with
        | false => simp only [Bool.false_eq_true, if_false]
        | true =>
          refine absurd ?_ impatient
          simp only [haccepted, if_true]
          exact patient_map (patient_handleMethod p {} r route) (status_finish r route)
      · exact absurd (patient_map (patient_answerRoute hguard) (status_finish r route)) impatient

end Http

end Gatehouse
