/-
  Which clients are written down.

  Two calls to the store carry a client, the one that keeps a new refresh token and the one that
  replaces an old one (`Call.client?`).  Of all requests only log-ins and refreshes make such a
  call, and the client that the call carries is always the one that was read from the request
  itself, whatever the store replied before.

  A flow is confined to calls of a kind if all its dialogues are (`Flow.Confined`).  That goes
  through the ways in which programs are put together, so it is read off the text of the handlers
  (`confined_handle`), and it holds of the calls that a flow makes in any world, over any store
  (`Flow.Confined.of_mem_calls`).  A request that the limiter turned away makes no call at all; so
  one that writes down a client was counted, and it was let through
  (`writesDown_of_mem_calls`).
-/
import Gatehouse.Proofs.Http.Site
import Gatehouse.Proofs.Portal.Talk

namespace Gatehouse

variable {σ α β ε : Type}

/-- The client that a call to the store writes down. -/
def Call.client? : Call → Option ClientInfo
  | .insertRefresh _ _ _ client | .rotate _ _ _ client => some client
  | _ => none

/-- The call writes down no client but this one, and none at all if there is no such client. -/
def Call.Notes (client : Option ClientInfo) (call : Call) : Prop :=
  ∀ c, call.client? = some c → client = some c

/-- A call that names no client notes any. -/
theorem Call.notes_of_none {call : Call} (h : call.client? = none) (client : Option ClientInfo) :
    call.Notes client := by
  intro c hc
  rw [h] at hc
  cases hc

theorem Call.notes_client? (call : Call) : call.Notes call.client? := fun _ hc => hc

namespace Flow

/-! ## Flows that are confined to some calls -/

/-- The calls that a flow makes in a world are those of one of its dialogues. -/
theorem exists_says_calls (backend : Backend σ) (p : Flow α) (w : World σ) :
    ∃ es, p.Says es ∧ es.map (·.call) = p.calls backend w := by
  induction p generalizing w with
  | done a => exact ⟨[], says_nil _, rfl⟩
  | abort => exact ⟨[], says_nil _, rfl⟩
  | clock next ih =>
    obtain ⟨es, hes, hcalls⟩ := ih w.now w
    exact ⟨es, says_step (p := .clock next) (w := w) backend hes, hcalls⟩
  | draw n next ih =>
    have hstep : ∃ es, ((Flow.draw n next).step backend w).rest.Says es ∧
        es.map (·.call) = (Flow.draw n next).calls backend w := by
      simp only [step, calls]
      cases w.entropy.secret (w.drawn + 1) n with
      | ok bytes => exact ih _ _
      | error e => exact ih _ _
    obtain ⟨es, hes, hcalls⟩ := hstep
    have hsays := says_step backend hes
    have hno : ((Flow.draw n next).step backend w).exchange = none := by
      simp only [step]
      cases w.entropy.secret (w.drawn + 1) n <;> rfl
    rw [hno] at hsays
    exact ⟨es, hsays, hcalls⟩
  | salt next ih =>
    obtain ⟨es, hes, hcalls⟩ := ih w.entropy.salt w
    exact ⟨es, says_step (p := .salt next) (w := w) backend hes, hcalls⟩
  | emit e next ih =>
    obtain ⟨es, hes, hcalls⟩ := ih { w with log := w.log ++ [e] }
    exact ⟨es, says_step (p := .emit e next) (w := w) backend hes, hcalls⟩
  | store call next ih =>
    obtain ⟨es, hes, hcalls⟩ := ih (backend call w.now w.store).1
      ((Flow.store call next).step backend w).world
    refine ⟨_, says_step (p := .store call next) (w := w) backend hes, ?_⟩
    show call :: es.map (·.call) = (Flow.store call next).calls backend w
    rw [hcalls]
    rfl

/-- Whatever the flow is replied, `P` holds of every call that it makes to the store. -/
def Confined (P : Call → Prop) (p : Flow α) : Prop := ∀ es, p.Says es → ∀ e ∈ es, P e.call

variable {P : Call → Prop} {p : Flow α}

/-- **What a confined flow asks of the store in a world** has the property. -/
theorem Confined.of_mem_calls (h : p.Confined P) {backend : Backend σ} {w : World σ} {call : Call}
    (hcall : call ∈ p.calls backend w) : P call := by
  obtain ⟨es, hes, hcalls⟩ := exists_says_calls backend p w
  rw [← hcalls] at hcall
  obtain ⟨e, he, rfl⟩ := List.mem_map.1 hcall
  exact h es hes e he

/-- A flow that has ended asks for nothing. -/
theorem confined_done (a : α) : (done a).Confined P := by
  intro es hes e he
  rw [Says] at hes
  rw [hes] at he
  cases he

theorem confined_emit {event : Event} (h : p.Confined P) : (emit event p).Confined P := by
  intro es hes
  rw [Says] at hes
  exact h es hes

/-- Two confined flows are confined one after the other. -/
theorem confined_bind {f : α → Flow β} (hp : p.Confined P) (hf : ∀ a, (f a).Confined P) :
    (p.bind f).Confined P := by
  intro es hes e he
  rcases says_bind.1 hes with hes | ⟨a, first, second, hfirst, hsecond, rfl⟩
  · exact hp es hes e he
  · rcases List.mem_append.1 he with he | he
    · exact hp first (says_of_ends hfirst) e he
    · exact hf a second hsecond e he

end Flow

/-! ## Programs -/

namespace Program

open Gatehouse.Flow

variable {P : Call → Prop}

/-- A program that asks nothing of the store is confined to anything. -/
theorem confined_of_quiet {p : ExceptT ε Flow α} (h : Quiet p) : Confined P p.run := by
  intro es hes e he
  rw [h es hes] at he
  cases he

/-- Two confined programs in a row are confined; after an error there is no second one. -/
theorem confined_bind {p : ExceptT ε Flow α} {f : α → ExceptT ε Flow β} (hp : Confined P p.run)
    (hf : ∀ a, Confined P (f a).run) : Confined P (p >>= f).run := by
  intro es hes e he
  rcases says_bind.1 hes with hes | ⟨a, first, second, hfirst, hsecond, rfl⟩
  · exact hp es hes e he
  · rcases List.mem_append.1 he with he | he
    · exact hp first (says_of_ends hfirst) e he
    · exact hf a second hsecond e he

/-- A program that makes one call is confined if the call has the property. -/
theorem confined_ask {call : Call} (h : P call) : Confined P (ExceptT.run (ask call)) := by
  intro es hes e he
  rcases (says_ask call).1 hes with rfl | ⟨reply, rfl⟩
  · cases he
  · rw [List.mem_singleton.1 he]
    exact h

theorem confined_forRequest {p : Program α} (h : Confined P (ExceptT.run p)) :
    Confined P (ExceptT.run p.forRequest) :=
  fun es hes => h es (says_forRequest hes)

end Program

/-! ## Requests -/

namespace Portal

open Gatehouse.Flow Gatehouse.Program

/-- A log-in notes the client that it comes from. -/
theorem confined_login (p : Portal) (email password : String) (client : ClientInfo) :
    Confined (Call.Notes (some client)) (ExceptT.run (p.login email password client)) := by
  intro es hes e he
  cases loginTalk hes with
  | silent => cases he
  | asked reply =>
    rw [List.mem_singleton.1 he]
    exact Call.notes_of_none rfl _
  | stored account digest expiresAt reply passed =>
    rcases List.mem_pair.1 he with rfl | rfl
    · exact Call.notes_of_none rfl _
    · exact Call.notes_client? _

/-- So does the exchange of a refresh token. -/
theorem confined_refresh (p : Portal) (token : String) (client : ClientInfo) :
    Confined (Call.Notes (some client)) (ExceptT.run (p.refresh token client)) := by
  intro es hes e he
  cases refreshTalk hes with
  | silent => cases he
  | presented new expiresAt reply =>
    rw [List.mem_singleton.1 he]
    exact Call.notes_client? _

/-- To end all sessions of a user names no client. -/
theorem confined_revokeAllRefreshTokens (userId : String) :
    Confined (Call.Notes none) (ExceptT.run (Service.revokeAllRefreshTokens userId)) := by
  unfold Service.revokeAllRefreshTokens
  split
  · exact confined_of_quiet (quiet_throw _)
  · exact Program.confined_bind (confined_ask (Call.notes_of_none rfl _)) fun _ =>
      confined_of_quiet (quiet_log _)

theorem confined_revokeSessions (userId : String) :
    Confined (Call.Notes none) (ExceptT.run (revokeSessions userId)) := by
  unfold revokeSessions
  split
  · exact confined_of_quiet (quiet_throw _)
  · refine Program.confined_bind
      (confined_forRequest (confined_ask (Call.notes_of_none rfl _))) fun found => ?_
    split
    · exact confined_of_quiet (quiet_throw_bind _ _)
    · exact confined_forRequest (confined_revokeAllRefreshTokens userId)

/-- A reset token is kept without a client. -/
theorem confined_createPasswordReset (user : Uuid) :
    Confined (Call.Notes none) (ExceptT.run (Service.createPasswordReset user)) := by
  unfold Service.createPasswordReset
  refine Program.confined_bind (confined_of_quiet (Service.quiet_generate _)) fun secret => ?_
  refine Program.confined_bind (confined_of_quiet quiet_now) fun now => ?_
  refine Program.confined_bind (confined_of_quiet (quiet_orAbort _)) fun expiresAt => ?_
  exact Program.confined_bind (confined_ask (Call.notes_of_none rfl _)) fun _ =>
    confined_of_quiet (quiet_pure _)

theorem confined_forgotPassword (p : Portal) (email : String) :
    Confined (Call.Notes none) (p.forgotPassword email) := by
  have hlookup : Confined (Call.Notes none) (ExceptT.run (ask (.findByEmail email))) :=
    confined_ask (Call.notes_of_none rfl _)
  refine Flow.confined_bind hlookup fun found => ?_
  rcases found with e | - | account
  · exact confined_emit (confined_done _)
  · exact confined_done _
  · refine Flow.confined_bind (confined_createPasswordReset account.user.id) fun token => ?_
    cases token with
    | error e => exact confined_emit (confined_done _)
    | ok token => exact confined_emit (confined_emit (confined_done _))

/-- Setting a new password names no client either. -/
theorem confined_resetPassword (token password confirmation : String) :
    Confined (Call.Notes none) (ExceptT.run (resetPassword token password confirmation)) := by
  intro es hes e he
  refine Call.notes_of_none ?_ _
  cases resetTalk hes with
  | silent => cases he
  | presented reply =>
    rw [List.mem_singleton.1 he]
    rfl
  | changed user hash reply => rcases List.mem_pair.1 he with rfl | rfl <;> rfl
  | closed user hash reply =>
    rcases List.mem_cons.1 he with rfl | he
    · rfl
    · rcases List.mem_pair.1 he with rfl | rfl <;> rfl

theorem confined_currentUser (claims : Claims) :
    Confined (Call.Notes none) (ExceptT.run (currentUser claims)) := by
  unfold currentUser
  split
  · exact confined_of_quiet (quiet_throw _)
  · refine Program.confined_bind
      (confined_forRequest (confined_ask (Call.notes_of_none rfl _))) fun found => ?_
    split
    · exact confined_of_quiet (quiet_throw _)
    · exact confined_of_quiet (quiet_pure _)

end Portal

namespace Http

open Gatehouse.Flow Gatehouse.Program

variable {P : Call → Prop} {p : Portal} {l : RateLimiter} {now : Instant} {r : Request}
  {route : Route} {claims : Claims}

theorem confined_refuse (e : ApiError) : (refuse e).Confined P := by
  cases e with
  | internal detail => exact confined_emit (confined_done _)
  | _ => exact confined_done _

/-- What is sent in the end asks for nothing more. -/
theorem confined_respond {h : Handler α} (hh : Confined P (ExceptT.run h)) (ok : α → Response) :
    (respond h ok).Confined P := by
  refine Flow.confined_bind hh fun outcome => ?_
  cases outcome with
  | ok a => exact confined_done _
  | error e => exact confined_refuse e

/-- A body that cannot be read keeps the request from the store. -/
theorem confined_withBody {shape : Json.Shape α} {f : α → Flow Response}
    (hf : ∀ a, (f a).Confined P) : (withBody shape r f).Confined P := by
  unfold withBody
  split
  · exact hf _
  · exact confined_done _

/-- A guard that is confined, before something that is. -/
theorem confined_guarded {check : Handler Claims} (hcheck : Confined P (ExceptT.run check))
    {next : Claims → Flow Response} (hnext : ∀ claims, (next claims).Confined P) :
    (guarded check next).Confined P := by
  refine Flow.confined_bind hcheck fun outcome => ?_
  cases outcome with
  | ok claims => exact hnext claims
  | error e => exact confined_refuse e

/-- The client that a route has written down for a request. -/
def Route.noted (p : Portal) (r : Request) : Route → Option ClientInfo
  | .login | .refresh => some (r.client p)
  | _ => none

/-- **What the handlers write down.** -/
theorem confined_handle (p : Portal) (claims : Claims) (r : Request) (route : Route) :
    (handle p claims r route).Confined (Call.Notes (route.noted p r)) := by
  cases route with
  | health => exact confined_done _
  | login =>
    exact confined_withBody fun b =>
      confined_respond (p.confined_login b.email b.password (r.client p)) _
  | refresh =>
    exact confined_withBody fun token =>
      confined_respond (p.confined_refresh token (r.client p)) _
  | logout =>
    have hask (token : String) : Confined (Call.Notes none)
        (ExceptT.run (Service.revokeRefreshToken token)) :=
      confined_ask (Call.notes_of_none rfl _)
    exact confined_withBody fun token => confined_respond (confined_forRequest (hask token)) _
  | logoutAll =>
    exact confined_respond
      (confined_forRequest (Portal.confined_revokeAllRefreshTokens claims.subject)) _
  | forgotPassword =>
    exact confined_withBody fun email =>
      Flow.confined_bind (p.confined_forgotPassword email) fun _ => confined_done _
  | resetPassword =>
    exact confined_withBody fun b =>
      confined_respond (Portal.confined_resetPassword b.token b.password b.confirmation) _
  | me => exact confined_respond (Portal.confined_currentUser claims) _
  | revokeSessions segment =>
    simp only [handle]
    split
    · exact confined_done _
    · exact confined_respond (Portal.confined_revokeSessions _) _

theorem confined_handleMethod (p : Portal) (claims : Claims) (r : Request) (route : Route) :
    (handleMethod p claims r route).Confined (Call.Notes (route.noted p r)) := by
  unfold handleMethod
  split
  · exact confined_handle p claims r route
  · exact confined_done _

/-- The guard asks nothing of the store: a token is checked by the key alone. -/
theorem quiet_authenticate (p : Portal) (r : Request) : Quiet (authenticate p r) := by
  unfold authenticate
  refine quiet_bind ?_ fun token => quiet_forRequest ?_
  · cases bearerToken r.headers with
    | ok token => exact quiet_pure token
    | error e => exact quiet_throw e
  · unfold Service.parseToken
    refine quiet_bind quiet_now fun now => ?_
    split
    · exact quiet_pure _
    · exact quiet_bind (quiet_log _) fun _ => quiet_throw _

theorem quiet_requireRole (role : String) (claims : Option Claims) :
    Quiet (requireRole role claims) := by
  unfold requireRole
  split
  · exact quiet_throw _
  · split
    · exact quiet_bind (quiet_forRequest (quiet_log _)) fun _ => quiet_throw _
    · exact quiet_pure _

/-- Whichever guard the route has, its calls are those of the handler. -/
theorem confined_answerRoute (p : Portal) (l : RateLimiter) (now : Instant) (r : Request)
    (route : Route) :
    (answerRoute p l now r route).2.Confined (Call.Notes (route.noted p r)) := by
  cases hguard : route.guard with
  | none =>
    simp only [answerRoute, hguard]
    exact confined_handleMethod p {} r route
  | throttle =>
    rw [answerRoute_of_throttle hguard]
    simp only []
    split
    · exact confined_handleMethod p {} r route
    · exact confined_emit (confined_refuse _)
  | token =>
    simp only [answerRoute, hguard]
    refine confined_guarded (confined_of_quiet (quiet_authenticate p r)) fun claims => ?_
    exact confined_handleMethod p claims r route
  | admin =>
    simp only [answerRoute, hguard]
    refine confined_guarded (confined_of_quiet ?_) fun claims =>
      confined_handleMethod p claims r route
    refine quiet_bind (quiet_authenticate p r) fun claims => ?_
    exact quiet_bind (quiet_requireRole adminRole (some claims)) fun _ => quiet_pure claims

/-- `r.WritesDown p l now client` — the request is a log-in or a refresh that the limiter lets
through, and the client is the one that is read from it. -/
structure Request.WritesDown (r : Request) (p : Portal) (l : RateLimiter) (now : Instant)
    (client : ClientInfo) : Prop where
  /-- It is put to the limiter. -/
  counted : r.Counted
  /-- Sessions are opened and renewed on two routes. -/
  route : Route.ofPath? r.path = some .login ∨ Route.ofPath? r.path = some .refresh
  /-- The limiter accepts it. -/
  accepted : (l.allow (r.key p) r.path p.rateLimit now).1 = true
  /-- The client is that of the request. -/
  client : client = r.client p

/-- **Who writes down a client**: a log-in or a refresh that the limiter let through, and it writes
down the client that is read from the request itself. -/
theorem writesDown_of_mem_calls {backend : Backend σ} {w : World σ} {call : Call}
    {client : ClientInfo} (hcall : call ∈ (serve p l now r).2.calls backend w)
    (hclient : call.client? = some client) : r.WritesDown p l now client := by
  by_cases hmethod : r.method = "OPTIONS"
  · rw [serve_of_options hmethod] at hcall
    cases hcall
  cases hpath : Route.ofPath? r.path with
  | none =>
    rw [serve_of_unknown hmethod hpath] at hcall
    cases hcall
  | some route =>
    rw [serve_of_route hmethod hpath] at hcall
    have hmap {q : Flow Response} {P : Call → Prop} (hq : q.Confined P) :
        ((openToAll ∘ finish r route) <$> q).Confined P :=
      Flow.confined_bind hq fun _ => confined_done _
    have hnoted : route.noted p r = some client :=
      (hmap (confined_answerRoute p l now r route)).of_mem_calls hcall client hclient
    have hroute : (route = .login ∨ route = .refresh) ∧ client = r.client p := by
      cases route <;> simp_all [Route.noted]
    have hguard : route.guard = .throttle := by
      rcases hroute.1 with rfl | rfl <;> rfl
    refine ⟨⟨hmethod, route, hpath, hguard⟩, by simpa [hpath] using hroute.1, ?_, hroute.2⟩
    -- a request that is turned away makes no call
    by_contra hrefused
    rw [answerRoute_of_throttle hguard, if_neg hrefused] at hcall
    have haway : (turnAway p r).Confined fun _ => False := confined_emit (confined_refuse _)
    exact (hmap haway).of_mem_calls hcall

end Http

end Gatehouse
