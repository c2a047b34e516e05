/-
  Header fields of a proxy that nobody trusts.

  A proxy names the client in `X-Forwarded-For` or `X-Real-IP`, and any client can send these fields
  too.  A server that was told not to trust them must not let them count: not for the limiter, not
  for what is recorded of a session, and not for any response.

  A request without its proxy fields is `stripped`.  The fields of the others keep their order, so
  the first field with another name is the same (`text?_stripped`); and the two names are looked for
  only where the address of the client is, which the setting turns off.  So a stripped request is
  answered by the same flow and put to the limiter under the same key (`serve_stripped`), and a run
  is the run of its stripped requests (`run_stripped`).  Two runs that differ in proxy fields only
  are the same run when they are stripped.
-/
import Gatehouse.Proofs.Http.Site
import Gatehouse.Store.Memory

namespace Gatehouse.Http

variable {σ : Type}

/-! ## Without the fields of a proxy -/

/-- The names of the fields in which a proxy names the client. -/
def proxyNames : List String := ["x-forwarded-for", "x-real-ip"]

/-- The fields that are not from a proxy. -/
def Headers.stripped (h : Headers) : Headers := h.filter fun f => !proxyNames.contains f.name

/-- The request without the fields of a proxy. -/
def Request.stripped (r : Request) : Request := { r with headers := r.headers.stripped }

/-- The visit with a request without the fields of a proxy. -/
def Visit.stripped (v : Visit) : Visit := { v with request := v.request.stripped }

/-- The act, without the fields of a proxy if it is a visit. -/
def Act.stripped : Act → Act
  | .visit v => .visit v.stripped
  | .sweep time => .sweep time

/-- The first field with a name that is not a proxy's is the same. -/
theorem first?_stripped (h : Headers) {name : String} (hname : name ∉ proxyNames) :
    h.stripped.first? name = h.first? name := by
  unfold Headers.stripped Headers.first?
  rw [List.find?_filter]
  refine congrArg (List.find? · h) (funext fun f => ?_)
  by_cases hf : f.name = name
  · simp [hf, hname]
  · simp [hf]

theorem text?_stripped (h : Headers) {name : String} (hname : name ∉ proxyNames) :
    h.stripped.text? name = h.text? name := by
  rw [Headers.text?, first?_stripped h hname, Headers.text?]

/-! ## What is read of a request -/

variable {p : Portal}

/-- The address of the client is that of the connection, whatever the fields say. -/
theorem key_stripped (untrusted : p.trustProxy = false) (r : Request) :
    r.stripped.key p = r.key p := by
  unfold Request.key
  rw [untrusted]
  rfl

theorem client_stripped (untrusted : p.trustProxy = false) (r : Request) :
    r.stripped.client p = r.client p := by
  have hagent : r.stripped.headers.text? "user-agent" = r.headers.text? "user-agent" :=
    text?_stripped r.headers (by decide)
  unfold Request.client clientInfo
  rw [untrusted, hagent]
  rfl

theorem readBody_stripped {α : Type} (shape : Json.Shape α) (r : Request) :
    readBody shape r.stripped = readBody shape r := by
  have htype : r.stripped.headers.text? "content-type" = r.headers.text? "content-type" :=
    text?_stripped r.headers (by decide)
  unfold readBody
  rw [htype]
  rfl

theorem withBody_stripped {α : Type} (shape : Json.Shape α) (r : Request)
    (f : α → Flow Response) : withBody shape r.stripped f = withBody shape r f := by
  unfold withBody
  rw [readBody_stripped]

theorem authenticate_stripped (r : Request) : authenticate p r.stripped = authenticate p r := by
  have hauthorization :
      r.stripped.headers.text? "authorization" = r.headers.text? "authorization" :=
    text?_stripped r.headers (by decide)
  unfold authenticate bearerToken
  rw [hauthorization]

/-- **No handler sees the fields of a proxy.** -/
theorem handle_stripped (untrusted : p.trustProxy = false) (claims : Claims) (r : Request)
    (route : Route) : handle p claims r.stripped route = handle p claims r route := by
  cases route with
  | health => rfl
  | login => simp only [handle, withBody_stripped, client_stripped untrusted]
  | refresh => simp only [handle, withBody_stripped, client_stripped untrusted]
  | logout => simp only [handle, withBody_stripped]
  | logoutAll => rfl
  | forgotPassword => simp only [handle, withBody_stripped]
  | resetPassword => simp only [handle, withBody_stripped]
  | me => rfl
  | revokeSessions segment => rfl

theorem handleMethod_stripped (untrusted : p.trustProxy = false) (claims : Claims) (r : Request)
    (route : Route) : handleMethod p claims r.stripped route = handleMethod p claims r route := by
  unfold handleMethod
  rw [handle_stripped untrusted]
  rfl

theorem answerRoute_stripped (untrusted : p.trustProxy = false) (l : RateLimiter) (now : Instant)
    (r : Request) (route : Route) :
    answerRoute p l now r.stripped route = answerRoute p l now r route := by
  cases hguard : route.guard with
  | none => simp only [answerRoute, hguard, handleMethod_stripped untrusted]
  | token =>
    simp only [answerRoute, hguard, authenticate_stripped, handleMethod_stripped untrusted]
  | admin =>
    simp only [answerRoute, hguard, authenticate_stripped, handleMethod_stripped untrusted]
  | throttle =>
    have hpath : r.stripped.path = r.path := rfl
    have haway : turnAway p r.stripped = turnAway p r := by
      simp only [turnAway, key_stripped untrusted, hpath]
    rw [answerRoute_of_throttle hguard, answerRoute_of_throttle hguard, key_stripped untrusted,
      handleMethod_stripped untrusted, haway, hpath]

/-- **A stripped request is answered alike**, and put to the limiter alike. -/
theorem serve_stripped (untrusted : p.trustProxy = false) (l : RateLimiter) (now : Instant)
    (r : Request) : serve p l now r.stripped = serve p l now r := by
  have hfinish (route : Route) : finish r.stripped route = finish r route := rfl
  have hmethod : r.stripped.method = r.method := rfl
  have hpath : r.stripped.path = r.path := rfl
  unfold serve
  simp only [hmethod, hpath, hfinish, answerRoute_stripped untrusted]

/-! ## Runs -/

namespace Site

theorem answer_stripped (untrusted : p.trustProxy = false) (backend : Backend σ) (s : Site σ)
    (v : Visit) :
    s.answer p backend v.stripped = s.answer p backend v := by
  have hserve : serve p s.limiter v.time v.stripped.request = serve p s.limiter v.time v.request :=
    serve_stripped untrusted s.limiter v.time v.request
  have hworld : s.world v.stripped = s.world v := rfl
  unfold answer
  rw [hworld, ← hserve]
  rfl

theorem step_stripped (untrusted : p.trustProxy = false) (backend : Backend σ) (s : Site σ)
    (a : Act) :
    s.step p backend a.stripped = s.step p backend a := by
  cases a with
  | visit v => exact congrArg Prod.snd (answer_stripped untrusted backend s v)
  | sweep time => rfl

/-- **A run is the run of its stripped requests**: the responses are the same, and so is the site in
the end. -/
theorem run_stripped (untrusted : p.trustProxy = false) (backend : Backend σ) (s : Site σ)
    (acts : List Act) :
    s.responses p backend (acts.map Act.stripped) = s.responses p backend acts ∧
      s.run p backend (acts.map Act.stripped) = s.run p backend acts := by
  induction acts generalizing s with
  | nil => exact ⟨rfl, rfl⟩
  | cons a acts ih =>
    obtain ⟨hresponses, hrun⟩ := ih (s.step p backend a)
    rw [List.map_cons, run_cons, run_cons, step_stripped untrusted backend]
    refine ⟨?_, hrun⟩
    cases a with
    | visit v =>
      have hfirst := congrArg Prod.fst (answer_stripped untrusted backend s v)
      have hstep : s.step p backend (.visit v.stripped) = s.step p backend (.visit v) :=
        step_stripped untrusted backend s (.visit v)
      rw [Act.stripped, responses_visit, responses_visit, hfirst, hstep, hresponses]
    | sweep time =>
      rw [Act.stripped, responses_sweep, responses_sweep, hresponses]

/-- **Fields of an untrusted proxy have no influence.**  Let the server not trust its proxy, and let
two runs be the same but for the fields of a proxy in their requests: how many there are, where they
stand, and what they say.  Then every request of one is answered as its counterpart in the other,
and the limiter, the store, the number of secrets and the log are the same in the end. -/
theorem proxy_fields_have_no_influence (untrusted : p.trustProxy = false)
    (backend : Backend σ) (s : Site σ) {acts acts' : List Act}
    (h : acts.map Act.stripped = acts'.map Act.stripped) :
    s.responses p backend acts = s.responses p backend acts' ∧
      s.run p backend acts = s.run p backend acts' := by
  obtain ⟨hresponses, hrun⟩ := run_stripped untrusted backend s acts
  obtain ⟨hresponses', hrun'⟩ := run_stripped untrusted backend s acts'
  rw [← hresponses, ← hrun, h]
  exact ⟨hresponses', hrun'⟩

/-- A log-in without a body, from a client that sends fields of a proxy. -/
def forged (time : Instant) (fields : Headers) : Act :=
  .visit ⟨time, 0, none, fun _ n => .replicate n 0, .error "",
    ⟨"POST", "/api/v1/auth/login", fields, [], none⟩⟩

/-- Two log-ins in a minute in which one is allowed, with another address in each. -/
def forging : List Act :=
  [forged 0 [⟨"x-forwarded-for", [0x31]⟩], forged 1000 [⟨"x-real-ip", [0x32]⟩]]

/-- The same without the fields, or with a value that is no text. -/
def plainly : List Act := [forged 0 [], forged 1000 [⟨"x-forwarded-for", [0xff]⟩]]

/-- A server behind a proxy, which it trusts or not, that allows one request a minute. -/
def behindProxy (trusted : Bool) : Portal := ⟨⟨⟨"", "", 0⟩, 0⟩, 1, "", trusted⟩

/-- The second log-in is turned away whatever the fields say.  If they were trusted, it would not
be. -/
theorem proxy_fields_have_no_influence_forging :
    let s : Site Memory := { store := {} }
    forging.map Act.stripped = plainly.map Act.stripped ∧
      s.responses (behindProxy false) Memory.backend forging =
        s.responses (behindProxy false) Memory.backend plainly ∧
      (s.responses (behindProxy false) Memory.backend forging).map (Option.map (·.status)) =
        [some 415, some 429] ∧
      (s.responses (behindProxy true) Memory.backend forging).map (Option.map (·.status)) =
        [some 415, some 415] := by
  intro s
  have h : forging.map Act.stripped = plainly.map Act.stripped := rfl
  have hsame := proxy_fields_have_no_influence (p := behindProxy false) rfl Memory.backend s h
  exact ⟨h, hsame.1, by decide +kernel, by decide +kernel⟩

end Site

end Gatehouse.Http
