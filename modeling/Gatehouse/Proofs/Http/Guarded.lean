/-
  Routes that ask for a token.

  Three routes act for somebody or on somebody: a user sees the own account, a user ends the own
  sessions, and an administrator ends the sessions of another.  Their guard reads a token from the
  first authorization field of the request, and on the third route it compares the role that the
  token claims.

  * Without a good token, or without the role, the handler has no say: whatever handler stood
    there, the answer would be the same (`TurnedBack`).  The status is 401 or 403, and the store is
    as it was.
  * With them the handler runs for the claims of the token, and it does one of few things
    (`Handles`): ending sessions revokes the records of the one user who is named, by the token or
    by the path, and leaves every other record, the accounts and the reset records alone; and the
    account that is shown is the one of the user whom the token names.
-/
import Gatehouse.Proofs.Http.Handling
import Gatehouse.Proofs.Http.Refusal
import Gatehouse.Proofs.Service.AccessToken
import Gatehouse.Store.Memory

namespace Gatehouse.Http

variable {σ : Type}

/-! ## The routes and their paths -/

/-- A request to a protected route: its method fits and its path is the one of the route. -/
inductive Protected (r : Request) : Route → Prop where
  /-- A user sees the own account. -/
  | me (method : r.method = "GET") (path : r.path = "/api/v1/auth/me") : Protected r .me
  /-- A user ends the own sessions. -/
  | logoutAll (method : r.method = "POST") (path : r.path = "/api/v1/auth/logout-all") :
      Protected r .logoutAll
  /-- An administrator ends the sessions of the user in a segment of the path. -/
  | revokeSessions (segment : String) (method : r.method = "POST") (whole : '/' ∉ segment.toList)
      (path : r.path = "/api/v1/admin/users/" ++ segment ++ "/revoke-sessions") :
      Protected r (.revokeSessions segment)

/-- No fixed path is one of the administration. -/
theorem lookup_fixed_eq_none {path : String}
    (h : "/api/v1/admin/users/".toList.isPrefixOf path.toList = true) :
    Route.fixed.lookup path = none := by
  have hfixed : ∀ e ∈ Route.fixed, "/api/v1/admin/users/".toList.isPrefixOf e.1.toList = false := by
    decide
  rw [List.lookup_eq_none_iff]
  intro e he
  have hne : path ≠ e.1 := by
    rintro rfl
    rw [hfixed e he] at h
    exact Bool.noConfusion h
  simpa using hne

/-- A path segment without a slash is read back whole from between the fixed parts. -/
theorem adminSegment?_eq {segment : List Char} (whole : '/' ∉ segment) :
    Route.adminSegment? ("/api/v1/admin/users/".toList ++ segment ++ "/revoke-sessions".toList) =
      some segment := by
  have hsegment : (segment ++ "/revoke-sessions".toList).takeWhile (· ≠ '/') = segment := by
    rw [List.takeWhile_append_of_pos]
    · simp
    · intro c hc
      have hne : c ≠ '/' := fun h => whole (h ▸ hc)
      simpa using hne
  rw [List.append_assoc]
  unfold Route.adminSegment?
  simp only [List.drop_left, hsegment]
  rw [if_pos (List.isPrefixOf_iff_prefix.2 (List.prefix_append ..)), if_pos trivial]

/-- Every path of the administration leads to the closing of its segment's sessions. -/
theorem ofPath?_admin {segment : String} (whole : '/' ∉ segment.toList) :
    Route.ofPath? ("/api/v1/admin/users/" ++ segment ++ "/revoke-sessions") =
      some (.revokeSessions segment) := by
  have hlist : ("/api/v1/admin/users/" ++ segment ++ "/revoke-sessions").toList =
      "/api/v1/admin/users/".toList ++ segment.toList ++ "/revoke-sessions".toList := by
    rw [String.toList_append, String.toList_append]
  have hnone : Route.fixed.lookup ("/api/v1/admin/users/" ++ segment ++ "/revoke-sessions") =
      none := by
    refine lookup_fixed_eq_none ?_
    rw [hlist, List.append_assoc]
    exact List.isPrefixOf_iff_prefix.2 (List.prefix_append ..)
  rw [Route.ofPath?, hnone, hlist, adminSegment?_eq whole, Option.map_some, String.ofList_toList]
  rfl

variable {r : Request} {route : Route}

theorem Protected.ofPath? (h : Protected r route) : Route.ofPath? r.path = some route := by
  cases h with
  | me method path => rw [path]; decide
  | logoutAll method path => rw [path]; decide
  | revokeSessions segment method whole path => rw [path, ofPath?_admin whole]

theorem Protected.accepts (h : Protected r route) : route.accepts r.method = true := by
  cases h with
  | me method path => simp [Route.accepts, Route.isRead, method]
  | logoutAll method path => simp [Route.accepts, Route.isRead, method]
  | revokeSessions segment method whole path => simp [Route.accepts, Route.isRead, method]

/-- The method is one of the two that the routes have. -/
theorem Protected.method_ne (h : Protected r route) {other : String} (hget : "GET" ≠ other)
    (hpost : "POST" ≠ other) : r.method ≠ other := by
  cases h with
  | me method path => exact method ▸ hget
  | logoutAll method path => exact method ▸ hpost
  | revokeSessions segment method whole path => exact method ▸ hpost

/-- What the handler of a protected route answers is sent with its body. -/
theorem Protected.body_finish (h : Protected r route) (response : Response) :
    ((openToAll ∘ finish r route) response).body = response.body := by
  have hmethod : r.method ≠ "HEAD" := h.method_ne (by decide) (by decide)
  simp [finish, h.accepts, hmethod, openToAll, Response.withHeader]

/-! ## The guard -/

/-- What a protected route asks for before its handler is reached. -/
def check (p : Portal) (r : Request) (route : Route) : Handler Claims :=
  match route.guard with
  | .admin => do
    let claims ← authenticate p r
    requireRole adminRole (some claims)
    return claims
  | _ => authenticate p r

/-- The answer to a request to a protected route, with `next` in the place of its handler. -/
def behindGuard (p : Portal) (r : Request) (route : Route) (next : Claims → Flow Response) :
    Flow Response :=
  (openToAll ∘ finish r route) <$> guarded (check p r route) next

/-- **A protected route is its handler behind its guard.** -/
theorem serve_of_protected {p : Portal} {l : RateLimiter} {now : Instant}
    (h : Protected r route) :
    serve p l now r = (l, behindGuard p r route fun claims => handle p claims r route) := by
  have hhandle (claims : Claims) : handleMethod p claims r route = handle p claims r route := by
    rw [handleMethod, if_pos h.accepts]
  rw [serve_of_route (h.method_ne (by decide) (by decide)) h.ofPath?]
  cases h with
  | me => simp only [answerRoute, Route.guard, behindGuard, check, hhandle]
  | logoutAll => simp only [answerRoute, Route.guard, behindGuard, check, hhandle]
  | revokeSessions segment => simp only [answerRoute, Route.guard, behindGuard, check, hhandle]

/-- A text that begins with `scheme` is `scheme` and what comes after it. -/
theorem eq_append_ofList_drop {scheme value : String}
    (h : scheme.toList.isPrefixOf value.toList = true) :
    value = scheme ++ String.ofList (value.toList.drop scheme.toList.length) := by
  have happend := List.prefix_iff_eq_append.1 (List.isPrefixOf_iff_prefix.1 h)
  rw [← String.toList_inj, String.toList_append, String.toList_ofList, happend]

/-- A token is found exactly in a first authorization field that is the text `Bearer`, a blank, and
the token. -/
theorem bearerToken_eq_ok_iff {h : Headers} {token : String} :
    bearerToken h = .ok token ↔
      token ≠ "" ∧ h.text? "authorization" = some ("Bearer " ++ token) := by
  unfold bearerToken
  cases htext : h.text? "authorization" with
  | none => simp
  | some value =>
    simp only [Option.some.injEq]
    constructor
    · intro hok
      split at hok
      · rename_i hvalue
        obtain ⟨hscheme, hrest⟩ := hvalue
        obtain rfl := Except.ok.inj hok
        refine ⟨fun hempty => ?_, eq_append_ofList_drop hscheme⟩
        rw [String.ofList_eq_empty_iff] at hempty
        rw [hempty] at hrest
        exact Bool.noConfusion hrest
      · cases hok
    · rintro ⟨hne, rfl⟩
      have hlist : ("Bearer " ++ token).toList = "Bearer ".toList ++ token.toList :=
        String.toList_append
      have hne' : token.toList.isEmpty = false := by
        rw [List.isEmpty_eq_false_iff]
        exact fun hnil => hne (String.toList_eq_nil_iff.1 hnil)
      have hscheme : "Bearer ".toList.isPrefixOf ("Bearer ".toList ++ token.toList) = true :=
        List.isPrefixOf_iff_prefix.2 (List.prefix_append ..)
      simp only [hlist, List.drop_left, hscheme, hne', Bool.not_false, and_self, if_true,
        String.ofList_toList]

/-- A request whose `Authorization` header gives no bearer token is answered with 401. -/
theorem status_of_bearerToken {h : Headers} {e : ApiError} (hbearer : bearerToken h = .error e) :
    e.status = 401 := by
  unfold bearerToken at hbearer
  split at hbearer
  · obtain rfl := Except.error.inj hbearer
    rfl
  · dsimp only at hbearer
    split at hbearer
    · cases hbearer
    · obtain rfl := Except.error.inj hbearer
      rfl

/-- The request bears a good token with these claims: its first authorization field is the text
`Bearer`, a blank, and a token that is not empty, which the service accepts in this world. -/
def Bears (p : Portal) (backend : Backend σ) (w : World σ) (r : Request) (claims : Claims) : Prop :=
  ∃ token, token ≠ "" ∧ r.headers.text? "authorization" = some ("Bearer " ++ token) ∧
    ((p.service.parseToken token).exec backend w).1 = some (.ok claims)

section Guards

variable {p : Portal} {backend : Backend σ} {w : World σ} {claims : Claims}

theorem exec_authenticate_of_token {token : String} (h : bearerToken r.headers = .ok token) :
    (authenticate p r).exec backend w = (p.service.parseToken token).forRequest.exec backend w := by
  unfold authenticate
  rw [Handler.exec_bind, Handler.exec_ofExcept, h]

/-- The guard lets the bearer of a valid token through with its claims, and changes nothing. -/
theorem exec_authenticate_of_bears (h : Bears p backend w r claims) :
    (authenticate p r).exec backend w = (some (.ok claims), w) := by
  obtain ⟨token, hne, htext, hparse⟩ := h
  rw [exec_authenticate_of_token (bearerToken_eq_ok_iff.2 ⟨hne, htext⟩), Handler.exec_forRequest]
  cases hverify : p.service.codec.verify w.now.seconds token with
  | none => simp [Service.exec_parseToken_of_none backend hverify] at hparse
  | some claims' =>
    rw [Service.exec_parseToken backend hverify] at hparse ⊢
    obtain rfl : claims' = claims := by simpa using hparse
    rfl

/-- Without a good token the request is refused for that, and only the log may grow. -/
theorem exec_authenticate_of_not (h : ∀ claims, ¬ Bears p backend w r claims) :
    ∃ e log, e.status = 401 ∧
      (authenticate p r).exec backend w = (some (.error e), { w with log := w.log ++ log }) := by
  cases hbearer : bearerToken r.headers with
  | error e =>
    refine ⟨e, [], status_of_bearerToken hbearer, ?_⟩
    unfold authenticate
    rw [Handler.exec_bind, Handler.exec_ofExcept, hbearer, List.append_nil]
  | ok token =>
    obtain ⟨hne, htext⟩ := bearerToken_eq_ok_iff.1 hbearer
    rw [exec_authenticate_of_token hbearer, Handler.exec_forRequest]
    cases hverify : p.service.codec.verify w.now.seconds token with
    | none =>
      rw [Service.exec_parseToken_of_none backend hverify]
      exact ⟨.ofAuth .invalidToken, [.tokenRejected], rfl, rfl⟩
    | some claims =>
      have hparse := congrArg Prod.fst (Service.exec_parseToken backend hverify)
      exact absurd ⟨token, hne, htext, hparse⟩ (h claims)

/-- The guard lets the claims of a good token pass, if the route asks for no role or for theirs. -/
theorem exec_check_of_bears (h : Bears p backend w r claims)
    (role : route.guard = .admin → claims.role = adminRole) :
    (check p r route).exec backend w = (some (.ok claims), w) := by
  have hauth := exec_authenticate_of_bears h
  unfold check
  split
  · rename_i hguard
    rw [Handler.exec_bind, hauth]
    show (requireRole adminRole (some claims) >>= fun _ => pure claims).exec backend w = _
    rw [Handler.exec_bind, requireRole, if_neg (not_not.2 (role hguard))]
    rfl
  · exact hauth

/-- On a route of the administration another role is refused with 403, and only the log grows. -/
theorem exec_check_of_role (h : Bears p backend w r claims) (hguard : route.guard = .admin)
    (role : claims.role ≠ adminRole) :
    ∃ e log, e.status = 403 ∧
      (check p r route).exec backend w = (some (.error e), { w with log := w.log ++ log }) := by
  refine ⟨.forbidden "forbidden", [.roleMissing claims.subject claims.role adminRole], rfl, ?_⟩
  unfold check
  rw [hguard]
  show (authenticate p r >>= _).exec backend w = _
  rw [Handler.exec_bind, exec_authenticate_of_bears h]
  show (requireRole adminRole (some claims) >>= fun _ => pure claims).exec backend w = _
  rw [Handler.exec_bind, requireRole, if_pos role]
  rfl

/-- A request that bears no valid token is refused with 401, and only the log grows. -/
theorem exec_check_of_not (h : ∀ claims, ¬ Bears p backend w r claims) :
    ∃ e log, e.status = 401 ∧
      (check p r route).exec backend w = (some (.error e), { w with log := w.log ++ log }) := by
  obtain ⟨e, log, hstatus, hauth⟩ := exec_authenticate_of_not h
  refine ⟨e, log, hstatus, ?_⟩
  unfold check
  split
  · rw [Handler.exec_bind, hauth]
  · exact hauth

end Guards

/-! ## Sending a token -/

/-- A text of visible ASCII characters and blanks is read from a field as it was sent. -/
theorem text?_utf8 {name s : String}
    (h : ∀ c ∈ s.toList, 0x20 ≤ c.toNat ∧ c.toNat < 0x7f) :
    (⟨name, Text.utf8 s⟩ : Field).text? = some s := by
  have hbytes : Text.utf8 s = s.toList.map fun c => UInt8.ofNat c.toNat := by
    rw [Text.utf8_eq]
    exact Text.utf8Chars_of_lt fun c hc => by have := h c hc; omega
  have htoNat (c : Char) (hc : c ∈ s.toList) : (UInt8.ofNat c.toNat).toNat = c.toNat := by
    have := h c hc
    rw [UInt8.toNat_ofNat']
    omega
  have hvisible : ((s.toList.map fun c => UInt8.ofNat c.toNat).all fun b =>
      b == 0x09 || (0x20 ≤ b && b < 0x7f)) = true := by
    rw [List.all_map, List.all_eq_true]
    intro c hc
    have hrange := h c hc
    have hlow : (0x20 : UInt8) ≤ UInt8.ofNat c.toNat := by
      rw [UInt8.le_iff_toNat_le, htoNat c hc]
      exact hrange.1
    have hhigh : UInt8.ofNat c.toNat < (0x7f : UInt8) := by
      rw [UInt8.lt_iff_toNat_lt, htoNat c hc]
      exact hrange.2
    simp [hlow, hhigh]
  have hback : ((s.toList.map fun c => UInt8.ofNat c.toNat).map fun b => Char.ofNat b.toNat) =
      s.toList := by
    rw [List.map_map]
    refine (List.map_congr_left fun c hc => ?_).trans (List.map_id _)
    rw [Function.comp_apply, htoNat c hc, Char.ofNat_toNat, id]
  simp only [Field.text?, hbytes, hvisible, hback, if_true, String.ofList_toList]

/-- A token is made of visible characters, so it can be sent in a field. -/
theorem visible_of_mem_sign {codec : Codec} {claims : Claims} {c : Char}
    (h : c ∈ (codec.sign claims).toList) : 0x20 ≤ c.toNat ∧ c.toNat < 0x7f := by
  have hall : (Base64.urlSafe.symbols.all fun c => 0x20 ≤ c.toNat ∧ c.toNat < 0x7f) = true := rfl
  have hsymbol {bytes : List UInt8} (hc : c ∈ Base64.encode Base64.urlSafe bytes) :
      0x20 ≤ c.toNat ∧ c.toNat < 0x7f :=
    of_decide_eq_true (List.all_eq_true.1 hall c (Base64.mem_symbols_of_mem_encode hc))
  have hdot : 0x20 ≤ '.'.toNat ∧ '.'.toNat < 0x7f := by decide
  simp only [Codec.sign, String.toList_ofList, List.mem_append, List.mem_cons] at h
  obtain (h | rfl | h) | rfl | h := h
  · exact hsymbol h
  · exact hdot
  · exact hsymbol h
  · exact hdot
  · exact hsymbol h

/-- **Whoever sends a token that was issued bears it**, as long as it is good. -/
theorem bears_of_sign {p : Portal} {backend : Backend σ} {w : World σ} {claims : Claims}
    (hverify : p.service.codec.verify w.now.seconds (p.service.codec.sign claims) = some claims)
    {name : String} (hfield : r.headers.first? "authorization" =
      some ⟨name, Text.utf8 ("Bearer " ++ p.service.codec.sign claims)⟩) :
    Bears p backend w r claims := by
  refine ⟨p.service.codec.sign claims, fun hempty => ?_, ?_, ?_⟩
  · have hmem : '.' ∈ (p.service.codec.sign claims).toList := by
      simp [Codec.sign]
    rw [hempty] at hmem
    cases hmem
  · rw [Headers.text?, hfield, Option.bind_some]
    refine text?_utf8 fun c hc => ?_
    rw [String.toList_append, List.mem_append] at hc
    rcases hc with hc | hc
    · have hall : ("Bearer ".toList.all fun c => 0x20 ≤ c.toNat ∧ c.toNat < 0x7f) = true := rfl
      exact of_decide_eq_true (List.all_eq_true.1 hall c hc)
    · exact visible_of_mem_sign hc
  · exact congrArg Prod.fst (Service.exec_parseToken backend hverify)

/-! ## The handlers -/

/-- `m'` is `m` with all refresh records of a user revoked, and nothing else changed. -/
structure ClosesOnly (user : Uuid) (m m' : Memory) : Prop where
  issued : m'.issued = m.issued
  accounts : m'.accounts = m.accounts
  resets : m'.resets = m.resets
  refresh : ∀ k, m'.refresh.get? k =
    (m.refresh.get? k).map fun r => if r.user = user then { r with revoked := true } else r

theorem closesOnly_revokeAll (user : Uuid) (m : Memory) : ClosesOnly user m (m.revokeAll user) where
  issued := rfl
  accounts := rfl
  resets := rfl
  refresh _ := Table.get?_modifyAll ..

/-- What the handler of a protected route does for the claims of a token: the status and the body of
the response, and the store that it leaves. -/
inductive Handles (m : Memory) (claims : Claims) : Route → Nat → Body → Memory → Prop where
  /-- The sessions of the user whom the token names are ended. -/
  | loggedOut {user : Uuid} {m' : Memory} (subject : Uuid.ofUserText? claims.subject = some user)
      (closes : ClosesOnly user m m') : Handles m claims .logoutAll 200 success.body m'
  /-- The token names nobody. -/
  | nobody (subject : Uuid.ofUserText? claims.subject = none) :
      Handles m claims .logoutAll 400
        (.json (ApiError.validation ("invalid user ID: " ++ Text.quoted claims.subject)).body) m
  /-- The sessions of the user whom the path names are ended. -/
  | ended {segment : String} {user : Uuid} {m' : Memory}
      (named : (percentDecode? segment).bind Uuid.ofUserText? = some user)
      (registered : m.accounts.contains user = true) (closes : ClosesOnly user m m') :
      Handles m claims (.revokeSessions segment) 200 success.body m'
  /-- The user whom the path names is not registered. -/
  | unregistered {segment : String} {user : Uuid}
      (named : (percentDecode? segment).bind Uuid.ofUserText? = some user)
      (registered : m.accounts.contains user = false) :
      Handles m claims (.revokeSessions segment) 404
        (.json (ApiError.notFound ("User " ++ user.toText ++ " not found")).body) m
  /-- The path names nobody. -/
  | unnamed {segment userId : String} (decoded : percentDecode? segment = some userId)
      (named : Uuid.ofUserText? userId = none) :
      Handles m claims (.revokeSessions segment) 400
        (.json (ApiError.validation ("Invalid user ID: " ++ userId)).body) m
  /-- The segment of the path is no text. -/
  | undecoded {segment : String} (decoded : percentDecode? segment = none) :
      Handles m claims (.revokeSessions segment) 400 (.text "Invalid URL") m
  /-- The user whom the token names is shown. -/
  | shown {user : Uuid} {account : Account}
      (subject : Uuid.ofUserText? claims.subject = some user)
      (registered : m.accounts.get? user = some account) :
      Handles m claims .me 200 (.json (.record [("user", account.user.toJson)])) m
  /-- The user whom the token names is not registered. -/
  | gone {user : Uuid} (subject : Uuid.ofUserText? claims.subject = some user)
      (registered : m.accounts.contains user = false) :
      Handles m claims .me 404 (.json (ApiError.notFound "User not found").body) m
  /-- There is nobody to show. -/
  | noSubject (subject : Uuid.ofUserText? claims.subject = none) :
      Handles m claims .me 401 (.json (ApiError.ofAuth .invalidToken).body) m

/-- The sessions of a registered user whom the path names are ended. -/
theorem Handles.of_registered {m m' : Memory} {claims : Claims} {segment : String} {status : Nat}
    {body : Body} (h : Handles m claims (.revokeSessions segment) status body m') {user : Uuid}
    (named : (percentDecode? segment).bind Uuid.ofUserText? = some user)
    (registered : m.accounts.contains user = true) : status = 200 ∧ ClosesOnly user m m' := by
  cases h with
  | ended named' _ closes =>
    obtain rfl := Option.some.inj (named'.symm.trans named)
    exact ⟨rfl, closes⟩
  | unregistered named' registered' =>
    obtain rfl := Option.some.inj (named'.symm.trans named)
    rw [registered] at registered'
    cases registered'
  | unnamed decoded named' =>
    rw [decoded, Option.bind_some, named'] at named
    cases named
  | undecoded decoded =>
    rw [decoded, Option.bind_none] at named
    cases named

/-- A registered user whom the token names sees the own account. -/
theorem Handles.of_account {m m' : Memory} {claims : Claims} {status : Nat} {body : Body}
    (h : Handles m claims .me status body m') {user : Uuid} {account : Account}
    (subject : Uuid.ofUserText? claims.subject = some user)
    (registered : m.accounts.get? user = some account) :
    status = 200 ∧ body = .json (.record [("user", account.user.toJson)]) ∧ m' = m := by
  cases h with
  | shown subject' registered' =>
    obtain rfl := Option.some.inj (subject'.symm.trans subject)
    obtain rfl := Option.some.inj (registered'.symm.trans registered)
    exact ⟨rfl, rfl, rfl⟩
  | gone subject' registered' =>
    obtain rfl := Option.some.inj (subject'.symm.trans subject)
    rw [Table.contains_eq_false_iff, registered] at registered'
    cases registered'
  | noSubject subject' =>
    rw [subject] at subject'
    cases subject'

section Handlers

variable {w : World Memory} {claims : Claims}

/-- A user id that does not parse is refused as an invalid value before the store is asked. -/
theorem exec_revokeAll_of_none {userId : String} (h : Uuid.ofUserText? userId = none) :
    (Service.revokeAllRefreshTokens userId).forRequest.exec Memory.backend w =
      (some (.error (.validation ("invalid user ID: " ++ Text.quoted userId))), w) := by
  rw [Handler.exec_forRequest, Service.revokeAllRefreshTokens, h]
  rfl

/-- A user id that parses has all its records closed, in one call of the store. -/
theorem exec_revokeAll_of_some {userId : String} {user : Uuid}
    (h : Uuid.ofUserText? userId = some user) :
    ∃ log, (Service.revokeAllRefreshTokens userId).forRequest.exec Memory.backend w =
      (some (.ok ()), { w with store := w.store.revokeAll user, log }) := by
  rw [Handler.exec_forRequest, Service.revokeAllRefreshTokens, h]
  exact ⟨_, rfl⟩

/-- Looking a user up changes nothing. -/
theorem exec_findById (user : Uuid) :
    (Program.ask (.findById user)).forRequest.exec Memory.backend w =
      (some (.ok (w.store.findById user)), w) := by
  rw [Handler.exec_forRequest, Program.exec_ask_memory rfl]
  rfl

/-- Nobody is found under an id exactly if no account stands under it. -/
theorem findById_eq_none_iff {m : Memory} {user : Uuid} :
    m.findById user = none ↔ m.accounts.contains user = false := by
  rw [Memory.findById, Option.map_eq_none_iff, Table.contains_eq_false_iff]

/-- A user who is found is registered. -/
theorem contains_of_findById {m : Memory} {user : Uuid} {u : User}
    (h : m.findById user = some u) : m.accounts.contains user = true := by
  rw [← Bool.not_eq_false, ← findById_eq_none_iff, h]
  exact Option.some_ne_none u

/-- In the world the flow gives a response, and its status, its body and the store that it leaves
are such as `deed` says. -/
def Does (q : Flow Response) (w : World Memory) (deed : Nat → Body → Memory → Prop) : Prop :=
  ∃ response w', q.exec Memory.backend w = (some response, w') ∧
    deed response.status response.body w'.store

variable {α : Type} {h : Handler α} {ok : α → Response} {deed : Nat → Body → Memory → Prop}

/-- A handler that refuses leaves the store to the refusal as it was. -/
theorem does_of_error {e : ApiError} (hexec : h.exec Memory.backend w = (some (.error e), w))
    (hdeed : deed e.status (.json e.body) w.store) : Does (respond h ok) w deed := by
  obtain ⟨log, hrefuse⟩ := exec_refuse Memory.backend w e
  refine ⟨Response.json e.status e.body, { w with log := w.log ++ log }, ?_, hdeed⟩
  rw [exec_respond, hexec]
  exact hrefuse

/-- A handler that comes to a value does what its answer and its store show. -/
theorem does_of_ok {a : α} (w' : World Memory)
    (hexec : h.exec Memory.backend w = (some (.ok a), w'))
    (hdeed : deed (ok a).status (ok a).body w'.store) : Does (respond h ok) w deed := by
  refine ⟨ok a, w', ?_, hdeed⟩
  rw [exec_respond, hexec]

theorem does_logoutAll (claims : Claims) (w : World Memory) :
    Does (respond (Portal.logoutAll claims) fun _ => success) w
      (Handles w.store claims .logoutAll) := by
  cases hsubject : Uuid.ofUserText? claims.subject with
  | none => exact does_of_error (exec_revokeAll_of_none hsubject) (.nobody hsubject)
  | some user =>
    obtain ⟨log, hexec⟩ := exec_revokeAll_of_some (w := w) hsubject
    exact does_of_ok _ hexec (.loggedOut hsubject (closesOnly_revokeAll user w.store))

theorem does_currentUser (claims : Claims) (w : World Memory) :
    Does (respond (Portal.currentUser claims) userResponse) w (Handles w.store claims .me) := by
  unfold Portal.currentUser
  cases hsubject : Uuid.ofUserText? claims.subject with
  | none => exact does_of_error (Handler.exec_throw ..) (.noSubject hsubject)
  | some user =>
    cases hfound : w.store.findById user with
    | none =>
      refine does_of_error (e := .notFound "User not found") ?_
        (.gone hsubject (findById_eq_none_iff.1 hfound))
      rw [Handler.exec_bind, exec_findById, hfound]
      rfl
    | some u =>
      obtain ⟨account, haccount, rfl⟩ := Option.map_eq_some_iff.1 hfound
      refine does_of_ok (a := account.user) w ?_ (.shown hsubject haccount)
      rw [Handler.exec_bind, exec_findById, hfound]
      rfl

theorem does_revokeSessions {segment userId : String}
    (hsegment : percentDecode? segment = some userId) (claims : Claims) (w : World Memory) :
    Does (respond (Portal.revokeSessions userId) fun _ => success) w
      (Handles w.store claims (.revokeSessions segment)) := by
  have hnamed : (percentDecode? segment).bind Uuid.ofUserText? = Uuid.ofUserText? userId := by
    rw [hsegment, Option.bind_some]
  unfold Portal.revokeSessions
  cases huser : Uuid.ofUserText? userId with
  | none => exact does_of_error (Handler.exec_throw ..) (.unnamed hsegment huser)
  | some user =>
    cases hfound : w.store.findById user with
    | none =>
      refine does_of_error (e := .notFound ("User " ++ user.toText ++ " not found")) ?_
        (.unregistered (hnamed.trans huser) (findById_eq_none_iff.1 hfound))
      rw [Handler.exec_bind, exec_findById, hfound]
      rfl
    | some u =>
      obtain ⟨log, hexec⟩ := exec_revokeAll_of_some (w := w) huser
      refine does_of_ok (a := ()) { w with store := w.store.revokeAll user, log } ?_
        (.ended (hnamed.trans huser) (contains_of_findById hfound)
          (closesOnly_revokeAll user w.store))
      rw [Handler.exec_bind, exec_findById, hfound]
      exact hexec

/-- **What the handler of a protected route does** for the claims of a token. -/
theorem does_handle (p : Portal) (h : Protected r route) (claims : Claims) (w : World Memory) :
    Does (handle p claims r route) w (Handles w.store claims route) := by
  cases h with
  | me => exact does_currentUser claims w
  | logoutAll => exact does_logoutAll claims w
  | revokeSessions segment =>
    cases hsegment : percentDecode? segment with
    | none =>
      have hhandle : handle p claims r (.revokeSessions segment) =
          .done (.text 400 "Invalid URL") := by simp only [handle, hsegment]
      rw [hhandle]
      exact ⟨.text 400 "Invalid URL", w, rfl, .undecoded hsegment⟩
    | some userId =>
      have hhandle : handle p claims r (.revokeSessions segment) =
          respond (Portal.revokeSessions userId) fun _ => success := by
        simp only [handle, hsegment]
      rw [hhandle]
      exact does_revokeSessions hsegment claims w

end Handlers

/-! ## Visits to the routes -/

/-- A visit to a protected route is turned back with a status: the handler has no say, since with
any other in its place the visit would have gone the same way; and the store is as it was. -/
structure TurnedBack (p : Portal) (s : Site Memory) (v : Visit) (route : Route) (status : Nat) :
    Prop where
  handler : ∀ next, (behindGuard p v.request route next).exec Memory.backend (s.world v) =
    (serve p s.limiter v.time v.request).2.exec Memory.backend (s.world v)
  status : ∃ response, (s.answer p Memory.backend v).1 = some response ∧ response.status = status
  store : (s.answer p Memory.backend v).2.store = s.store

/-- A visit to a protected route comes to its handler, with the claims of a token. -/
def ComesThrough (p : Portal) (s : Site Memory) (v : Visit) (route : Route) (claims : Claims) :
    Prop :=
  (serve p s.limiter v.time v.request).2.exec Memory.backend (s.world v) =
    ((openToAll ∘ finish v.request route) <$> handle p claims v.request route).exec Memory.backend
      (s.world v)

variable {p : Portal} {s : Site Memory} {v : Visit} {claims : Claims}

/-- A visit that the guard refuses is turned back with the status of the refusal. -/
theorem turnedBack_of_check (h : Protected v.request route) {e : ApiError} {log : List Event}
    (hcheck : (check p v.request route).exec Memory.backend (s.world v) =
      (some (.error e), { s.world v with log := (s.world v).log ++ log })) :
    TurnedBack p s v route e.status := by
  obtain ⟨log', hrefuse⟩ :=
    exec_refuse Memory.backend { s.world v with log := (s.world v).log ++ log } e
  have hexec (next : Claims → Flow Response) :
      (behindGuard p v.request route next).exec Memory.backend (s.world v) =
        (some ((openToAll ∘ finish v.request route) (.json e.status e.body)),
          { s.world v with log := (s.world v).log ++ log ++ log' }) := by
    rw [behindGuard, Flow.exec_map, exec_guarded, hcheck]
    show (Option.map _ ((refuse e).exec _ _).1, ((refuse e).exec _ _).2) = _
    rw [hrefuse]
    rfl
  constructor
  case handler =>
    intro next
    rw [serve_of_protected h, hexec, hexec]
  case status =>
    rw [Site.fst_answer, serve_of_protected h, hexec]
    exact ⟨_, rfl, status_finish ..⟩
  case store =>
    rw [Site.store_answer, serve_of_protected h, hexec]
    rfl

/-- Once the check has passed, the handler runs on the site's own world with the claims. -/
theorem comesThrough_of_check (h : Protected v.request route)
    (hcheck : (check p v.request route).exec Memory.backend (s.world v) =
      (some (.ok claims), s.world v)) : ComesThrough p s v route claims := by
  unfold ComesThrough
  rw [serve_of_protected h, behindGuard, Flow.exec_map, Flow.exec_map, exec_guarded, hcheck]

/-- **Protected routes act under a good token only, and only on the right user.**  A visit without a
good token is turned back with 401, and one whose token lacks the role that the route asks for with
403.  Any other visit comes to the handler, which answers and changes the store as `Handles`
says. -/
theorem protected_routes_need_their_token (p : Portal) (s : Site Memory) (v : Visit)
    {route : Route} (h : Protected v.request route) :
    ((∀ claims, ¬ Bears p Memory.backend (s.world v) v.request claims) →
      TurnedBack p s v route 401) ∧
    ∀ claims, Bears p Memory.backend (s.world v) v.request claims →
      (route.guard = .admin ∧ claims.role ≠ adminRole → TurnedBack p s v route 403) ∧
      ((route.guard = .admin → claims.role = adminRole) →
        ComesThrough p s v route claims ∧
        ∃ response, (s.answer p Memory.backend v).1 = some response ∧
          Handles s.store claims route response.status response.body
            (s.answer p Memory.backend v).2.store) := by
  refine ⟨fun hnone => ?_, fun claims hbears => ⟨fun hrole => ?_, fun hrole => ?_⟩⟩
  · obtain ⟨e, log, hstatus, hcheck⟩ := exec_check_of_not hnone
    exact hstatus ▸ turnedBack_of_check h hcheck
  · obtain ⟨e, log, hstatus, hcheck⟩ := exec_check_of_role hbears hrole.1 hrole.2
    exact hstatus ▸ turnedBack_of_check h hcheck
  · have hthrough := comesThrough_of_check h (exec_check_of_bears hbears hrole)
    refine ⟨hthrough, ?_⟩
    obtain ⟨response, w', hexec, hdeed⟩ := does_handle p h claims (s.world v)
    unfold ComesThrough at hthrough
    rw [Flow.exec_map, hexec] at hthrough
    rw [Site.fst_answer, Site.store_answer, hthrough]
    refine ⟨_, rfl, ?_⟩
    rw [status_finish, h.body_finish]
    exact hdeed

/-! ## An administrator and a learner -/

/-- The learner. -/
def lena : User := ⟨.ofNat 2, "lena@example.org", none, "learner"⟩

/-- A server with two users, each with a session: an administrator and a learner. -/
def school : Site Memory where
  store := Memory.run {}
    [⟨0, .register ⟨.ofNat 1, "head@example.org", none, "admin"⟩ ""⟩,
      ⟨0, .register lena ""⟩,
      ⟨0, .call (.insertRefresh "head's" (.ofNat 1) 1000 ⟨none, none⟩)⟩,
      ⟨0, .call (.insertRefresh "lena's" (.ofNat 2) 1000 ⟨none, none⟩)⟩]

/-- The key and the settings of the server. -/
def schoolPortal : Portal := ⟨⟨⟨"key", "school", 3600000⟩, 0⟩, 10, "", false⟩

/-- What the token of a user says that was issued at the beginning. -/
def issuedTo (user : Nat) (role : String) : Claims :=
  ⟨(Uuid.ofNat user).toText, role, "school", 0, 3600⟩

/-- A request without a body, at the beginning. -/
def asking (method path : String) (headers : Headers) : Visit where
  time := 0
  date := 0
  request := ⟨method, path, headers, [], none⟩

/-- The sessions of the learner are to be ended, with these header fields. -/
def ending (headers : Headers) : Visit :=
  asking "POST" ("/api/v1/admin/users/" ++ (Uuid.ofNat 2).toText ++ "/revoke-sessions") headers

/-- Somebody asks for the own account, with these header fields. -/
def looking (headers : Headers) : Visit := asking "GET" "/api/v1/auth/me" headers

/-- The fields that bear a token with the claims. -/
def bearing (claims : Claims) : Headers :=
  [⟨"authorization", Text.utf8 ("Bearer " ++ schoolPortal.service.codec.sign claims)⟩]

theorem bears_asking (method path : String) (user : Nat) (role : String) :
    Bears schoolPortal Memory.backend
      (school.world (asking method path (bearing (issuedTo user role))))
      (asking method path (bearing (issuedTo user role))).request (issuedTo user role) := by
  have hclaims : schoolPortal.service.codec.claimsAt? 0 (Uuid.ofNat user).toText role =
      some (issuedTo user role) := rfl
  refine bears_of_sign ?_ rfl
  exact Codec.verify_issued_now (by decide) (by decide) (show (0 : Int) ≤ 0 by decide) hclaims

/-- Without a token or as a learner nobody ends the sessions of the learner; the administrator
does.  The learner sees the own account. -/
theorem protected_routes_need_their_token_school :
    let route : Route := .revokeSessions (Uuid.ofNat 2).toText
    TurnedBack schoolPortal school (ending []) route 401 ∧
      TurnedBack schoolPortal school (ending (bearing (issuedTo 2 "learner"))) route 403 ∧
      (∃ response, (school.answer schoolPortal Memory.backend
          (ending (bearing (issuedTo 1 "admin")))).1 = some response ∧ response.status = 200 ∧
        ClosesOnly (.ofNat 2) school.store (school.answer schoolPortal Memory.backend
          (ending (bearing (issuedTo 1 "admin")))).2.store) ∧
      ∃ response, (school.answer schoolPortal Memory.backend
          (looking (bearing (issuedTo 2 "learner")))).1 = some response ∧ response.status = 200 ∧
        response.body = .json (.record [("user", lena.toJson)]) := by
  intro route
  have hprotected (headers : Headers) : Protected (ending headers).request route :=
    .revokeSessions (Uuid.ofNat 2).toText rfl (by decide +kernel) rfl
  have hnone := (protected_routes_need_their_token schoolPortal school (ending []) (hprotected _)).1
  have hlearner := (protected_routes_need_their_token schoolPortal school _ (hprotected _)).2 _
    (bears_asking _ _ 2 "learner")
  have hadmin := (protected_routes_need_their_token schoolPortal school _ (hprotected _)).2 _
    (bears_asking _ _ 1 "admin")
  have hlooking := (protected_routes_need_their_token schoolPortal school
    (looking (bearing (issuedTo 2 "learner"))) (.me rfl rfl)).2 _ (bears_asking _ _ 2 "learner")
  refine ⟨hnone ?_, hlearner.1 ⟨rfl, by decide⟩, ?_, ?_⟩
  · rintro claims ⟨token, -, htext, -⟩
    cases htext
  · obtain ⟨-, response, hresponse, hdeed⟩ := hadmin.2 fun _ => rfl
    have hnamed : (percentDecode? (Uuid.ofNat 2).toText).bind Uuid.ofUserText? =
        some (.ofNat 2) := by
      decide +kernel
    have hregistered : school.store.accounts.contains (.ofNat 2) = true := by decide +kernel
    exact ⟨response, hresponse, hdeed.of_registered hnamed hregistered⟩
  · obtain ⟨-, response, hresponse, hdeed⟩ := hlooking.2 fun hguard => by cases hguard
    have hsubject : Uuid.ofUserText? (issuedTo 2 "learner").subject = some (.ofNat 2) := by
      decide +kernel
    have hlena : school.store.accounts.get? (.ofNat 2) = some ⟨lena, ""⟩ := by decide +kernel
    obtain ⟨hstatus, hbody, -⟩ := hdeed.of_account hsubject hlena
    exact ⟨response, hresponse, hstatus, hbody⟩

end Gatehouse.Http
