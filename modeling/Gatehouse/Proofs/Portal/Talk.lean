/-
  What the requests of clients say to the store.

  Each request talks to the store in few ways, whatever it is told.  `LoginTalk`, `RefreshTalk` and
  `ResetTalk` list them, with what is known where the talk has come that far: a log-in stores a
  token only for the account that it read and whose hash the password passed; a reset changes the
  password of the user that the used-up token named, and then ends the sessions of that user.
-/
import Gatehouse.Portal
import Gatehouse.Proofs.Dialogue
import Gatehouse.Proofs.Uuid

namespace Gatehouse

variable {α : Type} {es : List Exchange}

/-! ## Programs on behalf of a request -/

namespace Program

/-- On behalf of a request the service says what it says otherwise. -/
theorem says_forRequest {p : Program α} (h : Flow.Says (ExceptT.run p.forRequest) es) :
    Flow.Says (ExceptT.run p) es :=
  says_adapt h

/-- What succeeds on behalf of a request has succeeded. -/
theorem ends_forRequest_ok {p : Program α} {a : α}
    (h : Flow.Ends (ExceptT.run p.forRequest) es (.ok a)) :
    Flow.Ends (ExceptT.run p) es (.ok a) := by
  obtain ⟨y, hy, hx⟩ := ends_adapt h
  cases y with
  | ok b =>
    obtain rfl : a = b := Except.ok.inj hx
    exact hy
  | error e => cases hx

theorem says_forRequest_ofExcept_bind {β : Type} {x : Except AuthError α} {f : α → Handler β}
    (h : Flow.Says (ExceptT.run ((MonadExcept.ofExcept x : Program α).forRequest >>= f)) es) :
    es = [] ∨ ∃ a, x = .ok a ∧ Flow.Says (ExceptT.run (f a)) es := by
  cases x with
  | error e => exact Or.inl (quiet_throw_bind _ _ es h)
  | ok a => exact Or.inr ⟨a, rfl, h⟩

theorem quiet_forRequest {p : Program α} (h : Quiet p) : Quiet p.forRequest :=
  fun es hes => h es (says_forRequest hes)

end Program

/-! ## The service -/

namespace Service

open Program

/-- A secret comes from the source of random bytes, not from the store. -/
theorem quiet_generate (n : Nat) : Quiet (Secret.generate n) := by
  unfold Secret.generate
  split
  · exact quiet_pure _
  · refine quiet_bind (quiet_draw n) fun r => ?_
    cases r with
    | ok bytes => exact quiet_pure _
    | error e => exact quiet_throw _

/-- An access token is signed and not kept. -/
theorem quiet_createAccessToken (s : Service) (user : Uuid) (role : String) :
    Quiet (s.createAccessToken user role) := by
  unfold createAccessToken signToken
  refine quiet_bind (quiet_lift _) fun _ => quiet_bind quiet_now fun t => ?_
  exact quiet_bind (quiet_orAbort _) fun claims => quiet_pure _

/-- Issuing a refresh token is one call, for the user it is issued to. -/
theorem says_createRefreshToken {s : Service} {user : Uuid} {client : ClientInfo}
    (h : Flow.Says (ExceptT.run (s.createRefreshToken user client)) es) :
    es = [] ∨ ∃ digest expiresAt reply,
      es = [⟨.insertRefresh digest user expiresAt client, reply⟩] := by
  unfold createRefreshToken at h
  rcases says_quiet_bind (quiet_generate _) h with h | ⟨secret, h⟩
  · exact Or.inl h
  rcases says_quiet_bind quiet_now h with h | ⟨t, h⟩
  · exact Or.inl h
  rcases says_quiet_bind (quiet_orAbort _) h with h | ⟨expiresAt, h⟩
  · exact Or.inl h
  have h := says_bind_quiet (fun _ => quiet_bind (quiet_log _) fun _ => quiet_pure _) h
  exact ((says_ask _).1 h).imp_right fun ⟨reply, h⟩ => ⟨_, _, reply, h⟩

/-- Opening a session is one call, which keeps the record of the refresh token. -/
theorem says_issueSession {s : Service} {user : Uuid} {role : String} {client : ClientInfo}
    (h : Flow.Says (ExceptT.run (s.issueSession user role client)) es) :
    es = [] ∨ ∃ digest expiresAt reply,
      es = [⟨.insertRefresh digest user expiresAt client, reply⟩] := by
  unfold issueSession at h
  rcases says_quiet_bind (s.quiet_createAccessToken user role) h with h | ⟨access, h⟩
  · exact Or.inl h
  · exact says_createRefreshToken (says_bind_quiet (fun _ => quiet_pure _) h)

/-- A refresh is one call, which presents the token. -/
theorem says_refreshTokens {s : Service} {token : String} {client : ClientInfo}
    (h : Flow.Says (ExceptT.run (s.refreshTokens token client)) es) :
    es = [] ∨ ∃ new expiresAt reply,
      es = [⟨.rotate (digestToken token) new expiresAt client, reply⟩] := by
  unfold refreshTokens at h
  rcases says_quiet_bind (quiet_generate _) h with h | ⟨next, h⟩
  · exact Or.inl h
  rcases says_quiet_bind quiet_now h with h | ⟨t, h⟩
  · exact Or.inl h
  rcases says_quiet_bind (quiet_orAbort _) h with h | ⟨expiresAt, h⟩
  · exact Or.inl h
  refine ((says_ask _).1 (says_bind_quiet (fun rotation => ?_) h)).imp_right
    fun ⟨reply, h⟩ => ⟨_, _, reply, h⟩
  -- what is done with the answer is not the store's business
  have quiet_sign := s.quiet_createAccessToken rotation.user rotation.role
  split
  · exact quiet_bind (quiet_log _) fun _ => quiet_bind (quiet_throw _) fun _ =>
      quiet_bind quiet_sign fun _ => quiet_pure _
  · exact quiet_bind quiet_sign fun _ => quiet_pure _

/-- The user whose identifier was printed is the one whose sessions are closed. -/
theorem revokeAllRefreshTokens_toText (user : Uuid) :
    revokeAllRefreshTokens user.toText =
      (Program.ask (.revokeAll user) >>= fun _ => Program.log (.allRevoked user)) := by
  rw [revokeAllRefreshTokens, Uuid.ofUserText?_toText]

end Service

/-! ## The requests -/

namespace Portal

open Program

/-- What a log-in says to the store. -/
inductive LoginTalk (email password : String) (client : ClientInfo) : List Exchange → Prop where
  /-- Nothing yet. -/
  | silent : LoginTalk email password client []
  /-- It has asked for the account. -/
  | asked (reply : Except AuthError (Option Account)) :
      LoginTalk email password client [⟨.findByEmail email, reply⟩]
  /-- The password passed the hash of the account, and it has stored a token for the account. -/
  | stored (account : Account) (digest : String) (expiresAt : Instant)
      (reply : Except AuthError Unit)
      (passed : Password.verify password account.passwordHash = .ok true) :
      LoginTalk email password client
        [⟨.findByEmail email, .ok (some account)⟩,
          ⟨.insertRefresh digest account.user.id expiresAt client, reply⟩]

/-- What a refresh says to the store. -/
inductive RefreshTalk (token : String) (client : ClientInfo) : List Exchange → Prop where
  /-- Nothing yet. -/
  | silent : RefreshTalk token client []
  /-- It has presented the token. -/
  | presented (new : String) (expiresAt : Instant) (reply : Except AuthError Rotation) :
      RefreshTalk token client [⟨.rotate (digestToken token) new expiresAt client, reply⟩]

/-- What a password reset says to the store. -/
inductive ResetTalk (token : String) : List Exchange → Prop where
  /-- Nothing yet. -/
  | silent : ResetTalk token []
  /-- It has presented the token. -/
  | presented (reply : Except AuthError Uuid) :
      ResetTalk token [⟨.consumeReset (digestToken token), reply⟩]
  /-- The token named a user, and it has changed the password of that user. -/
  | changed (user : Uuid) (hash : String) (reply : Except AuthError Unit) :
      ResetTalk token [⟨.consumeReset (digestToken token), .ok user⟩,
        ⟨.setPassword user hash, reply⟩]
  /-- The password was changed, and it has ended the sessions of the user. -/
  | closed (user : Uuid) (hash : String) (reply : Except AuthError Unit) :
      ResetTalk token [⟨.consumeReset (digestToken token), .ok user⟩,
        ⟨.setPassword user hash, .ok ()⟩, ⟨.revokeAll user, reply⟩]

/-- Neither is the store asked to hash a password. -/
theorem quiet_hash (password : String) : Quiet (Password.hash password) := by
  unfold Password.hash
  refine quiet_bind quiet_salt fun salt => ?_
  cases salt with
  | ok salt => exact quiet_pure _
  | error e => exact quiet_throw _

/-- A new hash is made with some salt. -/
theorem eq_hashWith_of_ends {password hash : String}
    (h : Flow.Ends (ExceptT.run (Password.hash password)) [] (.ok hash)) :
    ∃ salt : Vector UInt8 16, hash = Password.hashWith salt.toList password := by
  unfold Password.hash at h
  obtain ⟨salt, -, hrest⟩ := ends_quiet_bind_ok quiet_salt h
  cases salt with
  | ok salt => exact ⟨salt, (Except.ok.inj ((ends_pure _ _).1 hrest).2).symm⟩
  | error e => cases ((ends_throw _ _).1 hrest).2

/-- **What a log-in says to the store.** -/
theorem loginTalk {p : Portal} {email password : String} {client : ClientInfo}
    (h : Flow.Says (ExceptT.run (p.login email password client)) es) :
    LoginTalk email password client es := by
  unfold login at h
  split at h
  · obtain rfl : es = [] := quiet_throw_bind _ _ es h
    exact .silent
  · -- the account, the verdict on the password, the token
    rcases says_bind.1 h with hask | ⟨found, _, rest, hfound, hrest, rfl⟩
    · rcases (says_ask _).1 (says_forRequest hask) with rfl | ⟨reply, rfl⟩
      · exact .silent
      · exact .asked reply
    · obtain rfl := (ends_ask _ _).1 (ends_forRequest_ok hfound)
      cases found with
      | none =>
        obtain rfl : rest = [] := quiet_throw _ rest hrest
        exact .asked _
      | some account =>
        rcases says_forRequest_ofExcept_bind hrest with rfl | ⟨passed, hpassed, hissue⟩
        · exact .asked _
        cases passed with
        | false =>
          obtain rfl : rest = [] := quiet_throw _ rest hissue
          exact .asked _
        | true =>
          have hissue := says_bind_quiet (fun pair => quiet_bind (quiet_forRequest (quiet_log _))
            fun _ => quiet_pure _) hissue
          rcases Service.says_issueSession (says_forRequest hissue) with
            rfl | ⟨digest, expiresAt, reply, rfl⟩
          · exact .asked _
          · exact .stored account digest expiresAt reply hpassed

/-- **What the exchange of a refresh token says to the store.** -/
theorem refreshTalk {p : Portal} {token : String} {client : ClientInfo}
    (h : Flow.Says (ExceptT.run (p.refresh token client)) es) : RefreshTalk token client es := by
  rcases Service.says_refreshTokens (says_forRequest h) with rfl | ⟨new, expiresAt, reply, rfl⟩
  · exact .silent
  · exact .presented new expiresAt reply

/-- **What setting a new password says to the store.** -/
theorem resetTalk {token password confirmation : String}
    (h : Flow.Says (ExceptT.run (resetPassword token password confirmation)) es) :
    ResetTalk token es := by
  rcases says_ofExcept_bind (says_forRequest h) with rfl | ⟨-, -, hverify⟩
  · exact .silent
  rcases says_ask_bind hverify with rfl | ⟨e, rfl⟩ | ⟨user, rest, rfl, hhash⟩
  · exact .silent
  · exact .presented (.error e)
  rcases says_quiet_bind (quiet_hash password) hhash with rfl | ⟨hash, hset⟩
  · exact .presented (.ok user)
  rcases says_ask_bind hset with rfl | ⟨e, rfl⟩ | ⟨_, rest, rfl, hclose⟩
  · exact .presented (.ok user)
  · exact .changed user hash (.error e)
  have hclose : Flow.Says
      (ExceptT.run (Service.revokeAllRefreshTokens user.toText).outcome) rest := by
    refine says_bind_quiet (fun outcome => ?_) hclose
    -- how the last call ended decides only what is logged
    cases outcome with
    | ok _ => exact quiet_log _
    | error e => exact quiet_bind (quiet_log _) fun _ => quiet_throw _
  rw [says_outcome, Service.revokeAllRefreshTokens_toText] at hclose
  rcases (says_ask _).1 (says_bind_quiet (fun _ => quiet_log _) hclose) with rfl | ⟨reply, rfl⟩
  · exact .changed user hash (.ok ())
  · exact .closed user hash reply

/-- **A reset that succeeds** has used up the token, changed the password of the user it named to
one of the hashes of the new password, and ended the sessions of that user, in this order. -/
theorem ends_resetPassword {token password confirmation : String}
    (h : Flow.Ends (ExceptT.run (resetPassword token password confirmation)) es (.ok ())) :
    ∃ (user : Uuid) (salt : Vector UInt8 16),
      es = [⟨.consumeReset (digestToken token), .ok user⟩,
        ⟨.setPassword user (Password.hashWith salt.toList password), .ok ()⟩,
        ⟨.revokeAll user, .ok ()⟩] := by
  obtain ⟨-, -, hverify⟩ := ends_quiet_bind_ok (quiet_ofExcept _) (ends_forRequest_ok h)
  obtain ⟨user, _, _, huse, hhash, rfl⟩ := ends_bind_ok hverify
  obtain rfl := (ends_ask _ _).1 huse
  obtain ⟨hash, hsalt, hset⟩ := ends_quiet_bind_ok (quiet_hash password) hhash
  obtain ⟨_, _, _, hchange, hclose, rfl⟩ := ends_bind_ok hset
  obtain rfl := (ends_ask _ _).1 hchange
  obtain ⟨salt, rfl⟩ := eq_hashWith_of_ends hsalt
  refine ⟨user, salt, ?_⟩
  obtain ⟨outcome, _, rest, houtcome, hlog, rfl⟩ := ends_bind_ok hclose
  rw [Service.revokeAllRefreshTokens_toText] at houtcome
  obtain ⟨y, hrevoke, hy⟩ := (ends_outcome _ _).1 houtcome
  cases outcome with
  | error e =>
    -- then the program fails in the end
    obtain ⟨_, _, _, _, hthrow, _⟩ := ends_bind_ok hlog
    cases ((ends_throw _ _).1 hthrow).2
  | ok _ =>
    obtain rfl := quiet_log _ rest (Flow.says_of_ends hlog)
    obtain rfl := Except.ok.inj hy
    obtain ⟨_, _, second, hask, hlogged, rfl⟩ := ends_bind_ok hrevoke
    obtain rfl := (ends_ask _ _).1 hask
    obtain rfl := quiet_log _ second (Flow.says_of_ends hlogged)
    rfl

/-- A request of a client. -/
inductive Request where
  /-- Opens a session. -/
  | login (email password : String) (client : ClientInfo)
  /-- Replaces the tokens of a session. -/
  | refresh (token : String) (client : ClientInfo)
  /-- Ends a session. -/
  | logout (token : String)
  /-- Ends all sessions of the user who makes the request. -/
  | logoutAll (claims : Claims)
  /-- Ends all sessions of a user. -/
  | revokeSessions (userId : String)
  /-- Asks for a password-reset token. -/
  | forgotPassword (email : String)
  /-- Sets a new password. -/
  | resetPassword (token password confirmation : String)
  /-- Asks who makes the request. -/
  | currentUser (claims : Claims)

/-- What a request gives when it succeeds. -/
abbrev Request.Reply : Request → Type
  | .login .. | .refresh .. => TokenPair
  | .currentUser _ => User
  | .logout _ | .logoutAll _ | .revokeSessions _ | .forgotPassword _ | .resetPassword .. => Unit

/-- The program that answers a request. -/
def Request.program (p : Portal) : (r : Request) → Flow (Except ApiError r.Reply)
  | .login email password client => ExceptT.run (p.login email password client)
  | .refresh token client => ExceptT.run (p.refresh token client)
  | .logout token => ExceptT.run (Portal.logout token)
  | .logoutAll claims => ExceptT.run (Portal.logoutAll claims)
  | .revokeSessions userId => ExceptT.run (Portal.revokeSessions userId)
  | .forgotPassword email => (p.forgotPassword email).bind fun _ => .done (.ok ())
  | .resetPassword token password confirmation =>
    ExceptT.run (Portal.resetPassword token password confirmation)
  | .currentUser claims => ExceptT.run (Portal.currentUser claims)

end Portal

end Gatehouse
