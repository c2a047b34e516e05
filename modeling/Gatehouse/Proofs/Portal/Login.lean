/-
  A log-in opens one session, or nothing happens.

  A log-in finds the account with the address and checks the password.  Then it signs an access
  token, draws the secret of the refresh token, and tells the store its digest.  The store is told
  last.  So if anything goes wrong, be it the address, the password, the hash of the account, the
  role, the random bytes or the calendar, the store has not been told anything, and if it refuses
  the digest it has not changed.

  A log-in that succeeds has found the account (`Admits`) and had all that a session takes
  (`Service.Opens`).  The store has one refresh record more then, and nothing else is changed
  (`Memory.AddsOnly`).  `login_opens_one_session` says what the record and the access token are.
-/
import Gatehouse.Proofs.Http.Handling
import Gatehouse.Proofs.Portal.ClosedSessions
import Gatehouse.Proofs.Portal.Probing
import Gatehouse.Proofs.Service.Dates
import Gatehouse.Proofs.Text.Blank

namespace Gatehouse

/-! ## Sessions that are opened -/

/-- From one store to the other only a refresh record is added, under a digest that was new. -/
structure Memory.AddsOnly (digest : String) (r : RefreshRecord Nat) (m m' : Memory) : Prop where
  /-- There was no record under the digest. -/
  fresh : m.refresh.get? digest = none
  /-- One record is issued. -/
  issued : m'.issued = m.issued + 1
  /-- The accounts are the same. -/
  accounts : m'.accounts = m.accounts
  /-- The reset records are the same. -/
  resets : m'.resets = m.resets
  /-- There is the new record, and the others are the same. -/
  refresh : ∀ k, m'.refresh.get? k = if k = digest then some r else m.refresh.get? k

theorem Memory.addsOnly_insertRefresh {m : Memory} {digest : String}
    (h : m.refresh.contains digest = false) (now : Instant) (user : Uuid) (expiresAt : Instant)
    (client : ClientInfo) :
    m.AddsOnly digest (m.issue now digest user expiresAt client)
      (m.insertRefresh now digest user expiresAt client).2 := by
  rw [insertRefresh_of_fresh h]
  exact {
    fresh := Table.contains_eq_false_iff.1 h
    issued := rfl
    accounts := rfl
    resets := rfl
    refresh := fun _ => Table.get?_insert .. }

namespace Service

variable {s : Service} {w : World Memory} {user : Uuid} {role : String} {secret : Secret}
  {claims : Claims} {expiresAt : Instant}

/-- `s.Opens w user role secret claims expiresAt` — in the world `w` there is all that a session of
the user takes. -/
structure Opens (s : Service) (w : World Memory) (user : Uuid) (role : String) (secret : Secret)
    (claims : Claims) (expiresAt : Instant) : Prop where
  /-- The user has a role. -/
  named : Text.blank role = false
  /-- The access token ends inside the calendar. -/
  signed : s.codec.claimsAt? w.now user.toText role = some claims
  /-- There are random bytes for the refresh token. -/
  drawn : w.secret? Secret.refreshLength = some secret
  /-- The refresh token ends inside the calendar. -/
  expiry : w.now.plus? s.refreshLifetime = some expiresAt
  /-- The refresh token is new. -/
  fresh : w.store.refresh.contains secret.digest = false

/-- The digest of a secret is the digest of the text that its holder has. -/
theorem digest_of_secret? {n : Nat} (h : w.secret? n = some secret) :
    secret.digest = digestToken secret.plaintext := by
  unfold World.secret? at h
  cases hbytes : w.entropy.secret (w.drawn + 1) n with
  | error e => simp [hbytes] at h
  | ok bytes =>
    obtain rfl : Secret.ofBytes bytes.toList = secret := by simpa [hbytes] using h
    rfl

/-- What the store has of a session that is opened. -/
theorem exists_added {c : TokenConfig} (fits : s.Fits c)
    (opens : s.Opens w user role secret claims expiresAt) (client : ClientInfo) :
    ∃ r, w.store.AddsOnly (digestToken secret.plaintext) r
        (w.store.insertRefresh w.now secret.digest user expiresAt client).2 ∧
      r.user = user ∧ r.digest = digestToken secret.plaintext ∧ r.revoked = false ∧
      r.expiresAt = w.now + c.refreshDays * 86400 * 1000 ∧
      r.ip = client.ip ∧ r.userAgent = client.userAgent := by
  have adds := Memory.addsOnly_insertRefresh opens.fresh w.now user expiresAt client
  have hexpiry := (Instant.plus?_eq_some_iff.1 opens.expiry).1
  rw [digest_of_secret? opens.drawn] at adds ⊢
  rw [fits.refreshLifetime] at hexpiry
  exact ⟨_, adds, rfl, rfl, rfl, hexpiry, rfl, rfl⟩

/-- A refresh token whose digest is new is given out. -/
theorem exec_keep_of_fresh (h : w.store.refresh.contains secret.digest = false)
    (client : ClientInfo) :
    (keep user client secret expiresAt).exec Memory.backend w =
      (some (.ok secret.plaintext), { w with
        store := (w.store.insertRefresh w.now secret.digest user expiresAt client).2
        log := w.log ++ [.refreshIssued user] }) := by
  have hask : (Program.ask (.insertRefresh secret.digest user expiresAt client)).exec
      Memory.backend w = _ := Program.exec_ask_memory rfl
  have hok : (w.store.answer w.now (.insertRefresh secret.digest user expiresAt client)).1 =
      .ok () := by
    rw [show w.store.answer w.now (.insertRefresh secret.digest user expiresAt client) = _ from
      Memory.insertRefresh_of_fresh h w.now user expiresAt client]
  rw [hok] at hask
  unfold keep
  rw [Program.exec_bind, hask]
  rfl

/-- With all that it takes a session is opened, and the store has the record of its token. -/
theorem exec_issueSession_of_opens (h : s.Opens w user role secret claims expiresAt)
    (client : ClientInfo) :
    (s.issueSession user role client).exec Memory.backend w =
      (some (.ok ⟨s.codec.sign claims, secret.plaintext⟩), { w with
        drawn := w.drawn + 1
        store := (w.store.insertRefresh w.now secret.digest user expiresAt client).2
        log := w.log ++ [.refreshIssued user] }) := by
  have hid : Codec.checkIdentity user.toText role = .ok () := by
    rw [Codec.checkIdentity_toText, if_neg (by simp [h.named])]
  have hkeep : (keep user client secret expiresAt).exec Memory.backend
      { w with drawn := w.drawn + 1 } = _ :=
    exec_keep_of_fresh (w := { w with drawn := w.drawn + 1 }) h.fresh client
  rw [exec_issueSession_of Memory.backend client hid h.signed, Program.exec_bind,
    createRefreshToken_eq, exec_withSecret_of refreshLength_ne_zero h.drawn h.expiry, hkeep]
  rfl

/-- A session that is opened has had all that it takes. -/
theorem opens_of_issueSession {client : ClientInfo} {pair : TokenPair} {after : World Memory}
    (h : (s.issueSession user role client).exec Memory.backend w = (some (.ok pair), after)) :
    ∃ secret claims expiresAt, s.Opens w user role secret claims expiresAt := by
  unfold issueSession createAccessToken at h
  obtain ⟨access, w₁, hsign, hrest⟩ := Program.exec_bind_eq_ok.1 h
  rcases exec_signToken Memory.backend s.codec user.toText role w with
    ⟨claims, hid, signed, hsigned⟩ | ⟨hno, -⟩
  · obtain ⟨-, rfl⟩ := Prod.mk.inj (hsigned.symm.trans hsign)
    have named : Text.blank role = false := by
      rw [Codec.checkIdentity_toText] at hid
      cases hrole : Text.blank role with
      | false => rfl
      | true => simp [hrole] at hid
    obtain ⟨refresh, w₂, hrefresh, -⟩ := Program.exec_bind_eq_ok.1 hrest
    rw [createRefreshToken_eq] at hrefresh
    rcases exec_withSecret Memory.backend refreshLength_ne_zero s.refreshLifetime
        (keep user client) w with ⟨secret, expiresAt, drawn, expiry, hkeep, -⟩ | ⟨hno, -⟩
    · rw [hkeep] at hrefresh
      have hok := (exec_keep Memory.backend user client secret expiresAt _).1
        ⟨refresh, congrArg Prod.fst hrefresh⟩
      exact ⟨secret, claims, expiresAt, named, signed, drawn, expiry,
        Memory.fresh_of_insertRefresh hok⟩
    · exact absurd (congrArg Prod.fst hrefresh) (hno refresh)
  · exact absurd (congrArg Prod.fst hsign) (hno access)

/-- A session that is not opened leaves the store as it was. -/
theorem store_of_not_opened {client : ClientInfo} {outcome : Option (Except AuthError TokenPair)}
    {after : World Memory}
    (hexec : (s.issueSession user role client).exec Memory.backend w = (outcome, after))
    (h : ∀ pair, outcome ≠ some (.ok pair)) : after.store = w.store := by
  have hrun := Program.store_exec (s.issueSession user role client) w
  rw [hexec] at hrun
  rcases calls_program Memory.backend s (.issueSession user role client) w with
    hcalls | ⟨call, hcalls, hasks⟩
  · rw [show (s.issueSession user role client).calls Memory.backend w = [] from hcalls] at hrun
    exact hrun
  · rw [show (s.issueSession user role client).calls Memory.backend w = [call] from hcalls] at hrun
    cases hasks with
    | @issueSession _ _ _ secret expiresAt _ _ =>
      cases htaken : w.store.refresh.contains secret.digest with
      | true =>
        -- the one call is refused
        exact hrun.trans (congrArg Prod.snd
          (Memory.insertRefresh_of_contains htaken w.now user expiresAt client))
      | false =>
        have hok := congrArg Prod.fst
          (Memory.insertRefresh_of_fresh htaken w.now user expiresAt client)
        obtain ⟨-, pair, hpair⟩ := opens_of_calls Memory.backend hcalls hok
        exact absurd ((congrArg Prod.fst hexec).symm.trans hpair) (h pair)

/-- An access token is read at the time at which it is signed, unless it ends before 1970. -/
theorem exec_parseToken_of_signed {c : TokenConfig} (fits : s.Fits c) {userId : String}
    (signed : s.codec.claimsAt? w.now userId role = some claims)
    (hexp : 0 ≤ claims.expiresAt) {v : World Memory} (hv : v.now = w.now) :
    (s.parseToken (s.codec.sign claims)).exec Memory.backend v = (some (.ok claims), v) := by
  obtain ⟨hpos, hmax⟩ := fits.span_bounds
  have huntil : w.now.seconds ≤ claims.expiresAt := by
    rw [(Codec.claimsAt?_eq_some_iff.1 signed).2]
    exact Instant.seconds_mono (Int.le_add_of_nonneg_right (Int.le_of_lt hpos))
  refine exec_parseToken Memory.backend ?_
  rw [hv, Codec.verify_issued hmax signed, if_pos ⟨hexp, huntil⟩]

end Service

/-! ## Log-ins -/

/-- `m.Answers email k account` — the account under `k` has the address, blanks around it and case
ignored. -/
structure Memory.Answers (m : Memory) (email : String) (k : Uuid) (account : Account) : Prop where
  /-- The account is there. -/
  known : m.accounts.get? k = some account
  /-- Its address is the one that is wanted. -/
  same : Text.lowerCase account.user.email = Text.lowerCase (Text.trim email)

namespace Portal

variable {p : Portal} {w : World Memory} {email password : String} {account : Account}
  {client : ClientInfo}

/-- The address and the password are those of the account. -/
structure Admits (w : World Memory) (email password : String) (account : Account) : Prop where
  /-- An address is given. -/
  addressed : Text.blank email = false
  /-- A password is given. -/
  given : password ≠ ""
  /-- The account is found under the address. -/
  found : w.store.findByEmail email = some account
  /-- The password passes the hash of the account. -/
  passed : Password.verify password account.passwordHash = .ok true

/-- Nobody is admitted: the log-in is refused, and the world is as it was. -/
theorem exec_login_of_not_admitted (h : ∀ account, ¬ Admits w email password account)
    (client : ClientInfo) :
    ∃ e, (p.login email password client).exec Memory.backend w = (some (.error e), w) := by
  by_cases hguard : Text.blank email = true ∨ password.isEmpty = true
  · refine ⟨.validation "Email and password are required", ?_⟩
    unfold login
    rw [if_pos hguard]
    rfl
  · obtain ⟨hemail, hpassword⟩ := not_or.1 hguard
    refine ⟨_, exec_login p client fun account found passed => h account ?_⟩
    exact ⟨by simpa using hemail, by simpa using hpassword, found, passed⟩

/-- Once somebody is admitted it is up to the session. -/
theorem exec_login_of_admits (h : Admits w email password account) (client : ClientInfo) :
    (p.login email password client).exec Memory.backend w =
      (openFor p account client).exec Memory.backend w := by
  have hstep := step_login (p := p) h.addressed (by simpa using h.given) h.found h.passed client
  have hexec := Flow.exec_step Memory.backend (ExceptT.run (p.login email password client)) w
  rw [hstep] at hexec
  exact hexec.symm

/-- Besides opening the session only the log is written. -/
theorem exec_openFor (p : Portal) (account : Account) (client : ClientInfo) :
    (openFor p account client).exec Memory.backend w =
      match (p.service.issueSession account.user.id account.user.role client).exec
          Memory.backend w with
      | (some (.ok pair), after) =>
        (some (.ok pair), { after with log := after.log ++ [.loggedIn account.user.id] })
      | (some (.error e), after) => (some (.error (.ofAuth e)), after)
      | (none, after) => (none, after) := by
  unfold openFor
  rw [Handler.exec_bind, Handler.exec_forRequest]
  obtain ⟨- | - | pair, after⟩ := (p.service.issueSession account.user.id account.user.role
    client).exec Memory.backend w
  · rfl
  · rfl
  · simp only [Option.map_some, Except.mapError, Handler.exec_bind, Handler.exec_forRequest,
      Program.exec_log, Handler.exec_pure]

/-- **Who is admitted, and for whom there is all that a session takes, gets a session.** -/
theorem exec_login_of_opens {secret : Secret} {claims : Claims} {expiresAt : Instant}
    (admits : Admits w email password account)
    (opens : p.service.Opens w account.user.id account.user.role secret claims expiresAt)
    (client : ClientInfo) :
    ∃ after, (p.login email password client).exec Memory.backend w =
        (some (.ok ⟨p.service.codec.sign claims, secret.plaintext⟩), after) ∧
      after.store =
        (w.store.insertRefresh w.now secret.digest account.user.id expiresAt client).2 := by
  have hsession := Service.exec_issueSession_of_opens opens client
  rw [exec_login_of_admits admits client, exec_openFor, hsession]
  exact ⟨_, rfl, rfl⟩

/-- A log-in that succeeds is of somebody who is admitted, and for whom there was all that a session
takes. -/
theorem opens_of_login {pair : TokenPair} {after : World Memory}
    (h : (p.login email password client).exec Memory.backend w = (some (.ok pair), after)) :
    ∃ account secret claims expiresAt, Admits w email password account ∧
      p.service.Opens w account.user.id account.user.role secret claims expiresAt ∧
      pair = ⟨p.service.codec.sign claims, secret.plaintext⟩ ∧
      after.store =
        (w.store.insertRefresh w.now secret.digest account.user.id expiresAt client).2 := by
  by_cases hadmits : ∃ account, Admits w email password account
  · obtain ⟨account, admits⟩ := hadmits
    have hopen := (exec_login_of_admits admits client).symm.trans h
    rw [exec_openFor] at hopen
    split at hopen
    · next hsession =>
      obtain ⟨secret, claims, expiresAt, opens⟩ := Service.opens_of_issueSession hsession
      obtain ⟨after', hexec, hstore⟩ := exec_login_of_opens admits opens client
      obtain ⟨hpair, rfl⟩ := Prod.mk.inj (h.symm.trans hexec)
      exact ⟨account, secret, claims, expiresAt, admits, opens,
        Except.ok.inj (Option.some.inj hpair), hstore⟩
    · simp at hopen
    · simp at hopen
  · obtain ⟨e, hexec⟩ := exec_login_of_not_admitted
      (fun account admits => hadmits ⟨account, admits⟩) client
    rw [h] at hexec
    simp at hexec

/-- A log-in that does not succeed leaves the store as it was. -/
theorem store_of_not_logged_in {outcome : Option (Except ApiError TokenPair)}
    {after : World Memory}
    (h : (p.login email password client).exec Memory.backend w = (outcome, after))
    (hno : ∀ pair, outcome ≠ some (.ok pair)) : after.store = w.store := by
  by_cases hadmits : ∃ account, Admits w email password account
  · obtain ⟨account, admits⟩ := hadmits
    have hopen := (exec_login_of_admits admits client).symm.trans h
    rw [exec_openFor] at hopen
    split at hopen
    · exact absurd (congrArg Prod.fst hopen).symm (hno _)
    · next hsession =>
      obtain ⟨-, rfl⟩ := Prod.mk.inj hopen
      exact Service.store_of_not_opened hsession (by simp)
    · next hsession =>
      obtain ⟨-, rfl⟩ := Prod.mk.inj hopen
      exact Service.store_of_not_opened hsession (by simp)
  · obtain ⟨e, hexec⟩ := exec_login_of_not_admitted
      (fun account admits => hadmits ⟨account, admits⟩) client
    rw [h] at hexec
    rw [(Prod.mk.inj hexec).2]

/-- Before the calendar ends no log-in is abandoned. -/
theorem not_abandoned_login (haccess : w.now.plus? p.service.codec.span ≠ none)
    (hrefresh : w.now.plus? p.service.refreshLifetime ≠ none) (client : ClientInfo) :
    ((p.login email password client).exec Memory.backend w).1 ≠ none := by
  by_cases hadmits : ∃ account, Admits w email password account
  · obtain ⟨account, admits⟩ := hadmits
    have hsession : ¬ (p.service.issueSession account.user.id account.user.role
        client).Abandoned Memory.backend w := by
      rw [Service.abandoned_issueSession_iff haccess, Service.abandoned_createRefreshToken_iff]
      exact fun h => hrefresh h.2.2
    unfold Program.Abandoned at hsession
    rw [exec_login_of_admits admits client, exec_openFor]
    revert hsession
    obtain ⟨- | - | pair, after⟩ := (p.service.issueSession account.user.id account.user.role
      client).exec Memory.backend w <;> simp
  · obtain ⟨e, hexec⟩ := exec_login_of_not_admitted
      (fun account admits => hadmits ⟨account, admits⟩) client
    rw [hexec]
    exact Option.some_ne_none _

/-- **A log-in opens one session, or changes nothing.**  Let at most one account have the address.

1. If the log-in succeeds, an address and a password are given, and the password passes the hash of
   the account with the address.  The store has one refresh record more, under the digest of the
   refresh token, for the user of the account; it is open and lasts for as many days as were set,
   and it notes the address and the agent of the client without the blanks around them.  The access
   token is read at that time; it names the user, the role of the account, and the seconds that are
   told to the client.
2. If it does not succeed, the store is as it was.
3. It is not abandoned while both tokens end inside the calendar. -/
theorem login_opens_one_session {c : TokenConfig} {p : Portal}
    (hs : Service.ofConfig? c = some (.ok p.service)) (w : World Memory) {email : String}
    (unique : ∀ k k' account account', w.store.Answers email k account →
      w.store.Answers email k' account' → k = k')
    (password : String) (ip userAgent : Option String) :
    let result := (p.login email password (.ofRaw ip userAgent)).exec Memory.backend w
    let known (raw : String) := if Text.blank raw then none else some (Text.trim raw)
    (∀ pair, result.1 = some (.ok pair) →
      Text.blank email = false ∧ password ≠ "" ∧
      ∃ k account, w.store.Answers email k account ∧
        (∀ k' account', w.store.Answers email k' account' → account' = account) ∧
        Password.verify password account.passwordHash = .ok true ∧
        (∃ r, w.store.AddsOnly (digestToken pair.refresh) r result.2.store ∧
          r.user = account.user.id ∧ r.digest = digestToken pair.refresh ∧ r.revoked = false ∧
          r.expiresAt = w.now + c.refreshDays * 86400 * 1000 ∧
          r.ip = ip.bind known ∧ r.userAgent = userAgent.bind known) ∧
        ∃ claims, claims.subject = account.user.id.toText ∧ claims.role = account.user.role ∧
          claims.issuedAt = w.now.seconds ∧
          claims.expiresAt = w.now.seconds + c.expirationHours * 3600 ∧
          (0 ≤ claims.expiresAt → ∀ v : World Memory, v.now = w.now →
            (p.service.parseToken pair.access).exec Memory.backend v = (some (.ok claims), v)) ∧
          Http.tokensResponse p pair = .json 200 (.record [("access_token", .text pair.access),
            ("refresh_token", .text pair.refresh), ("token_type", .text "Bearer"),
            ("expires_in", .int (claims.expiresAt - claims.issuedAt))])) ∧
    ((∀ pair, result.1 ≠ some (.ok pair)) → result.2.store = w.store) ∧
    (w.now.plus? p.service.codec.span ≠ none →
      w.now.plus? p.service.refreshLifetime ≠ none → result.1 ≠ none) := by
  intro result known
  have hknown : trimmed? = known := funext trimmed?_eq
  refine ⟨?_, ?_, ?_⟩
  · intro pair hok
    have hlogin : result = (some (.ok pair), result.2) := Prod.ext hok rfl
    obtain ⟨account, secret, claims, expiresAt, admits, opens, rfl, hstore⟩ :=
      opens_of_login hlogin
    have fits := Service.fits_of_ofConfig? hs
    obtain ⟨k, hk, hemail⟩ := Memory.exists_of_findByEmail admits.found
    have answers : w.store.Answers email k account := ⟨hk, hemail⟩
    refine ⟨admits.addressed, admits.given, k, account, answers, ?_, admits.passed, ?_, ?_⟩
    · intro k' account' answers'
      obtain rfl := unique k k' account account' answers answers'
      exact Option.some.inj (answers'.known.symm.trans hk)
    · obtain ⟨r, adds, huser, hdigest, hopen, hexpiry, hip, hagent⟩ :=
        Service.exists_added fits opens (.ofRaw ip userAgent)
      rw [← hstore] at adds
      exact ⟨r, adds, huser, hdigest, hopen, hexpiry, hip.trans (congrArg ip.bind hknown),
        hagent.trans (congrArg userAgent.bind hknown)⟩
    · have hclaims := fits.claims_eq opens.signed
      have hlife := fits.lifetime_of_claimsAt? opens.signed
      refine ⟨claims, by rw [hclaims], by rw [hclaims], by rw [hclaims], by rw [hclaims], ?_,
        by rw [hlife]; rfl⟩
      intro hexp v hv
      exact Service.exec_parseToken_of_signed fits opens.signed hexp hv
  · intro hno
    exact store_of_not_logged_in rfl hno
  · intro haccess hrefresh
    exact not_abandoned_login haccess hrefresh _

/-! ### A first log-in -/

/-- The user of `oldAccount` is about to log in. -/
def doorstep : World Memory :=
  { now := 0
    entropy := Service.countingEntropy
    store := { accounts := (∅ : Table _ _).insert (.ofNat 1) oldAccount } }

/-- The first log-in of the user: the address is written differently, and there are blanks around
what is known of the client. -/
theorem login_opens_one_session_first :
    ∃ pair after r claims,
      (plainPortal.login " A@example.org" "old password"
          (.ofRaw (some " 192.0.2.1 ") (some " "))).exec Memory.backend doorstep =
        (some (.ok pair), after) ∧
      doorstep.store.AddsOnly (digestToken pair.refresh) r after.store ∧
      r.user = .ofNat 1 ∧ r.expiresAt = 2592000000 ∧
      r.ip = some "192.0.2.1" ∧ r.userAgent = none ∧
      (plainPortal.service.parseToken pair.access).exec Memory.backend doorstep =
        (some (.ok claims), doorstep) ∧
      claims.role = "learner" := by
  have hs : Service.ofConfig? Service.plainConfig = some (.ok plainPortal.service) := by
    with_unfolding_all rfl
  have only (k : Uuid) (account : Account)
      (h : doorstep.store.accounts.get? k = some account) :
      k = .ofNat 1 ∧ account = oldAccount := by
    rw [doorstep, Table.get?_insert] at h
    split at h
    · next hk => exact ⟨hk, (Option.some.inj h).symm⟩
    · cases h
  have unique (k k' account account') (h : doorstep.store.Answers " A@example.org" k account)
      (h' : doorstep.store.Answers " A@example.org" k' account') : k = k' :=
    (only k account h.known).1.trans (only k' account' h'.known).1.symm
  -- the password passes the hash that was made of it, and nothing is missing for a session
  have admits : Admits doorstep " A@example.org" "old password" oldAccount :=
    ⟨by decide +kernel, by decide, by rfl, Password.verify_hashOf (by decide) (by decide) _⟩
  have opens : plainPortal.service.Opens doorstep (.ofNat 1) "learner" _ _ _ :=
    ⟨by decide, rfl, rfl, rfl, rfl⟩
  obtain ⟨after, hexec, -⟩ := exec_login_of_opens admits opens
    (.ofRaw (some " 192.0.2.1 ") (some " "))
  obtain ⟨-, -, k, account, answers, -, -, ⟨r, adds, huser, -, -, hexpiry, hip, hagent⟩, claims, -,
      hrole, -, hend, hparse, -⟩ :=
    (login_opens_one_session hs doorstep unique "old password" (some " 192.0.2.1 ")
      (some " ")).1 _ (congrArg Prod.fst hexec)
  obtain ⟨-, rfl⟩ := only k account answers.known
  rw [hexec] at adds
  refine ⟨_, after, r, claims, hexec, adds, huser, hexpiry, ?_, ?_, ?_, hrole⟩
  · rw [hip]
    decide +kernel
  · rw [hagent]
    decide +kernel
  · exact hparse (by rw [hend]; decide) doorstep rfl

end Portal

end Gatehouse
