/-
  What a password reset leaves of the store.

  A reset goes through five steps: it checks the new password, uses up the token, hashes the
  password, writes the hash, and closes the sessions of the owner.  Each step can fail but the last,
  and what the steps before it have done stays done.  So there are three things that a reset can
  leave:

  * the store as it was, if the password is refused or the token is no good;
  * the store with the token used and nothing else changed (`UsesOnly`), if no salt can be had or
    the owner is not registered;
  * the store with the token used, the new password set and the sessions of the owner closed
    (`RenewsOnly`), if the reset succeeds.

  `reset_keeps_its_word` says which of them goes with which outcome.  The token is used up before
  the hash is written, so that two requests cannot both reset; that is why a request that fails
  between the two costs its owner the token.
-/
import Gatehouse.Proofs.Http.Handling
import Gatehouse.Proofs.Password
import Gatehouse.Proofs.Portal.Talk
import Gatehouse.Proofs.Store.Reset

namespace Gatehouse

/-! ## What may be left -/

/-- From one store to the other only the reset token with the digest is used. -/
structure Memory.UsesOnly (digest : String) (m m' : Memory) : Prop where
  /-- No record is issued. -/
  issued : m'.issued = m.issued
  /-- The accounts are the same. -/
  accounts : m'.accounts = m.accounts
  /-- The refresh records are the same. -/
  refresh : m'.refresh = m.refresh
  /-- One reset record is used, and the others are the same. -/
  resets : ∀ k, m'.resets.get? k =
    if k = digest then (m.resets.get? k).map fun r => { r with used := true }
    else m.resets.get? k

/-- From one store to the other only the reset token with the digest is used, the user has another
password hash, and all sessions of the user are closed. -/
structure Memory.RenewsOnly (digest : String) (user : Uuid) (hash : String) (m m' : Memory) :
    Prop where
  /-- No record is issued. -/
  issued : m'.issued = m.issued
  /-- One account has another password hash, and the others are the same. -/
  accounts : ∀ k, m'.accounts.get? k =
    if k = user then (m.accounts.get? k).map fun a => { a with passwordHash := hash }
    else m.accounts.get? k
  /-- The refresh records of the user are revoked, and the others are the same. -/
  refresh : ∀ k, m'.refresh.get? k =
    (m.refresh.get? k).map fun r => if r.user = user then { r with revoked := true } else r
  /-- One reset record is used, and the others are the same. -/
  resets : ∀ k, m'.resets.get? k =
    if k = digest then (m.resets.get? k).map fun r => { r with used := true }
    else m.resets.get? k

namespace Memory

/-- The store after a reset token is used. -/
def withUsed (m : Memory) (digest : String) : Memory :=
  { m with resets := m.resets.modify digest fun r => { r with used := true } }

theorem usesOnly_withUsed (m : Memory) (digest : String) :
    m.UsesOnly digest (m.withUsed digest) where
  issued := rfl
  accounts := rfl
  refresh := rfl
  resets _ := Table.get?_modify ..

theorem setPassword_of_registered {m : Memory} {user : Uuid} (hash : String)
    (h : m.accounts.contains user = true) :
    m.setPassword user hash = (.ok (), { m with
      accounts := m.accounts.modify user fun a => { a with passwordHash := hash } }) :=
  if_pos h

theorem setPassword_of_unregistered {m : Memory} {user : Uuid} (hash : String)
    (h : m.accounts.contains user = false) :
    m.setPassword user hash = (.error (.persistence .rowNotFound), m) :=
  if_neg (by simp [h])

theorem renewsOnly_setPassword (m : Memory) (digest : String) {user : Uuid} (hash : String)
    (h : m.accounts.contains user = true) :
    m.RenewsOnly digest user hash
      (((m.withUsed digest).setPassword user hash).2.revokeAll user) := by
  have h' : (m.withUsed digest).accounts.contains user = true := h
  rw [setPassword_of_registered hash h']
  exact {
    issued := rfl
    accounts := fun _ => Table.get?_modify ..
    refresh := fun _ => Table.get?_modifyAll ..
    resets := fun _ => Table.get?_modify .. }

end Memory

namespace Portal

variable {w : World Memory}

/-! ## The steps -/

/-- The hash of a new password, or why there is none. -/
def newHash (w : World Memory) (password : String) : Except AuthError String :=
  match w.entropy.salt with
  | .ok salt => .ok (Password.hashWith salt.toList password)
  | .error reason =>
    .error (.internal ("bcrypt hash: " ++ (Password.HashError.noSalt reason).message))

theorem exec_hash (password : String) :
    (Password.hash password).exec Memory.backend w = (some (newHash w password), w) := by
  unfold Password.hash newHash
  rw [Program.exec_bind, Program.exec_salt]
  cases w.entropy.salt with
  | ok salt => rfl
  | error reason => rfl

theorem newHash_of_salt {salt : Vector UInt8 16} (h : w.entropy.salt = .ok salt)
    (password : String) : newHash w password = .ok (Password.hashWith salt.toList password) := by
  simp only [newHash, h]

theorem newHash_without_salt {reason : String} (h : w.entropy.salt = .error reason)
    (password : String) :
    newHash w password =
      .error (.internal ("bcrypt hash: " ++ (Password.HashError.noSalt reason).message)) := by
  simp only [newHash, h]

/-- A new password passes its hash. -/
theorem verify_of_newHash {password hash : String} (h : newHash w password = .ok hash) :
    Password.verify password hash = .ok true := by
  cases hsalt : w.entropy.salt with
  | error reason =>
    rw [newHash_without_salt hsalt] at h
    cases h
  | ok salt =>
    rw [newHash_of_salt hsalt] at h
    obtain rfl := Except.ok.inj h
    exact Password.verify_hashWith salt.length_toList password

/-- What is done for the owner of a token that is used. -/
def renew (password : String) (user : Uuid) : Program Unit := do
  let hash ← Password.hash password
  Program.ask (.setPassword user hash)
  match ← (Service.revokeAllRefreshTokens user.toText).outcome with
  | .ok _ => Program.log (.resetCompleted user)
  | .error e =>
    Program.log (.sessionsNotClosed user e)
    throw e

theorem resetPassword_eq (token password confirmation : String) :
    resetPassword token password confirmation = Program.forRequest (do
      MonadExcept.ofExcept (Password.checkNew password confirmation)
      let user ← Service.verifyPasswordReset token
      renew password user) := rfl

/-- Without a hash nothing is done for the owner. -/
theorem exec_renew_of_unhashed {password : String} {e : AuthError} (user : Uuid)
    (h : newHash w password = .error e) :
    (renew password user).exec Memory.backend w = (some (.error e), w) := by
  unfold renew
  rw [Program.exec_bind, exec_hash, h]

/-- Nothing is done for an owner who is not registered. -/
theorem exec_renew_of_unregistered {password hash : String} {user : Uuid}
    (h : newHash w password = .ok hash) (hno : w.store.accounts.contains user = false) :
    (renew password user).exec Memory.backend w =
      (some (.error (.persistence .rowNotFound)), w) := by
  have hset : (Program.ask (.setPassword user hash)).exec Memory.backend w = _ :=
    Program.exec_ask_memory rfl
  rw [show w.store.answer w.now (.setPassword user hash) = _ from
    Memory.setPassword_of_unregistered hash hno] at hset
  unfold renew
  rw [Program.exec_bind, exec_hash, h]
  exact Program.exec_bind_eq_error.2 (Or.inl hset)

/-- For an owner who is registered the hash is set, and then the sessions are closed. -/
theorem exec_renew_of_registered {password hash : String} {user : Uuid}
    (h : newHash w password = .ok hash) (hyes : w.store.accounts.contains user = true) :
    (renew password user).exec Memory.backend w =
      (some (.ok ()), { w with
        store := (w.store.setPassword user hash).2.revokeAll user
        log := w.log ++ [.allRevoked user] ++ [.resetCompleted user] }) := by
  have hset : (Program.ask (.setPassword user hash)).exec Memory.backend w = _ :=
    Program.exec_ask_memory rfl
  have hok : (w.store.answer w.now (.setPassword user hash)).1 = .ok () := by
    rw [show w.store.answer w.now (.setPassword user hash) = _ from
      Memory.setPassword_of_registered hash hyes]
  rw [hok] at hset
  have hclose (w : World Memory) : (Program.ask (.revokeAll user)).exec Memory.backend w = _ :=
    Program.exec_ask_memory rfl
  unfold renew
  rw [Program.exec_bind, exec_hash, h]
  simp only [Program.exec_bind, hset, Program.exec_outcome, Service.revokeAllRefreshTokens_toText,
    hclose, Memory.answer, Program.exec_log, Option.map_some]

/-! ## The whole request -/

variable {token password confirmation : String}

theorem exec_reset_of_refused {e : AuthError}
    (h : Password.checkNew password confirmation = .error e) :
    (resetPassword token password confirmation).exec Memory.backend w =
      (some (.error (.ofAuth e)), w) := by
  rw [resetPassword_eq, Handler.exec_forRequest, Program.exec_bind, Program.exec_ofExcept, h]
  rfl

/-- A new password that is accepted leaves the rest to the token. -/
theorem exec_reset_of_accepted (h : Password.checkNew password confirmation = .ok ()) :
    (resetPassword token password confirmation).exec Memory.backend w =
      (Program.forRequest (Service.verifyPasswordReset token >>= renew password)).exec
        Memory.backend w := by
  rw [resetPassword_eq, Handler.exec_forRequest, Program.exec_bind, Program.exec_ofExcept, h,
    Handler.exec_forRequest]

theorem exec_reset_of_bad_token (h : Password.checkNew password confirmation = .ok ())
    (hbad : w.store.consumeReset w.now (digestToken token) =
      (.error .invalidOrExpiredToken, w.store)) :
    (resetPassword token password confirmation).exec Memory.backend w =
      (some (.error (.ofAuth .invalidOrExpiredToken)), w) := by
  have hverify : (Service.verifyPasswordReset token).exec Memory.backend w = _ :=
    Program.exec_ask_memory rfl
  rw [show w.store.answer w.now (.consumeReset (digestToken token)) = _ from hbad] at hverify
  rw [exec_reset_of_accepted h, Handler.exec_forRequest, Program.exec_bind, hverify]
  rfl

/-- A good token is used, whatever comes of the rest. -/
theorem exec_reset_of_redeemable (h : Password.checkNew password confirmation = .ok ())
    {r : ResetRecord} (good : w.store.Redeemable w.now (digestToken token) r)
    {outcome : Except AuthError Unit} {after : World Memory}
    (hrenew : (renew password r.user).exec Memory.backend
      { w with store := w.store.withUsed (digestToken token) } = (some outcome, after)) :
    (resetPassword token password confirmation).exec Memory.backend w =
      (some (outcome.mapError .ofAuth), after) := by
  have hverify : (Service.verifyPasswordReset token).exec Memory.backend w = _ :=
    Program.exec_ask_memory rfl
  rw [show w.store.answer w.now (.consumeReset (digestToken token)) =
    (.ok r.user, w.store.withUsed (digestToken token)) from
      Memory.consumeReset_of_redeemable good] at hverify
  rw [exec_reset_of_accepted h, Handler.exec_forRequest, Program.exec_bind, hverify]
  simp only [hrenew, Option.map_some]

theorem checkNew_of_bad (h : password.length < 8 ∨ password ≠ confirmation) :
    ∃ detail, Password.checkNew password confirmation = .error (.validation detail) := by
  unfold Password.checkNew
  split
  · exact ⟨_, rfl⟩
  · next hlong =>
    have hne : password ≠ confirmation := h.resolve_left hlong
    exact ⟨_, if_pos hne⟩

theorem checkNew_of_good (h : ¬ (password.length < 8 ∨ password ≠ confirmation)) :
    Password.checkNew password confirmation = .ok () := by
  obtain ⟨hlong, heq⟩ := not_or.1 h
  exact (if_neg hlong).trans (if_neg heq)

/-- Without a salt the token is used up for nothing. -/
theorem exec_reset_without_salt (h : Password.checkNew password confirmation = .ok ())
    {r : ResetRecord} (good : w.store.Redeemable w.now (digestToken token) r) {reason : String}
    (hsalt : w.entropy.salt = .error reason) :
    ∃ detail after, (resetPassword token password confirmation).exec Memory.backend w =
        (some (.error (.ofAuth (.internal detail))), after) ∧
      w.store.UsesOnly (digestToken token) after.store := by
  have hhash := newHash_without_salt
    (w := { w with store := w.store.withUsed (digestToken token) }) hsalt password
  have hrenew := exec_renew_of_unhashed r.user hhash
  exact ⟨_, _, exec_reset_of_redeemable h good hrenew, w.store.usesOnly_withUsed _⟩

/-- And so it is for an owner who is not registered. -/
theorem exec_reset_of_unregistered (h : Password.checkNew password confirmation = .ok ())
    {r : ResetRecord} (good : w.store.Redeemable w.now (digestToken token) r)
    {salt : Vector UInt8 16} (hsalt : w.entropy.salt = .ok salt)
    (hno : w.store.accounts.contains r.user = false) :
    ∃ after, (resetPassword token password confirmation).exec Memory.backend w =
        (some (.error (.ofAuth (.persistence .rowNotFound))), after) ∧
      w.store.UsesOnly (digestToken token) after.store := by
  have hhash := newHash_of_salt
    (w := { w with store := w.store.withUsed (digestToken token) }) hsalt password
  have hrenew := exec_renew_of_unregistered hhash hno
  exact ⟨_, exec_reset_of_redeemable h good hrenew, w.store.usesOnly_withUsed _⟩

/-- Else the password is set, and the sessions are closed. -/
theorem exec_reset_of_registered (h : Password.checkNew password confirmation = .ok ())
    {r : ResetRecord} (good : w.store.Redeemable w.now (digestToken token) r)
    {salt : Vector UInt8 16} (hsalt : w.entropy.salt = .ok salt)
    (hyes : w.store.accounts.contains r.user = true) :
    ∃ hash after, (resetPassword token password confirmation).exec Memory.backend w =
        (some (.ok ()), after) ∧
      Password.verify password hash = .ok true ∧
      w.store.RenewsOnly (digestToken token) r.user hash after.store := by
  have hhash := newHash_of_salt
    (w := { w with store := w.store.withUsed (digestToken token) }) hsalt password
  have hrenew := exec_renew_of_registered hhash hyes
  exact ⟨_, _, exec_reset_of_redeemable h good hrenew, verify_of_newHash hhash,
    w.store.renewsOnly_setPassword _ _ hyes⟩

/-- **A password reset does what its outcome says.**

1. A password that is too short or differs from its repetition is refused, and the world is as it
   was, the token with it.
2. A token that is unknown, used or expired is refused, and the world is as it was.
3. Else the token is used.  Without a salt, and for an owner who is not registered, the request
   fails, and nothing else is changed in the store.
4. Else the request succeeds.  The new password passes the hash that the owner has then, every
   session of the owner is closed, and nothing else is changed. -/
theorem reset_keeps_its_word (w : World Memory) (token password confirmation : String) :
    let result := (resetPassword token password confirmation).exec Memory.backend w
    let digest := digestToken token
    (password.length < 8 ∨ password ≠ confirmation →
      ∃ detail, result = (some (.error (.ofAuth (.validation detail))), w)) ∧
    (¬ (password.length < 8 ∨ password ≠ confirmation) →
      ((∀ r, ¬ w.store.Redeemable w.now digest r) →
        result = (some (.error (.ofAuth .invalidOrExpiredToken)), w)) ∧
      ∀ r, w.store.Redeemable w.now digest r →
        (∀ reason, w.entropy.salt = .error reason →
          ∃ detail after, result = (some (.error (.ofAuth (.internal detail))), after) ∧
            w.store.UsesOnly digest after.store) ∧
        (∀ salt, w.entropy.salt = .ok salt → w.store.accounts.contains r.user = false →
          ∃ after, result = (some (.error (.ofAuth (.persistence .rowNotFound))), after) ∧
            w.store.UsesOnly digest after.store) ∧
        (∀ salt, w.entropy.salt = .ok salt → w.store.accounts.contains r.user = true →
          ∃ hash after, result = (some (.ok ()), after) ∧
            Password.verify password hash = .ok true ∧
            w.store.RenewsOnly digest r.user hash after.store)) := by
  intro result digest
  refine ⟨?_, ?_⟩
  · intro hbad
    obtain ⟨detail, hcheck⟩ := checkNew_of_bad hbad
    exact ⟨detail, exec_reset_of_refused hcheck⟩
  · intro hgood
    have hcheck := checkNew_of_good hgood
    refine ⟨?_, ?_⟩
    · intro hnone
      rcases w.store.consumeReset_cases w.now digest with hbad | ⟨r, good⟩
      · exact exec_reset_of_bad_token hcheck hbad
      · exact absurd good (hnone r)
    · intro r good
      refine ⟨?_, ?_, ?_⟩
      · intro reason hsalt
        exact exec_reset_without_salt hcheck good hsalt
      · intro salt hsalt hno
        exact exec_reset_of_unregistered hcheck good hsalt hno
      · intro salt hsalt hyes
        exact exec_reset_of_registered hcheck good hsalt hyes

/-! ### A forgotten password -/

/-- A reset token for the first user. -/
def resetLetter : ResetRecord := ⟨0, .ofNat 1, digestToken "token", 0, 3600, false⟩

/-- The account of the first user, who has forgotten the password. -/
def forgetful : Account := ⟨⟨.ofNat 1, "a@example.org", none, "learner"⟩, ""⟩

/-- The token comes back in time. -/
def returned (salt : Except String (Vector UInt8 16)) (accounts : Table Uuid Account) :
    World Memory :=
  { now := 1
    entropy := ⟨fun _ _ => .error "", salt⟩
    store := { accounts, resets := (∅ : Table _ _).insert (digestToken "token") resetLetter } }

theorem redeemable_returned (salt : Except String (Vector UInt8 16))
    (accounts : Table Uuid Account) :
    (returned salt accounts).store.Redeemable 1 (digestToken "token") resetLetter where
  known := Table.get?_insert_self ..
  unused := rfl
  unexpired := by decide

/-- The user sets a new password with the token.  Nothing comes of a password that is too short, or
of another token; and without a salt, or without an account, the token is used up for nothing. -/
theorem reset_keeps_its_word_forgotten :
    let salt : Vector UInt8 16 := .replicate 16 0
    let accounts : Table Uuid Account := (∅ : Table _ _).insert (.ofNat 1) forgetful
    (∃ detail, (resetPassword "token" "short" "short").exec Memory.backend
        (returned (.ok salt) accounts) =
      (some (.error (.ofAuth (.validation detail))), returned (.ok salt) accounts)) ∧
    (resetPassword "other" "new password" "new password").exec Memory.backend
        (returned (.ok salt) accounts) =
      (some (.error (.ofAuth .invalidOrExpiredToken)), returned (.ok salt) accounts) ∧
    (∃ detail after, (resetPassword "token" "new password" "new password").exec Memory.backend
        (returned (.error "") accounts) = (some (.error (.ofAuth (.internal detail))), after) ∧
      after.store.Used (digestToken "token")) ∧
    (∃ after, (resetPassword "token" "new password" "new password").exec Memory.backend
        (returned (.ok salt) ∅) = (some (.error (.ofAuth (.persistence .rowNotFound))), after) ∧
      after.store.Used (digestToken "token")) ∧
    ∃ hash after, (resetPassword "token" "new password" "new password").exec Memory.backend
        (returned (.ok salt) accounts) = (some (.ok ()), after) ∧
      Password.verify "new password" hash = .ok true ∧
      after.store.accounts.get? (.ofNat 1) = some { forgetful with passwordHash := hash } := by
  intro salt accounts
  have hshort : "short".length < 8 ∨ "short" ≠ "short" := by decide +kernel
  have hlong : ¬ ("new password".length < 8 ∨ "new password" ≠ "new password") := by
    decide +kernel
  have used {m m' : Memory} (h : m.UsesOnly (digestToken "token") m')
      (hknown : m.resets.get? (digestToken "token") = some resetLetter) :
      m'.Used (digestToken "token") := by
    refine ⟨{ resetLetter with used := true }, ?_, rfl⟩
    rw [h.resets, if_pos rfl, hknown]
    rfl
  have good (salt : Except String (Vector UInt8 16)) (accounts : Table Uuid Account) :=
    redeemable_returned salt accounts
  have word (salt : Except String (Vector UInt8 16)) (accounts : Table Uuid Account)
      (token : String) :=
    (reset_keeps_its_word (returned salt accounts) token "new password" "new password").2 hlong
  obtain ⟨detail, after, hsaltless, huses⟩ :=
    ((word (.error "") accounts "token").2 resetLetter (good _ _)).1 "" rfl
  obtain ⟨after', hownerless, huses'⟩ :=
    ((word (.ok salt) ∅ "token").2 resetLetter (good _ _)).2.1 salt rfl rfl
  obtain ⟨hash, after'', hdone, hverify, hrenews⟩ :=
    ((word (.ok salt) accounts "token").2 resetLetter (good _ _)).2.2 salt rfl rfl
  refine ⟨(reset_keeps_its_word _ _ _ _).1 hshort, (word (.ok salt) accounts "other").1 ?_,
    ⟨detail, after, hsaltless, used huses (good _ _).known⟩,
    ⟨after', hownerless, used huses' (good _ _).known⟩, hash, after'', hdone, hverify, ?_⟩
  · intro r hr
    have hother : digestToken "other" ≠ digestToken "token" := by decide +kernel
    have hknown := hr.known
    rw [returned, Table.get?_insert, if_neg hother] at hknown
    cases hknown
  · rw [hrenews.accounts]
    rfl

end Portal

end Gatehouse
