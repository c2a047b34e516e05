/-
  What a refresh that fails leaves of the store.

  A refresh draws a secret, asks the store to replace the presented token, and signs an access token
  for its owner.  Without a secret nothing is asked, and a store that refuses has changed nothing
  (`Store/Failure`).  But two failures come after a change that stays.

  * The owner has a blank role.  No access token can be signed for it, and by then the presented
    token is already replaced by one that nobody gets.
  * The presented token is revoked and its owner is not registered.  The store has closed the
    sessions of the owner before it notices.

  `refreshTokens_error_cases` lists the three outcomes, and `failed_refresh_keeps_store` says that
  nothing is lost when the presented token has an owner who is registered with a role.
-/
import Gatehouse.Proofs.Service.Refresh
import Gatehouse.Proofs.Store.Failure

namespace Gatehouse

/-! ## Identities that cannot be signed for -/

/-- An identifier in groups is not blank, for there are hyphens between the groups. -/
theorem Uuid.blank_toText (id : Uuid) : Text.blank id.toText = false := by
  have hhyphen : '-' ∈ id.toText.toList := by
    simp [toText, toChars, joinGroups, groupLengths]
  refine Bool.eq_false_iff.2 fun hall => ?_
  have hblank := List.all_eq_true.1 hall '-' hhyphen
  exact absurd hblank (by decide)

theorem Codec.checkIdentity_toText (id : Uuid) (role : String) :
    checkIdentity id.toText role =
      if Text.blank role then .error (.validation "invalid role: empty") else .ok () := by
  simp [checkIdentity, id.blank_toText]

namespace Service

section Programs

variable {σ : Type} {backend : Backend σ} {w w' : World σ} {e : AuthError}

/-- Signing an access token fails only because of whom it is to be for, and does nothing. -/
theorem exec_signToken_error {c : Codec} {userId role : String}
    (h : (signToken c userId role).exec backend w = (some (.error e), w')) :
    Codec.checkIdentity userId role = .error e ∧ w' = w := by
  rw [exec_signToken_eq] at h
  obtain ⟨houtcome, hw⟩ := Prod.mk.inj h
  cases hcheck : Codec.checkIdentity userId role with
  | error e' => exact ⟨by simpa [hcheck] using houtcome, hw.symm⟩
  | ok u =>
    cases hclaims : c.claimsAt? w.now userId role <;> simp [hcheck, hclaims] at houtcome

/-- An exchange that fails, but not for a reuse, leaves the store after the rotation.  Either the
rotation failed, or it replaced the token and then no access token could be signed. -/
theorem exec_exchange_error {s : Service} {token : String} {client : ClientInfo} {next : Secret}
    {expiresAt : Instant} (he : e ≠ .refreshTokenReuse)
    (h : (s.exchange token client next expiresAt).exec backend w = (some (.error e), w')) :
    let answer := backend (.rotate (digestToken token) next.digest expiresAt client) w.now w.store
    w'.store = answer.2.1 ∧
      (answer.1 = .error e ∨
        ∃ rotation, answer.1 = .ok rotation ∧ rotation.reused = false ∧
          Codec.checkIdentity rotation.user.toText rotation.role = .error e) := by
  unfold exchange at h
  have hask := Program.exec_ask backend w
    (.rotate (digestToken token) next.digest expiresAt client)
  rcases Program.exec_bind_eq_error.1 h with hrotate | ⟨rotation, w₁, hrotate, h⟩
  · obtain ⟨hanswer, rfl⟩ := Prod.mk.inj (hask.symm.trans hrotate)
    exact ⟨rfl, Or.inl (Option.some.inj hanswer)⟩
  · obtain ⟨hanswer, rfl⟩ := Prod.mk.inj (hask.symm.trans hrotate)
    cases hr : rotation.reused with
    | true =>
      obtain ⟨rfl, -⟩ : AuthError.refreshTokenReuse = e ∧ _ := by
        simpa [hr, Program.exec_bind] using h
      exact absurd rfl he
    | false =>
      simp only [hr, Bool.false_eq_true, if_false] at h
      rcases Program.exec_bind_eq_error.1 h with hsign | ⟨access, w₂, -, hpure⟩
      · obtain ⟨hcheck, rfl⟩ := exec_signToken_error hsign
        exact ⟨rfl, Or.inr ⟨rotation, Option.some.inj hanswer, hr, hcheck⟩⟩
      · simp at hpure

/-- When the token is replaced and its owner cannot be signed for, the exchange fails after the
store has changed. -/
theorem exec_exchange_of_unsigned {s : Service} {token : String} {client : ClientInfo}
    {next : Secret} {expiresAt : Instant} {rotation : Rotation} {store : σ} {events : List Event}
    (hanswer : backend (.rotate (digestToken token) next.digest expiresAt client) w.now w.store =
      (.ok rotation, store, events))
    (hfresh : rotation.reused = false)
    (hcheck : Codec.checkIdentity rotation.user.toText rotation.role = .error e) :
    (s.exchange token client next expiresAt).exec backend w =
      (some (.error e), { w with store, log := w.log ++ events }) := by
  have hask := Program.exec_ask backend w
    (.rotate (digestToken token) next.digest expiresAt client)
  rw [hanswer] at hask
  unfold exchange
  refine Program.exec_bind_eq_error.2 (Or.inr ⟨rotation, _, hask, ?_⟩)
  simp only [hfresh, Bool.false_eq_true, if_false]
  refine Program.exec_bind_eq_error.2 (Or.inl ?_)
  rw [createAccessToken, exec_signToken_eq, hcheck]

/-- With random bytes and a date in the calendar, a program that wants a secret goes on. -/
theorem exec_withSecret_of {α : Type} {n : Nat} (hn : n ≠ 0) {lifetime : Duration}
    {k : Secret → Instant → Program α} {secret : Secret} {expiresAt : Instant}
    (hs : w.secret? n = some secret) (hp : w.now.plus? lifetime = some expiresAt) :
    (withSecret n lifetime k).exec backend w =
      (k secret expiresAt).exec backend { w with drawn := w.drawn + 1 } := by
  unfold withSecret
  rcases exec_generate backend hn w with ⟨secret', hs', h⟩ | ⟨hs', -⟩
  · obtain rfl : secret = secret' := Option.some.inj (hs.symm.trans hs')
    simp [Program.exec_bind, h, hp]
  · simp [hs] at hs'

end Programs

/-! ## Refreshes that fail -/

variable {s : Service} {w w' : World Memory} {token : String} {client : ClientInfo} {e : AuthError}

/-- **A good token of an owner with a blank role is lost when it is presented**: the refresh fails,
and the store has replaced the token. -/
theorem exec_refreshTokens_of_blank {r : RefreshRecord Nat} {account : Account} {next : Secret}
    {expiresAt : Instant} (good : w.store.Good w.now (digestToken token) r account)
    (hblank : Text.blank account.user.role = true)
    (hs : w.secret? Secret.refreshLength = some next)
    (hp : w.now.plus? s.refreshLifetime = some expiresAt)
    (fresh : w.store.refresh.contains next.digest = false) (client : ClientInfo) :
    ∃ w', (s.refreshTokens token client).exec Memory.backend w =
        (some (.error (.validation "invalid role: empty")), w') ∧
      w'.store = w.store.replaced w.now r (digestToken token) next.digest expiresAt client := by
  have hrotate := Memory.rotate_of_good good fresh expiresAt client
  have hanswer : Memory.backend (.rotate (digestToken token) next.digest expiresAt client) w.now
      w.store = (.ok ⟨r.user, account.user.role, false⟩,
        w.store.replaced w.now r (digestToken token) next.digest expiresAt client, []) := by
    simp only [Memory.backend, Memory.answer, Memory.events, hrotate]
    rfl
  have hcheck : Codec.checkIdentity r.user.toText account.user.role =
      .error (.validation "invalid role: empty") := by
    rw [Codec.checkIdentity_toText, if_pos hblank]
  have hexec : (s.exchange token client next expiresAt).exec Memory.backend
      { w with drawn := w.drawn + 1 } = _ :=
    exec_exchange_of_unsigned hanswer rfl hcheck
  rw [refreshTokens_eq]
  exact ⟨_, (exec_withSecret_of refreshLength_ne_zero hs hp).trans hexec, rfl⟩

/-- A refresh that the store refuses fails, and it leaves what the store leaves. -/
theorem exec_refreshTokens_of_refused {next : Secret} {expiresAt : Instant} {m : Memory}
    (hs : w.secret? Secret.refreshLength = some next)
    (hp : w.now.plus? s.refreshLifetime = some expiresAt)
    (hrotate : w.store.rotate w.now (digestToken token) next.digest expiresAt client =
      (.error e, m)) :
    ∃ w', (s.refreshTokens token client).exec Memory.backend w = (some (.error e), w') ∧
      w'.store = m := by
  have hask := Program.exec_ask Memory.backend { w with drawn := w.drawn + 1 }
    (.rotate (digestToken token) next.digest expiresAt client)
  simp only [Memory.backend, Memory.answer, hrotate] at hask
  have hexec : (s.exchange token client next expiresAt).exec Memory.backend
      { w with drawn := w.drawn + 1 } = _ :=
    Program.exec_bind_eq_error.2 (Or.inl hask)
  rw [refreshTokens_eq]
  exact ⟨_, (exec_withSecret_of refreshLength_ne_zero hs hp).trans hexec, rfl⟩

/-- **A revoked token of an owner who is not registered is refused as one that is not valid**, and
the store has closed the sessions of the owner. -/
theorem exec_refreshTokens_of_orphaned {r : RefreshRecord Nat} {next : Secret}
    {expiresAt : Instant} (orphaned : w.store.Orphaned (digestToken token) r)
    (hs : w.secret? Secret.refreshLength = some next)
    (hp : w.now.plus? s.refreshLifetime = some expiresAt) (client : ClientInfo) :
    ∃ w', (s.refreshTokens token client).exec Memory.backend w =
        (some (.error .invalidRefreshToken), w') ∧ w'.store = w.store.revokeAll r.user :=
  exec_refreshTokens_of_refused hs hp (Memory.rotate_of_orphaned orphaned _ _ _ client)

/-! ## Three sessions that are refreshed in vain -/

/-- The first user opens a session that lasts a second, whoever that user is. -/
def openSession (digest : String) : Memory.Step :=
  ⟨0, .call (.insertRefresh digest (.ofNat 1) 1000 ⟨none, none⟩)⟩

/-- The record of the session, if it is the first one. -/
def firstSession (digest : String) : RefreshRecord Nat :=
  Memory.issue {} 0 digest (.ofNat 1) 1000 ⟨none, none⟩

/-- A user is registered and opens a session. -/
def arrival (digest : String) : List Memory.Step :=
  [⟨0, .register ⟨.ofNat 1, "a@example.org", none, "learner"⟩ ""⟩, openSession digest]

/-- After that the user gets a blank role. -/
def demotion (digest : String) : List Memory.Step :=
  arrival digest ++ [⟨0, .setRole (.ofNat 1) " "⟩]

/-- Somebody who is not registered opens two sessions, and the first of them is closed. -/
def stranger (digest other : String) : List Memory.Step :=
  [openSession digest, openSession other, ⟨0, .call (.revoke digest none)⟩]

/-- The world after steps of a store that was empty. -/
def worldAfter (steps : List Memory.Step) (now : Instant) : World Memory :=
  { now, entropy := countingEntropy, store := Memory.run {} steps }

/-- The secret that is drawn next in such a world. -/
def firstSecret : Secret := .ofBytes (.replicate 64 1)

theorem secret?_worldAfter (steps : List Memory.Step) (now : Instant) :
    (worldAfter steps now).secret? Secret.refreshLength = some firstSecret := rfl

section Stores

variable {digest other : String} (now : Instant)

theorem good_arrival (digest : String) :
    (worldAfter (arrival digest) now).store.Good 0 digest (firstSession digest)
      ⟨⟨.ofNat 1, "a@example.org", none, "learner"⟩, ""⟩ := by
  constructor <;>
    simp [worldAfter, arrival, openSession, firstSession, Memory.perform, Memory.answer,
      Memory.insertRefresh, Memory.insertUser, Memory.issue, expired]

theorem good_demotion (digest : String) :
    (worldAfter (demotion digest) now).store.Good 0 digest (firstSession digest)
      ⟨⟨.ofNat 1, "a@example.org", none, " "⟩, ""⟩ := by
  constructor <;>
    simp [worldAfter, demotion, arrival, openSession, firstSession, Memory.perform, Memory.answer,
      Memory.insertRefresh, Memory.insertUser, Memory.setRole, Memory.issue, Table.contains,
      expired]

theorem fresh_demotion (hne : other ≠ digest) :
    (worldAfter (demotion digest) now).store.refresh.contains other = false := by
  simp [worldAfter, demotion, arrival, openSession, Memory.perform, Memory.answer,
    Memory.insertRefresh, Memory.insertUser, Memory.setRole, hne]

theorem orphaned_stranger (hne : other ≠ digest) :
    (worldAfter (stranger digest other) now).store.Orphaned digest
      ((firstSession digest).revokedWith none) := by
  constructor <;>
    simp [worldAfter, stranger, openSession, firstSession, Memory.perform, Memory.answer,
      Memory.insertRefresh, Memory.revoke, Memory.issue, hne, hne.symm, RefreshRecord.revokedWith]

theorem other_stranger (hne : other ≠ digest) :
    (worldAfter (stranger digest other) now).store.refresh.get? other =
      some { firstSession other with id := 1 } := by
  simp [worldAfter, stranger, openSession, firstSession, Memory.perform, Memory.answer,
    Memory.insertRefresh, Memory.revoke, Memory.issue, hne, hne.symm]

end Stores

/-! ## What a failure leaves -/

/-- `s.Forfeits w token client e w'` — the owner of the presented token, which is a good one, has a
blank role: the token is replaced by that of a new secret, and then no access token can be
signed. -/
def Forfeits (s : Service) (w : World Memory) (token : String) (client : ClientInfo)
    (e : AuthError) (w' : World Memory) : Prop :=
  ∃ r account next expiresAt,
    w.store.Good w.now (digestToken token) r account ∧ Text.blank account.user.role = true ∧
      w.secret? Secret.refreshLength = some next ∧
      w.now.plus? s.refreshLifetime = some expiresAt ∧
      e = .validation "invalid role: empty" ∧
      w'.store = w.store.replaced w.now r (digestToken token) next.digest expiresAt client

/-- **A refresh that fails, but not for a reuse, has one of three outcomes**: the store is as it
was, the token of an owner with a blank role is replaced, or the sessions of an owner who is not
registered are closed. -/
theorem refreshTokens_error_cases (he : e ≠ .refreshTokenReuse)
    (h : (s.refreshTokens token client).exec Memory.backend w = (some (.error e), w')) :
    w'.store = w.store ∨ s.Forfeits w token client e w' ∨
      ∃ r, w.store.Orphaned (digestToken token) r ∧ e = .invalidRefreshToken ∧
        w'.store = w.store.revokeAll r.user := by
  rw [refreshTokens_eq] at h
  rcases exec_withSecret Memory.backend refreshLength_ne_zero s.refreshLifetime
      (s.exchange token client) w with ⟨next, expiresAt, hs, hp, hexec, -⟩ | ⟨-, hcalls⟩
  · obtain ⟨hstore, hanswer | ⟨rotation, hanswer, hfresh, hcheck⟩⟩ :=
      exec_exchange_error he (hexec.symm.trans h)
    · -- the store refuses
      rw [hstore]
      rcases Memory.rotate_error hanswer with hsame | hclosed
      · exact Or.inl hsame
      · exact Or.inr (Or.inr hclosed)
    · -- the store has replaced the token, and its owner turns out to have no role
      obtain ⟨r, account, good, -, rfl, hreplaced⟩ := Memory.good_of_rotate hanswer hfresh
      rw [Codec.checkIdentity_toText] at hcheck
      cases hblank : Text.blank account.user.role with
      | false => simp [hblank] at hcheck
      | true =>
        have he' : AuthError.validation "invalid role: empty" = e := by
          simpa [hblank] using hcheck
        exact Or.inr (Or.inl ⟨r, account, next, expiresAt, good, hblank, hs, hp, he'.symm,
          hstore.trans hreplaced⟩)
  · -- nothing was asked of the store
    have hstore := Program.store_exec (withSecret Secret.refreshLength s.refreshLifetime
      (s.exchange token client)) w
    rw [h, hcalls] at hstore
    exact Or.inl hstore

/-- **A refresh that fails, but not for a reuse, keeps the store as it was** if the presented token,
should it be known, has an owner who is registered with a role that is not blank.  If the store is
not as it was, the token was good and is replaced for an owner with a blank role, or it was revoked
and the sessions of an owner who is not registered are closed. -/
theorem failed_refresh_keeps_store (he : e ≠ .refreshTokenReuse)
    (h : (s.refreshTokens token client).exec Memory.backend w = (some (.error e), w')) :
    ((∀ r, w.store.refresh.get? (digestToken token) = some r →
        ∃ account, w.store.accounts.get? r.user = some account ∧
          Text.blank account.user.role = false) →
      w'.store = w.store) ∧
    (w'.store ≠ w.store →
      s.Forfeits w token client e w' ∨
        ∃ r, w.store.Orphaned (digestToken token) r ∧ e = .invalidRefreshToken ∧
          w'.store = w.store.revokeAll r.user) := by
  have hcases := refreshTokens_error_cases he h
  refine ⟨fun howner => ?_, fun hne => hcases.resolve_left hne⟩
  rcases hcases with hsame | ⟨r, account, _, _, good, hblank, -⟩ | ⟨r, orphaned, -⟩
  · exact hsame
  · obtain ⟨account', haccount, hrole⟩ := howner r good.known
    obtain rfl : account = account' := Option.some.inj (good.owner.symm.trans haccount)
    simp [hblank] at hrole
  · obtain ⟨account, haccount, -⟩ := howner r orphaned.known
    simp [orphaned.unowned] at haccount

/-- Once the session is over the token is refused, and all stays as it was. -/
theorem failed_refresh_keeps_store_expired :
    let w := worldAfter (arrival (digestToken "phone")) 1000
    ∃ w', (plainService.refreshTokens "phone" ⟨none, none⟩).exec Memory.backend w =
        (some (.error .invalidRefreshToken), w') ∧ w'.store = w.store := by
  intro w
  have good := good_arrival 1000 (digestToken "phone")
  have hp : w.now.plus? plainService.refreshLifetime = some 2592001000 := by decide +kernel
  obtain ⟨w', hexec, -⟩ := exec_refreshTokens_of_refused (secret?_worldAfter _ _) hp
    (Memory.rotate_of_expired good.known good.unrevoked (by decide) _ _ ⟨none, none⟩)
  refine ⟨w', hexec, (failed_refresh_keeps_store (by simp) hexec).1 fun r hr => ?_⟩
  obtain rfl := Option.some.inj (good.known.symm.trans hr)
  exact ⟨_, good.owner, by decide⟩

/-- **A refresh that fails may cost a session.**  After the demotion the token of the session is
refused for the role of its owner, and it is revoked.  That of the stranger is refused as not valid,
and the other session of the stranger is closed. -/
theorem failed_refresh_loses_session :
    (let w := worldAfter (demotion (digestToken "phone")) 0
      ∃ w', (plainService.refreshTokens "phone" ⟨none, none⟩).exec Memory.backend w =
          (some (.error (.validation "invalid role: empty")), w') ∧
        ¬ w.store.Revoked (digestToken "phone") ∧ w'.store.Revoked (digestToken "phone")) ∧
    let w := worldAfter (stranger (digestToken "phone") (digestToken "laptop")) 0
    ∃ w', (plainService.refreshTokens "phone" ⟨none, none⟩).exec Memory.backend w =
        (some (.error .invalidRefreshToken), w') ∧
      ¬ w.store.Revoked (digestToken "laptop") ∧ w'.store.Revoked (digestToken "laptop") := by
  have hp (steps : List Memory.Step) :
      (worldAfter steps 0).now.plus? plainService.refreshLifetime = some 2592000000 := by
    show Instant.plus? 0 2592000000 = _
    decide
  constructor
  · intro w
    have hne : firstSecret.digest ≠ digestToken "phone" := by decide +kernel
    have good := good_demotion 0 (digestToken "phone")
    have fresh := fresh_demotion 0 hne
    obtain ⟨w', hexec, hstore⟩ := exec_refreshTokens_of_blank good (by decide)
      (secret?_worldAfter _ _) (hp _) fresh ⟨none, none⟩
    refine ⟨w', hexec, ?_, ?_⟩
    · rintro ⟨r, hr, hrev⟩
      obtain rfl := Option.some.inj (good.known.symm.trans hr)
      exact Bool.false_ne_true hrev
    · rw [hstore]
      exact Memory.revoked_replaced good.known fresh _ _
  · intro w
    have hne : digestToken "laptop" ≠ digestToken "phone" := by decide +kernel
    have hother := other_stranger 0 hne
    obtain ⟨w', hexec, hstore⟩ := exec_refreshTokens_of_orphaned (orphaned_stranger 0 hne)
      (secret?_worldAfter _ _) (hp _) ⟨none, none⟩
    refine ⟨w', hexec, ?_, ?_⟩
    · rintro ⟨r, hr, hrev⟩
      obtain rfl := Option.some.inj (hother.symm.trans hr)
      exact Bool.false_ne_true hrev
    · -- the digests need not be computed to see that both sessions have one owner
      have howner : ((firstSession (digestToken "phone")).revokedWith none).user = .ofNat 1 := rfl
      rw [hstore, howner]
      exact Memory.revoked_revokeAll hother rfl

end Service
end Gatehouse
