/-
  What a step that fails leaves of the store.

  Every call looks before it writes, so a call that fails leaves the store as it was
  (`answer_error`).  There is one exception.  A rotation that finds a revoked token closes the
  sessions of the owner first and asks for the role of the owner afterwards.  If the owner is not
  registered it fails, and the sessions stay closed.

  The steps that go past the service fail only for a user or a token that is not known, and change
  nothing then.  So what a failing step may cost is known of all of them: the open sessions of
  somebody who is not registered, and nothing else (`failed_step_keeps_store`).
-/
import Gatehouse.Proofs.Store.Revocation

namespace Gatehouse.Memory

variable {m : Memory} {now : Instant}

/-- `m.Orphaned digest r` — the token with the digest is revoked, its record is `r`, and its owner
is not registered. -/
structure Orphaned (m : Memory) (digest : String) (r : RefreshRecord Nat) : Prop where
  known : m.refresh.get? digest = some r
  revoked : r.revoked = true
  unowned : m.accounts.get? r.user = none

/-- A good token is replaced, if the digest of the new one is not known. -/
theorem rotate_of_good {old new : String} {r : RefreshRecord Nat} {account : Account}
    (good : m.Good now old r account) (fresh : m.refresh.contains new = false)
    (expiresAt : Instant) (client : ClientInfo) :
    m.rotate now old new expiresAt client =
      (.ok ⟨r.user, account.user.role, false⟩, m.replaced now r old new expiresAt client) := by
  simp only [rotate, good.known, good.unrevoked, good.unexpired, Bool.false_eq_true, if_false,
    replace, roleOf, good.owner, insertRefresh_of_fresh fresh]
  rfl

theorem rotate_of_taken {old new : String} {r : RefreshRecord Nat} {account : Account}
    (good : m.Good now old r account) (taken : m.refresh.contains new = true)
    (expiresAt : Instant) (client : ClientInfo) :
    m.rotate now old new expiresAt client =
      (.error (.internal "duplicate refresh token digest"), m) := by
  simp only [rotate, good.known, good.unrevoked, good.unexpired, Bool.false_eq_true, if_false,
    replace, roleOf, good.owner, insertRefresh_of_contains taken]

theorem rotate_of_expired {old : String} {r : RefreshRecord Nat}
    (known : m.refresh.get? old = some r) (unrevoked : r.revoked = false)
    (late : expired r.expiresAt now = true) (new : String) (expiresAt : Instant)
    (client : ClientInfo) :
    m.rotate now old new expiresAt client = (.error .invalidRefreshToken, m) := by
  simp [rotate, known, unrevoked, late]

theorem rotate_of_unowned {old : String} {r : RefreshRecord Nat}
    (known : m.refresh.get? old = some r) (unrevoked : r.revoked = false)
    (unexpired : expired r.expiresAt now = false) (unowned : m.accounts.get? r.user = none)
    (new : String) (expiresAt : Instant) (client : ClientInfo) :
    m.rotate now old new expiresAt client = (.error .invalidRefreshToken, m) := by
  simp [rotate, known, unrevoked, unexpired, replace, roleOf, unowned]

theorem rotate_of_orphaned {old : String} {r : RefreshRecord Nat} (orphaned : m.Orphaned old r)
    (now : Instant) (new : String) (expiresAt : Instant) (client : ClientInfo) :
    m.rotate now old new expiresAt client = (.error .invalidRefreshToken, m.revokeAll r.user) := by
  rw [rotate_of_revoked orphaned.known orphaned.revoked]
  exact Prod.ext (by rw [contain_fst, reuseAnswer, orphaned.unowned]) (m.contain_snd r.user)

/-- A token is revoked once it is replaced. -/
theorem revoked_replaced {old new : String} {r : RefreshRecord Nat}
    (known : m.refresh.get? old = some r) (fresh : m.refresh.contains new = false)
    (expiresAt : Instant) (client : ClientInfo) :
    (m.replaced now r old new expiresAt client).Revoked old := by
  have hne := Table.ne_of_contains_eq_false known fresh
  exact ⟨r.replacedWith now new, by simp [replaced, hne, known], rfl⟩

/-- Closing the sessions of a user revokes each of them. -/
theorem revoked_revokeAll {user : Uuid} {digest : String} {r : RefreshRecord Nat}
    (known : m.refresh.get? digest = some r) (owner : r.user = user) :
    (m.revokeAll user).Revoked digest :=
  ⟨_, get?_revokeAll_of_eq known owner, rfl⟩

/-- A rotation that fails has changed nothing, or it has closed the sessions of an owner who is not
registered. -/
theorem rotate_error {old new : String} {expiresAt : Instant} {client : ClientInfo} {e : AuthError}
    (h : (m.rotate now old new expiresAt client).1 = .error e) :
    (m.rotate now old new expiresAt client).2 = m ∨
    ∃ r, m.Orphaned old r ∧ e = .invalidRefreshToken ∧
      (m.rotate now old new expiresAt client).2 = m.revokeAll r.user := by
  rcases m.rotate_cases now old new expiresAt client with
    ⟨e', hrot⟩ | ⟨r, known, revoked, hrot⟩ | ⟨r, account, -, -, hrot⟩
  · exact Or.inl (by rw [hrot])
  · rw [hrot, contain_fst, reuseAnswer] at h
    rw [hrot, contain_snd]
    cases hacc : m.accounts.get? r.user with
    | none =>
      have he : AuthError.invalidRefreshToken = e := by simpa [hacc] using h
      exact Or.inr ⟨r, ⟨known, revoked, hacc⟩, he.symm, rfl⟩
    | some account => simp [hacc] at h
  · simp [hrot] at h

/-- **A call that fails leaves the store as it was**, unless it presents a revoked token of a user
who is not registered. -/
theorem answer_error {call : Call} {e : AuthError} (h : (m.answer now call).1 = .error e) :
    (m.answer now call).2 = m ∨
    ∃ old new expiresAt client r, call = .rotate old new expiresAt client ∧ m.Orphaned old r ∧
      e = .invalidRefreshToken ∧ (m.answer now call).2 = m.revokeAll r.user := by
  cases call with
  | rotate old new expiresAt client =>
    rcases rotate_error h with hsame | ⟨r, orphaned, he, hclosed⟩
    · exact Or.inl hsame
    · exact Or.inr ⟨old, new, expiresAt, client, r, rfl, orphaned, he, hclosed⟩
  -- the others test one condition, and write only if they succeed
  | insertRefresh digest user expiresAt client =>
    by_cases hk : m.refresh.contains digest = true
    · exact Or.inl (by simp [answer, insertRefresh, hk])
    · simp [answer, insertRefresh, hk] at h
  | revoke digest replacedBy =>
    by_cases hk : m.refresh.contains digest = true
    · simp [answer, revoke, hk] at h
    · exact Or.inl (by simp [answer, revoke, hk])
  | insertReset digest user expiresAt =>
    by_cases hk : m.resets.contains digest = true
    · exact Or.inl (by simp [answer, insertReset, hk])
    · simp [answer, insertReset, hk] at h
  | consumeReset digest =>
    cases hr : m.resets.get? digest with
    | none => exact Or.inl (by simp [answer, consumeReset, hr])
    | some record =>
      by_cases hk : (record.used || expired record.expiresAt now) = true
      · exact Or.inl (by simp only [answer, consumeReset, hr, hk, if_true])
      · simp only [answer, consumeReset, hr, hk] at h
        cases h
  | setPassword user hash =>
    by_cases hk : m.accounts.contains user = true
    · simp [answer, setPassword, hk] at h
    · exact Or.inl (by simp [answer, setPassword, hk])
  -- and these never fail
  | revokeAll user => simp [answer] at h
  | findByEmail email => simp [answer] at h
  | findById user => simp [answer] at h

/-! ## Steps that fail -/

/-- `m.Fails s e` — the step ends with the error.  Registering a user never does. -/
def Fails (m : Memory) (s : Step) (e : AuthError) : Prop :=
  match s.operation with
  | .call call => (m.answer s.now call).1 = .error e
  | .register .. => False
  | .setRole user role => (m.setRole user role).1 = .error e
  | .setExpiry digest expiresAt => (m.setExpiry digest expiresAt).1 = .error e

/-- `m.Evicts s r` — the step presents a revoked token, whose record is `r`, and its owner is not
registered but has an open session. -/
structure Evicts (m : Memory) (s : Step) (r : RefreshRecord Nat) : Prop where
  presents : ∃ old new expiresAt client,
    s.operation = .call (.rotate old new expiresAt client) ∧ m.Orphaned old r
  seated : ¬ m.Closed r.user

/-- Closing the sessions of a user changes nothing exactly when none of them is open. -/
theorem revokeAll_eq_self_iff {user : Uuid} : m.revokeAll user = m ↔ m.Closed user := by
  constructor
  · intro h
    rw [← h]
    exact m.closed_revokeAll user
  · intro h
    have hrefresh : m.refresh.modifyAll (·.closedFor user) = m.refresh := by
      apply Table.modifyAll_eq_self
      intro k r hr
      unfold RefreshRecord.closedFor
      split
      · next huser => rw [← h k r hr huser]
      · rfl
    show { m with refresh := m.refresh.modifyAll (·.closedFor user) } = m
    rw [hrefresh]

/-- A step that fails leaves the store as it was, or it presents a revoked token of a user who is
not registered. -/
theorem perform_of_fails {s : Step} {e : AuthError} (h : m.Fails s e) :
    m.perform s = m ∨
    ∃ old new expiresAt client r, s.operation = .call (.rotate old new expiresAt client) ∧
      m.Orphaned old r ∧ e = .invalidRefreshToken ∧ m.perform s = m.revokeAll r.user := by
  obtain ⟨now, op⟩ := s
  cases op with
  | call call =>
    rcases answer_error h with hsame | ⟨old, new, expiresAt, client, r, rfl, orphaned, he, hclosed⟩
    · exact Or.inl hsame
    · exact Or.inr ⟨old, new, expiresAt, client, r, rfl, orphaned, he, hclosed⟩
  | register user hash => exact False.elim h
  | setRole user role =>
    left
    by_cases hk : m.accounts.contains user = true
    · simp [Fails, setRole, hk] at h
    · simp [perform, setRole, hk]
  | setExpiry digest expiresAt =>
    left
    by_cases hk : m.refresh.contains digest = true
    · simp [Fails, setExpiry, hk] at h
    · simp [perform, setExpiry, hk]

/-- A step that evicts somebody is refused, and by then the sessions are closed. -/
theorem perform_of_evicts {s : Step} {e : AuthError} {r : RefreshRecord Nat} (h : m.Fails s e)
    (hr : m.Evicts s r) : e = .invalidRefreshToken ∧ m.perform s = m.revokeAll r.user := by
  obtain ⟨now, op⟩ := s
  obtain ⟨old, new, expiresAt, client, rfl, orphaned⟩ := hr.presents
  have hrotate := rotate_of_orphaned orphaned now new expiresAt client
  have he : (m.rotate now old new expiresAt client).1 = .error e := h
  rw [hrotate] at he
  refine ⟨(Except.error.inj he).symm, ?_⟩
  show (m.rotate now old new expiresAt client).2 = _
  rw [hrotate]

/-- **A step that fails leaves the store as it was** unless it closes the sessions of somebody who
is not registered.  The accounts and the reset records stay in any case; and where the sessions are
closed, the token that was presented is refused as one that is not valid. -/
theorem failed_step_keeps_store {s : Step} {e : AuthError} (h : m.Fails s e) :
    (m.perform s).accounts = m.accounts ∧ (m.perform s).resets = m.resets ∧
    (m.perform s = m ↔ ¬ ∃ r, m.Evicts s r) ∧
    ∀ r, m.Evicts s r → e = .invalidRefreshToken ∧ m.perform s = m.revokeAll r.user := by
  have hcases := perform_of_fails h
  have hrest : (m.perform s).accounts = m.accounts ∧ (m.perform s).resets = m.resets := by
    rcases hcases with hsame | ⟨_, _, _, _, r, -, -, -, hclosed⟩
    · rw [hsame]
      exact ⟨rfl, rfl⟩
    · rw [hclosed]
      exact ⟨rfl, rfl⟩
  refine ⟨hrest.1, hrest.2, ⟨?_, ?_⟩, fun r hr => perform_of_evicts h hr⟩
  · rintro hsame ⟨r, hr⟩
    rw [(perform_of_evicts h hr).2] at hsame
    exact hr.seated (revokeAll_eq_self_iff.1 hsame)
  · intro hno
    rcases hcases with hsame | ⟨old, new, expiresAt, client, r, hop, orphaned, -, hclosed⟩
    · exact hsame
    · -- the owner has no open session, so there was nothing to close
      have hseated : m.Closed r.user := by
        by_contra hopen
        exact hno ⟨r, ⟨old, new, expiresAt, client, hop, orphaned⟩, hopen⟩
      rw [hclosed, revokeAll_eq_self_iff.2 hseated]

/-- Two sessions of a registered user: a token cannot be replaced by one that is known already, and
the attempt leaves both sessions open. -/
theorem failed_step_keeps_store_taken :
    let client : ClientInfo := ⟨none, none⟩
    let user : Uuid := .ofNat 1
    let m : Memory := run {}
      [⟨0, .register ⟨user, "a@example.org", none, "learner"⟩ ""⟩,
        ⟨0, .call (.insertRefresh "phone" user 90 client)⟩,
        ⟨1, .call (.insertRefresh "laptop" user 91 client)⟩]
    let s : Step := ⟨2, .call (.rotate "phone" "laptop" 92 client)⟩
    m.Fails s (.internal "duplicate refresh token digest") ∧ m.perform s = m := by
  intro client user m s
  have h : m.Fails s (.internal "duplicate refresh token digest") := by
    show (m.rotate 2 "phone" "laptop" 92 client).1 = _
    decide
  refine ⟨h, (failed_step_keeps_store h).2.2.1.2 ?_⟩
  rintro ⟨r, ⟨old, new, expiresAt, client', hop, orphaned⟩, -⟩
  obtain ⟨rfl, -⟩ : "phone" = old ∧ _ := by simpa [s] using hop
  -- the token that is presented is not revoked
  have hopen : ¬ m.Revoked "phone" := by decide
  exact hopen ⟨r, orphaned.known, orphaned.revoked⟩

/-- **A step that fails may close sessions.**  Somebody who is not registered has two sessions, and
one of them was ended.  Its token is refused as one that is not valid, and then the other session is
closed too. -/
theorem failed_rotation_closes_sessions :
    let client : ClientInfo := ⟨none, none⟩
    let user : Uuid := .ofNat 1
    let m : Memory := run {}
      [⟨0, .call (.insertRefresh "phone" user 90 client)⟩,
        ⟨0, .call (.insertRefresh "laptop" user 90 client)⟩, ⟨1, .call (.revoke "phone" none)⟩]
    let s : Step := ⟨2, .call (.rotate "phone" "tablet" 92 client)⟩
    m.Fails s .invalidRefreshToken ∧ ¬ m.Revoked "laptop" ∧ (m.perform s).Revoked "laptop" ∧
      m.perform s ≠ m := by
  intro client user m s
  have hfails : m.Fails s .invalidRefreshToken := by
    show (m.rotate 2 "phone" "tablet" 92 client).1 = _
    decide
  have hopen : ¬ m.Revoked "laptop" := by decide
  have hclosed : (m.perform s).Revoked "laptop" := by decide
  exact ⟨hfails, hopen, hclosed, fun hsame => hopen (hsame ▸ hclosed)⟩

end Gatehouse.Memory
