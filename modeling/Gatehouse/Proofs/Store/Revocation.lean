/-
  Revocation is final.

  A revoked record stays revoked whatever is done to the store, because no effect of a step takes a
  revocation back and no record is ever lost (`Store/Run`).  Two guarantees follow.

  1. **A token is replaced at most once** (`replaced_at_most_once`).  A rotation that gives a new
     token finds an open record and leaves a revoked one, so of all rotations of one digest in a run
     at most one can be of that kind.

  2. **Closing the sessions of a user is complete and final** (`closing_is_final`).  Once every
     record of a user is revoked, only issuing a token anew can change that: a rotation gives a new
     record to the owner of an open one, and the user has none.  None of the records is lost either,
     so the user has the same tokens from then on, and none of them is of use any more.
-/
import Gatehouse.Proofs.Store.Run

namespace Gatehouse.Memory

/-! ## A revoked record stays revoked -/

/-- The token with the digest is known and revoked. -/
def Revoked (m : Memory) (digest : String) : Prop :=
  ∃ r, m.refresh.get? digest = some r ∧ r.revoked = true

theorem revoked_iff {m : Memory} {digest : String} :
    m.Revoked digest ↔ (m.refresh.get? digest).any (·.revoked) = true := by
  simp [Revoked, Option.any_eq_true]

instance (m : Memory) (digest : String) : Decidable (m.Revoked digest) :=
  decidable_of_iff _ revoked_iff.symm

theorem revoked_perform {m : Memory} {digest : String} (h : m.Revoked digest) (s : Step) :
    (m.perform s).Revoked digest := by
  obtain ⟨r, hr, hrev⟩ := h
  obtain ⟨r', hr', e⟩ := evolves_perform hr s
  exact ⟨r', hr', e.revoked hrev⟩

theorem revoked_run {m : Memory} {digest : String} (h : m.Revoked digest) (steps : List Step) :
    (m.run steps).Revoked digest := by
  induction steps generalizing m with
  | nil => exact h
  | cons s steps ih => exact ih (revoked_perform h s)

/-- Presenting a revoked token closes the sessions of its owner. -/
theorem rotate_of_revoked {m : Memory} {old : String} {r : RefreshRecord Nat}
    (hr : m.refresh.get? old = some r) (hrev : r.revoked = true) (now : Instant) (new : String)
    (expiresAt : Instant) (client : ClientInfo) :
    m.rotate now old new expiresAt client = m.contain r.user := by
  simp only [rotate, hr, hrev, if_true]

/-- What somebody is told who presents a used token of the user: of the reuse, or, if the user is
not registered, that the token is not valid. -/
def reuseAnswer (m : Memory) (user : Uuid) : Except AuthError Rotation :=
  match m.accounts.get? user with
  | some account => .ok ⟨user, account.user.role, true⟩
  | none => .error .invalidRefreshToken

/-- What a used token is answered with: the reuse, if there is an owner to name. -/
theorem contain_fst (m : Memory) (user : Uuid) : (m.contain user).1 = m.reuseAnswer user := by
  simp only [contain, roleOf, revokeAll, reuseAnswer]
  cases m.accounts.get? user <;> rfl

theorem contain_snd (m : Memory) (user : Uuid) : (m.contain user).2 = m.revokeAll user := rfl

/-- Closing the sessions of a user is answered as the reuse of a token of that user. -/
theorem reused_of_contain {m : Memory} {user : Uuid} {rotation : Rotation}
    (h : (m.contain user).1 = .ok rotation) : rotation.user = user ∧ rotation.reused = true := by
  rw [contain_fst, reuseAnswer] at h
  cases hacc : m.accounts.get? user with
  | none => simp [hacc] at h
  | some account =>
    obtain rfl : (⟨user, account.user.role, true⟩ : Rotation) = rotation := by simpa [hacc] using h
    exact ⟨rfl, rfl⟩

/-- A rotation that gives a new token has replaced a good one. -/
theorem good_of_rotate {m : Memory} {now : Instant} {old new : String} {expiresAt : Instant}
    {client : ClientInfo} {rotation : Rotation}
    (h : (m.rotate now old new expiresAt client).1 = .ok rotation)
    (hfresh : rotation.reused = false) :
    ∃ r account, m.Good now old r account ∧ m.refresh.contains new = false ∧
      rotation = ⟨r.user, account.user.role, false⟩ ∧
      (m.rotate now old new expiresAt client).2 = m.replaced now r old new expiresAt client := by
  rcases m.rotate_cases now old new expiresAt client with
    ⟨e, hrot⟩ | ⟨r, -, -, hrot⟩ | ⟨r, account, good, fresh, hrot⟩
  · simp [hrot] at h
  · -- a revoked token is never replaced: its answer reports the reuse
    rw [hrot] at h
    simp [(reused_of_contain h).2] at hfresh
  · rw [hrot] at h ⊢
    exact ⟨r, account, good, fresh, (Except.ok.inj h).symm, rfl⟩

/-- A rotation that reports a reuse has closed the sessions of the user it names. -/
theorem contain_of_rotate {m : Memory} {now : Instant} {old new : String} {expiresAt : Instant}
    {client : ClientInfo} {rotation : Rotation}
    (h : (m.rotate now old new expiresAt client).1 = .ok rotation)
    (hreused : rotation.reused = true) :
    m.rotate now old new expiresAt client = m.contain rotation.user := by
  rcases m.rotate_cases now old new expiresAt client with
    ⟨e, hrot⟩ | ⟨r, -, -, hrot⟩ | ⟨r, account, good, fresh, hrot⟩
  · simp [hrot] at h
  · rw [hrot] at h ⊢
    rw [(reused_of_contain h).1]
  · rw [hrot] at h
    simp [← Except.ok.inj h] at hreused

/-! ## A token is replaced at most once -/

/-- Tells whether an entry of a history is a rotation that gives a new token for the one with the
digest. -/
def replaces (digest : String) (e : Memory × Step) : Bool :=
  match e.2.operation with
  | .call (.rotate old new expiresAt client) =>
    decide (old = digest) &&
      match (e.1.rotate e.2.now old new expiresAt client).1 with
      | .ok rotation => !rotation.reused
      | .error _ => false
  | _ => false

/-- **The token that is replaced** was open before and is revoked afterwards. -/
theorem revoked_of_replaces {m : Memory} {s : Step} {digest : String}
    (h : replaces digest (m, s) = true) : ¬ m.Revoked digest ∧ (m.perform s).Revoked digest := by
  obtain ⟨now, op⟩ := s
  unfold replaces at h
  split at h
  · rename_i old new expiresAt client hop
    obtain rfl : op = .call (.rotate old new expiresAt client) := hop
    obtain ⟨rfl, hans⟩ : old = digest ∧ _ := by simpa using h
    cases hrot : (m.rotate now old new expiresAt client).1 with
    | error e => simp [hrot] at hans
    | ok rotation =>
      have hfresh : rotation.reused = false := by simpa [hrot] using hans
      obtain ⟨r, account, good, fresh, -, hstore⟩ := good_of_rotate hrot hfresh
      refine ⟨?_, r.replacedWith now new, ?_, rfl⟩
      · rintro ⟨r', hr', hrev⟩
        rw [good.known, Option.some.injEq] at hr'
        rw [← hr', good.unrevoked] at hrev
        exact Bool.noConfusion hrev
      · have hne : old ≠ new := Table.ne_of_contains_eq_false good.known fresh
        simp [perform, answer, hstore, replaced, hne, good.known]
  · exact Bool.noConfusion h

theorem countP_replaces_le_one (m : Memory) (digest : String) (steps : List Step) :
    (m.history steps).countP (replaces digest) ≤ 1 :=
  countP_history_le_one (fun s h => revoked_perform h s) (fun h => (revoked_of_replaces h).2)
    (fun h => (revoked_of_replaces h).1) m steps

theorem contains_of_revoked {m : Memory} {old : String} (h : m.Revoked old) (now : Instant)
    (new : String) (expiresAt : Instant) (client : ClientInfo) (k : String) :
    (m.perform ⟨now, .call (.rotate old new expiresAt client)⟩).refresh.contains k =
      m.refresh.contains k := by
  obtain ⟨r, hr, hrev⟩ := h
  simp [perform, answer, rotate_of_revoked hr hrev, contain_snd, revokeAll]

/-- **A token is replaced at most once.**  In a run from the empty store at most one rotation of a
digest gives a new token; and once the token with the digest is revoked, by whichever step, it is
revoked in every later state, and no later rotation of it brings a new digest into the store. -/
theorem replaced_at_most_once (before after : List Step) (digest : String) :
    (history {} (before ++ after)).countP (replaces digest) ≤ 1 ∧
    ((run {} before).Revoked digest →
      (run {} (before ++ after)).Revoked digest ∧
      ∀ e ∈ (run {} before).history after, ∀ new expiresAt client,
        e.2.operation = .call (.rotate digest new expiresAt client) →
        replaces digest e = false ∧
        ∀ k, (e.1.perform e.2).refresh.contains k = e.1.refresh.contains k) := by
  refine ⟨countP_replaces_le_one {} digest (before ++ after), fun h => ⟨?_, ?_⟩⟩
  · rw [run_append]
    exact revoked_run h after
  · rintro ⟨m, now, op⟩ he new expiresAt client rfl
    obtain ⟨first, rest, -, rfl⟩ := exists_of_mem_history he
    have hrev := revoked_run h first
    refine ⟨Bool.eq_false_iff.2 fun hrep => (revoked_of_replaces hrep).1 hrev, ?_⟩
    exact contains_of_revoked hrev now new expiresAt client

/-- A token that was replaced and is presented again, with the expiry moved in between. -/
theorem replaced_at_most_once_reuse :
    let client : ClientInfo := ⟨none, none⟩
    let user : Uuid := .ofNat 1
    let before : List Step :=
      [⟨0, .register ⟨user, "a@example.org", none, "learner"⟩ ""⟩,
        ⟨0, .call (.insertRefresh "first" user 10 client)⟩,
        ⟨1, .call (.rotate "first" "second" 11 client)⟩]
    let after : List Step :=
      [⟨2, .setExpiry "first" 20⟩, ⟨3, .call (.rotate "first" "third" 30 client)⟩]
    (run {} before).Revoked "first" ∧ (run {} (before ++ after)).Revoked "first" ∧
      (history {} (before ++ after)).countP (replaces "first") ≤ 1 := by
  intro client user before after
  have h : (run {} before).Revoked "first" := by decide
  have hall := replaced_at_most_once before after "first"
  exact ⟨h, (hall.2 h).1, hall.1⟩

/-! ## Closing the sessions of a user is final -/

/-- Every session of a user is closed: no record of the user is open. -/
def Closed (m : Memory) (user : Uuid) : Prop :=
  ∀ k r, m.refresh.get? k = some r → r.user = user → r.revoked = true

/-- The token with the digest is known, and it is the user's. -/
def Owns (m : Memory) (user : Uuid) (digest : String) : Prop :=
  ∃ r, m.refresh.get? digest = some r ∧ r.user = user

/-- The step closes the sessions of a user: it asks for that, or it is a rotation that reports the
reuse of a token of the user. -/
def Closes (m : Memory) (s : Step) (user : Uuid) : Prop :=
  s.operation = .call (.revokeAll user) ∨
  ∃ old new expiresAt client role, s.operation = .call (.rotate old new expiresAt client) ∧
    (m.rotate s.now old new expiresAt client).1 = .ok ⟨user, role, true⟩

/-- The step issues a refresh token to a user, not in exchange for another. -/
def Step.IssuesTo (s : Step) (user : Uuid) : Prop :=
  ∃ digest expiresAt client, s.operation = .call (.insertRefresh digest user expiresAt client)

theorem perform_of_closes {m : Memory} {s : Step} {user : Uuid} (h : m.Closes s user) :
    m.perform s = m.revokeAll user := by
  obtain ⟨now, op⟩ := s
  rcases h with rfl | ⟨old, new, expiresAt, client, role, rfl, h⟩
  · rfl
  · show (m.rotate now old new expiresAt client).2 = m.revokeAll user
    rw [contain_of_rotate h rfl, contain_snd]

/-- What is found after the sessions of a user were closed: each record as before, but for the
revocation of those of the user. -/
theorem get?_revokeAll (m : Memory) (user : Uuid) (k : String) :
    (m.revokeAll user).refresh.get? k = (m.refresh.get? k).map (·.closedFor user) :=
  Table.get?_modifyAll ..

theorem closed_revokeAll (m : Memory) (user : Uuid) : (m.revokeAll user).Closed user := by
  intro k r hr huser
  rw [get?_revokeAll, Option.map_eq_some_iff] at hr
  obtain ⟨r₀, -, rfl⟩ := hr
  rw [RefreshRecord.user_closedFor] at huser
  rw [RefreshRecord.closedFor_of_eq huser]

/-- Each record of the user is kept, and of it only the revocation is noted. -/
theorem get?_revokeAll_of_eq {m : Memory} {user : Uuid} {k : String} {r : RefreshRecord Nat}
    (hr : m.refresh.get? k = some r) (huser : r.user = user) :
    (m.revokeAll user).refresh.get? k = some { r with revoked := true } := by
  rw [get?_revokeAll, hr, Option.map_some, RefreshRecord.closedFor_of_eq huser]

/-- The records of other users are not touched. -/
theorem get?_revokeAll_of_ne {user : Uuid} {r : RefreshRecord Nat} (h : r.user ≠ user) (m : Memory)
    (k : String) :
    (m.revokeAll user).refresh.get? k = some r ↔ m.refresh.get? k = some r := by
  rw [get?_revokeAll, Option.map_eq_some_iff]
  constructor
  · rintro ⟨r₀, hr₀, rfl⟩
    rw [RefreshRecord.user_closedFor] at h
    rw [RefreshRecord.closedFor_of_ne h]
    exact hr₀
  · intro hr
    exact ⟨r, hr, RefreshRecord.closedFor_of_ne h⟩

/-- **No step gives a record to a user whose sessions are closed**, but for one that issues a token
anew.  A record of the user that is there after the step was there before. -/
theorem exists_of_closed {m : Memory} {user : Uuid} (h : m.Closed user) {s : Step}
    (hs : ¬ s.IssuesTo user) {k : String} {r : RefreshRecord Nat}
    (hr : (m.perform s).refresh.get? k = some r) (huser : r.user = user) :
    ∃ r₀, m.refresh.get? k = some r₀ ∧ r₀.user = user ∧ r₀.Evolves r := by
  obtain ⟨t, n, effect, ht, -⟩ := m.refreshEffect_perform s
  rw [ht] at hr
  cases hk : m.refresh.get? k with
  | some r₀ =>
    obtain ⟨r', hr', e⟩ := effect.evolves hk
    rw [hr, Option.some.injEq] at hr'
    subst hr'
    exact ⟨r₀, rfl, e.user.symm.trans huser, e⟩
  | none =>
    rcases effect.get?_of_none hk hr with
      ⟨owner, expiresAt, client, hop, rfl⟩ | ⟨old, expiresAt, client, parent, account, good, -, rfl⟩
    · obtain rfl : owner = user := huser
      exact absurd ⟨k, expiresAt, client, hop⟩ hs
    · -- the new record goes to the owner of an open one, and the user has none
      have := h old parent good.known huser
      rw [good.unrevoked] at this
      exact Bool.noConfusion this

theorem closed_perform {m : Memory} {user : Uuid} (h : m.Closed user) {s : Step}
    (hs : ¬ s.IssuesTo user) : (m.perform s).Closed user := by
  intro k r hr huser
  obtain ⟨r₀, hr₀, hu, e⟩ := exists_of_closed h hs hr huser
  exact e.revoked (h k r₀ hr₀ hu)

/-- What a run does to a user whose sessions are closed: they stay closed, and no record comes. -/
theorem closed_run {m : Memory} {user : Uuid} (h : m.Closed user) {steps : List Step}
    (hs : ∀ s ∈ steps, ¬ s.IssuesTo user) :
    (m.run steps).Closed user ∧
    ∀ k r, (m.run steps).refresh.get? k = some r → r.user = user →
      ∃ r₀, m.refresh.get? k = some r₀ ∧ r₀.user = user := by
  induction steps generalizing m with
  | nil => exact ⟨h, fun k r hr huser => ⟨r, hr, huser⟩⟩
  | cons s steps ih =>
    have hs₁ : ¬ s.IssuesTo user := hs s List.mem_cons_self
    obtain ⟨hclosed, hback⟩ :=
      ih (closed_perform h hs₁) fun s' hs' => hs s' (List.mem_cons_of_mem s hs')
    refine ⟨hclosed, fun k r hr huser => ?_⟩
    obtain ⟨r₁, hr₁, hu₁⟩ := hback k r hr huser
    obtain ⟨r₀, hr₀, hu₀, -⟩ := exists_of_closed h hs₁ hr₁ hu₁
    exact ⟨r₀, hr₀, hu₀⟩

/-- A run that issues no token to a user whose sessions are closed leaves them the same tokens: none
comes (`closed_run`), and none goes. -/
theorem owns_run_iff {m : Memory} {user : Uuid} (h : m.Closed user) {steps : List Step}
    (hs : ∀ s ∈ steps, ¬ s.IssuesTo user) (k : String) :
    (m.run steps).Owns user k ↔ m.Owns user k := by
  constructor
  · rintro ⟨r, hr, huser⟩
    exact (closed_run h hs).2 k r hr huser
  · rintro ⟨r, hr, huser⟩
    obtain ⟨r', hr', e⟩ := evolves_run hr steps
    exact ⟨r', hr', e.user.trans huser⟩

/-- Closing the sessions of a user leaves them the same tokens. -/
theorem owns_revokeAll_iff (m : Memory) (user : Uuid) (k : String) :
    (m.revokeAll user).Owns user k ↔ m.Owns user k := by
  constructor
  · rintro ⟨r, hr, huser⟩
    rw [get?_revokeAll, Option.map_eq_some_iff] at hr
    obtain ⟨r₀, hr₀, rfl⟩ := hr
    exact ⟨r₀, hr₀, (r₀.user_closedFor user).symm.trans huser⟩
  · rintro ⟨r, hr, huser⟩
    exact ⟨_, get?_revokeAll_of_eq hr huser, huser⟩

/-- **A token of a user whose sessions are closed is of no use any more**: whoever presents it is
answered as after a reuse. -/
theorem rotate_of_closed {m : Memory} {user : Uuid} (h : m.Closed user) {old : String}
    (howns : m.Owns user old) (now : Instant) (new : String) (expiresAt : Instant)
    (client : ClientInfo) : (m.rotate now old new expiresAt client).1 = m.reuseAnswer user := by
  obtain ⟨r, hr, huser⟩ := howns
  rw [rotate_of_revoked hr (h old r hr huser), contain_fst, huser]

/-- The step ends the token with the digest, whose owner is the user: it replaces the token, revokes
it, or closes the sessions of the user, because that is asked for or because a revoked token of the
user is presented. -/
def Ends (digest : String) (user : Uuid) (e : Memory × Step) : Prop :=
  replaces digest e = true ∨
  (∃ replacedBy, e.2.operation = .call (.revoke digest replacedBy)) ∨
  e.2.operation = .call (.revokeAll user) ∨
  ∃ old new expiresAt client r, e.2.operation = .call (.rotate old new expiresAt client) ∧
    e.1.refresh.get? old = some r ∧ r.revoked = true ∧ r.user = user

/-- A token that was ended is revoked. -/
theorem revoked_of_ends {m : Memory} {s : Step} {digest : String} {r : RefreshRecord Nat}
    (hr : m.refresh.get? digest = some r) (h : Ends digest r.user (m, s)) :
    (m.perform s).Revoked digest := by
  have closing (hclosed : m.perform s = m.revokeAll r.user) : (m.perform s).Revoked digest := by
    obtain ⟨r', hr', e⟩ := evolves_perform hr s
    exact ⟨r', hr', closed_revokeAll m r.user digest r' (hclosed ▸ hr') e.user⟩
  obtain ⟨now, op⟩ := s
  rcases h with
    h | ⟨replacedBy, rfl⟩ | rfl | ⟨old, new, expiresAt, client, r', rfl, hr', hrev, huser⟩
  · exact (revoked_of_replaces h).2
  · refine ⟨r.revokedWith replacedBy, ?_, rfl⟩
    simp [perform, answer, revoke, Table.contains, hr, RefreshRecord.revokedWith]
  · exact closing rfl
  · refine closing ?_
    simp only [perform, answer, rotate_of_revoked hr' hrev, contain_snd, huser]

/-- **Closing the sessions of a user is complete and final.**  Right after a step that closes them
every record of the user is there as before, but revoked, and the records of all others, the
accounts and the reset records are exactly as before.  In every continuation that issues no token to
the user anew, every record of the user is still there and revoked, the user owns the same tokens as
at the closing, none more and none less, and whoever presents one of them is told of the reuse, or
that the token is not valid if the user is not registered. -/
theorem closing_is_final {m : Memory} {s : Step} {user : Uuid} (hs : m.Closes s user)
    {after : List Step} (hafter : ∀ t ∈ after, ¬ t.IssuesTo user) :
    ((∀ k r, m.refresh.get? k = some r → r.user = user →
        (m.perform s).refresh.get? k = some { r with revoked := true }) ∧
      (m.perform s).Closed user ∧
      (∀ k r, r.user ≠ user →
        ((m.perform s).refresh.get? k = some r ↔ m.refresh.get? k = some r)) ∧
      (m.perform s).accounts = m.accounts ∧ (m.perform s).resets = m.resets) ∧
    ((∀ k r, m.refresh.get? k = some r → r.user = user →
        ∃ r', ((m.perform s).run after).refresh.get? k = some r' ∧ r.Evolves r' ∧
          r'.revoked = true) ∧
      ((m.perform s).run after).Closed user ∧
      (∀ k, ((m.perform s).run after).Owns user k ↔ m.Owns user k) ∧
      ∀ k, m.Owns user k → ∀ now new expiresAt client,
        (((m.perform s).run after).rotate now k new expiresAt client).1 =
          ((m.perform s).run after).reuseAnswer user) := by
  have hperform : m.perform s = m.revokeAll user := perform_of_closes hs
  have hclosed : (m.perform s).Closed user := by
    rw [hperform]
    exact closed_revokeAll m user
  have hfinal : ((m.perform s).run after).Closed user := (closed_run hclosed hafter).1
  have hkept (k : String) (r : RefreshRecord Nat) (hr : m.refresh.get? k = some r)
      (huser : r.user = user) :
      (m.perform s).refresh.get? k = some { r with revoked := true } := by
    rw [hperform]
    exact get?_revokeAll_of_eq hr huser
  have howns (k : String) : ((m.perform s).run after).Owns user k ↔ m.Owns user k := by
    rw [owns_run_iff hclosed hafter, hperform]
    exact owns_revokeAll_iff m user k
  refine ⟨⟨hkept, hclosed, fun k r hr => ?_, ?_, ?_⟩, fun k r hr huser => ?_, hfinal, howns, ?_⟩
  · rw [hperform]
    exact get?_revokeAll_of_ne hr m k
  · rw [hperform]
    rfl
  · rw [hperform]
    rfl
  · obtain ⟨r₁, hr₁, e₁⟩ := evolves_perform hr s
    obtain ⟨r₂, hr₂, e₂⟩ := evolves_run hr₁ after
    have e : r.Evolves r₂ := e₁.trans e₂
    exact ⟨r₂, hr₂, e, hfinal k r₂ hr₂ (e.user.trans huser)⟩
  · intro k hk now new expiresAt client
    exact rotate_of_closed hfinal ((howns k).2 hk) now new expiresAt client

/-- Two sessions of one user: the reuse of the first closes the second, which is there for good and
of no more use. -/
theorem closing_is_final_sibling :
    let client : ClientInfo := ⟨none, none⟩
    let user : Uuid := .ofNat 1
    let m : Memory := run {}
      [⟨0, .register ⟨user, "a@example.org", none, "learner"⟩ ""⟩,
        ⟨0, .call (.insertRefresh "phone" user 90 client)⟩,
        ⟨1, .call (.insertRefresh "laptop" user 91 client)⟩,
        ⟨2, .call (.rotate "phone" "phone2" 92 client)⟩]
    let reuse : Step := ⟨3, .call (.rotate "phone" "phone3" 93 client)⟩
    let after : List Step := [⟨4, .setExpiry "laptop" 99⟩]
    let later : Memory := (m.perform reuse).run after
    m.Closes reuse user ∧ (∀ t ∈ after, ¬ t.IssuesTo user) ∧ m.Owns user "laptop" ∧
      ¬ m.Revoked "laptop" ∧ later.Closed user ∧ later.Revoked "laptop" ∧
      (later.rotate 5 "laptop" "laptop2" 94 client).1 = .ok ⟨user, "learner", true⟩ := by
  intro client user m reuse after later
  have hs : m.Closes reuse user :=
    Or.inr ⟨"phone", "phone3", 93, client, "learner", rfl, rfl⟩
  have hafter : ∀ t ∈ after, ¬ t.IssuesTo user := by
    rintro t ht ⟨digest, expiresAt, client, hop⟩
    obtain rfl : t = ⟨4, .setExpiry "laptop" 99⟩ := by simpa [after] using ht
    cases hop
  obtain ⟨-, hkept, hclosed, -, haway⟩ := closing_is_final hs hafter
  have hlaptop : m.refresh.get? "laptop" =
      some ⟨1, user, "laptop", 1, none, 91, false, none, none, none⟩ := rfl
  have howns : m.Owns user "laptop" := ⟨_, hlaptop, rfl⟩
  obtain ⟨r, hr, -, hrev⟩ := hkept "laptop" _ hlaptop rfl
  refine ⟨hs, hafter, howns, by decide, hclosed, ⟨r, hr, hrev⟩, ?_⟩
  exact haway "laptop" howns 5 "laptop2" 94 client

end Gatehouse.Memory
