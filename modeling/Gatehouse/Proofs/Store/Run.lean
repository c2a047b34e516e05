/-
  Runs of the store in memory.

  The store changes through its calls and through three operations that go past the service: a user
  is registered, a role is changed, an expiry is moved.  A `Step` is one of these with the time it
  happens at, and a run is a list of steps, in any order and with any arguments.

  Everything that holds over whole runs rests on two facts about one step.

  * `refreshEffect_perform` — a step does one of seven things to the refresh records, and each of
    them says under which condition it happens.  No later proof opens an operation again.
  * `evolves_perform` — no step loses a record, and what a step may change of a record is little:
    a revoked record stays revoked, a used one used, and its owner stays its owner.
-/
import Gatehouse.Proofs.Store.Table
import Gatehouse.Store.Memory

namespace Gatehouse

/-! ## How a record changes -/

namespace RefreshRecord

variable {ι : Type}

/-- The record of a token that was replaced by another. -/
def replacedWith (r : RefreshRecord ι) (now : Instant) (new : String) : RefreshRecord ι :=
  { r with revoked := true, replacedBy := some new, lastUsedAt := some now }

/-- The record of a token that was revoked on its own. -/
def revokedWith (r : RefreshRecord ι) (replacedBy : Option String) : RefreshRecord ι :=
  { r with revoked := true, replacedBy := replacedBy.or r.replacedBy }

/-- The record of a token that was revoked if it belongs to a user. -/
def closedFor (r : RefreshRecord ι) (user : Uuid) : RefreshRecord ι :=
  if r.user = user then { r with revoked := true } else r

/-- `r.Evolves r'` — a record may change from `r` to `r'`: what was written when the token was
issued stays, and what was noted since then is not taken back. -/
structure Evolves (r r' : RefreshRecord ι) : Prop where
  id : r'.id = r.id
  user : r'.user = r.user
  digest : r'.digest = r.digest
  createdAt : r'.createdAt = r.createdAt
  ip : r'.ip = r.ip
  userAgent : r'.userAgent = r.userAgent
  revoked : r.revoked = true → r'.revoked = true
  lastUsedAt : r.lastUsedAt.isSome = true → r'.lastUsedAt.isSome = true
  replacedBy : r.replacedBy.isSome = true → r'.replacedBy.isSome = true

theorem Evolves.refl (r : RefreshRecord ι) : r.Evolves r :=
  ⟨rfl, rfl, rfl, rfl, rfl, rfl, fun h => h, fun h => h, fun h => h⟩

theorem Evolves.trans {r s t : RefreshRecord ι} (h : r.Evolves s) (k : s.Evolves t) :
    r.Evolves t :=
  ⟨k.id.trans h.id, k.user.trans h.user, k.digest.trans h.digest, k.createdAt.trans h.createdAt,
    k.ip.trans h.ip, k.userAgent.trans h.userAgent, fun hr => k.revoked (h.revoked hr),
    fun hr => k.lastUsedAt (h.lastUsedAt hr), fun hr => k.replacedBy (h.replacedBy hr)⟩

theorem evolves_replacedWith (r : RefreshRecord ι) (now : Instant) (new : String) :
    r.Evolves (r.replacedWith now new) :=
  ⟨rfl, rfl, rfl, rfl, rfl, rfl, fun _ => rfl, fun _ => rfl, fun _ => rfl⟩

theorem evolves_revokedWith (r : RefreshRecord ι) (replacedBy : Option String) :
    r.Evolves (r.revokedWith replacedBy) := by
  refine ⟨rfl, rfl, rfl, rfl, rfl, rfl, fun _ => rfl, fun h => h, fun h => ?_⟩
  cases replacedBy with
  | none => exact h
  | some new => rfl

theorem evolves_closedFor (r : RefreshRecord ι) (user : Uuid) : r.Evolves (r.closedFor user) := by
  unfold closedFor
  split
  · exact ⟨rfl, rfl, rfl, rfl, rfl, rfl, fun _ => rfl, fun h => h, fun h => h⟩
  · exact Evolves.refl r

theorem user_closedFor (r : RefreshRecord ι) (user : Uuid) : (r.closedFor user).user = r.user :=
  (r.evolves_closedFor user).user

/-- A record of the user is revoked. -/
theorem closedFor_of_eq {r : RefreshRecord ι} {user : Uuid} (h : r.user = user) :
    r.closedFor user = { r with revoked := true } := if_pos h

/-- The record of anybody else stays as it is. -/
theorem closedFor_of_ne {r : RefreshRecord ι} {user : Uuid} (h : r.user ≠ user) :
    r.closedFor user = r := if_neg h

theorem expiresAt_closedFor (r : RefreshRecord ι) (user : Uuid) :
    (r.closedFor user).expiresAt = r.expiresAt := by
  unfold closedFor
  split <;> rfl

theorem evolves_expiresAt (r : RefreshRecord ι) (expiresAt : Instant) :
    r.Evolves { r with expiresAt } :=
  ⟨rfl, rfl, rfl, rfl, rfl, rfl, fun h => h, fun h => h, fun h => h⟩

/-! ## The identifier of a record -/

/-- The record under another identifier. -/
def withId {κ : Type} (r : RefreshRecord ι) (id : κ) : RefreshRecord κ :=
  { id, user := r.user, digest := r.digest, createdAt := r.createdAt, lastUsedAt := r.lastUsedAt
    expiresAt := r.expiresAt, revoked := r.revoked, replacedBy := r.replacedBy, ip := r.ip
    userAgent := r.userAgent }

@[simp] theorem user_withId {κ : Type} (r : RefreshRecord ι) (id : κ) :
    (r.withId id).user = r.user := rfl

theorem closedFor_withId {κ : Type} (r : RefreshRecord ι) (id : κ) (user : Uuid) :
    (r.withId id).closedFor user = (r.closedFor user).withId id := by
  unfold closedFor
  by_cases huser : r.user = user <;> simp [huser, withId]

end RefreshRecord

namespace Memory

/-! ## Steps and runs -/

/-- An operation on the store. -/
inductive Operation where
  /-- A call of the service. -/
  | call (call : Call)
  /-- Registers a user, or replaces the one with the same identifier. -/
  | register (user : User) (passwordHash : String)
  /-- Changes the role of a user. -/
  | setRole (user : Uuid) (role : String)
  /-- Moves the expiry of a refresh token. -/
  | setExpiry (digest : String) (expiresAt : Instant)
deriving DecidableEq, Repr

/-- An operation and the time it happens at. -/
structure Step where
  /-- The reading of the clock. -/
  now : Instant
  /-- What is done. -/
  operation : Operation
deriving DecidableEq, Repr

/-- A step such as the service makes: it neither names a replacement of its own nor moves an
expiry. -/
structure Step.Plain (s : Step) : Prop where
  names : ∀ digest new, s.operation ≠ .call (.revoke digest (some new))
  moves : ∀ digest expiresAt, s.operation ≠ .setExpiry digest expiresAt

/-- The store after a step. -/
def perform (m : Memory) (s : Step) : Memory :=
  match s.operation with
  | .call call => (m.answer s.now call).2
  | .register user passwordHash => m.insertUser user passwordHash
  | .setRole user role => (m.setRole user role).2
  | .setExpiry digest expiresAt => (m.setExpiry digest expiresAt).2

/-- The store after a run. -/
def run (m : Memory) (steps : List Step) : Memory := steps.foldl perform m

/-- The steps of a run, each with the store that it finds. -/
def history (m : Memory) : List Step → List (Memory × Step)
  | [] => []
  | s :: steps => (m, s) :: history (m.perform s) steps

@[simp] theorem run_nil (m : Memory) : m.run [] = m := rfl

@[simp] theorem run_cons (m : Memory) (s : Step) (steps : List Step) :
    m.run (s :: steps) = (m.perform s).run steps := rfl

theorem run_append (m : Memory) (first second : List Step) :
    m.run (first ++ second) = (m.run first).run second := List.foldl_append

/-- An entry of a history is a step together with the store after the steps before it. -/
theorem exists_of_mem_history {m : Memory} {steps : List Step} {e : Memory × Step}
    (h : e ∈ m.history steps) :
    ∃ before after, steps = before ++ e.2 :: after ∧ e.1 = m.run before := by
  induction steps generalizing m with
  | nil => simp [history] at h
  | cons s steps ih =>
    rcases List.mem_cons.1 h with rfl | h
    · exact ⟨[], steps, rfl, rfl⟩
    · obtain ⟨before, after, hs, he⟩ := ih h
      exact ⟨s :: before, after, by rw [hs, List.cons_append], he⟩

/-- Something that leaves a mark for good, and does not happen where the mark is, happens at most
once in a run. -/
theorem countP_history_le_one {event : Memory × Step → Bool} {Mark : Memory → Prop}
    (keeps : ∀ {m : Memory} (s : Step), Mark m → Mark (m.perform s))
    (leaves : ∀ {m : Memory} {s : Step}, event (m, s) = true → Mark (m.perform s))
    (avoids : ∀ {m : Memory} {s : Step}, event (m, s) = true → ¬ Mark m)
    (m : Memory) (steps : List Step) : (m.history steps).countP event ≤ 1 := by
  -- where the mark is the event does not happen any more
  have none_of_mark (m : Memory) (hm : Mark m) (steps : List Step) :
      (m.history steps).countP event = 0 := by
    induction steps generalizing m with
    | nil => rfl
    | cons s steps ih =>
      rw [history, List.countP_cons_of_neg fun h => avoids h hm]
      exact ih (m.perform s) (keeps s hm)
  induction steps generalizing m with
  | nil => exact Nat.zero_le 1
  | cons s steps ih =>
    rw [history, List.countP_cons]
    by_cases h : event (m, s) = true
    · have := none_of_mark (m.perform s) (leaves h) steps
      rw [if_pos h]
      omega
    · rw [if_neg h]
      exact ih (m.perform s)

/-! ## What a step does to the refresh records -/

/-- The record of a token that is issued now. -/
def issue (m : Memory) (now : Instant) (digest : String) (user : Uuid) (expiresAt : Instant)
    (client : ClientInfo) : RefreshRecord Nat :=
  { id := m.issued, user, digest, createdAt := now, lastUsedAt := none, expiresAt
    revoked := false, replacedBy := none, ip := client.ip, userAgent := client.userAgent }

/-- `m.Good now digest r account` — the token with the digest can be replaced: its record `r` is
neither revoked nor expired, and its owner has the account `account`. -/
structure Good (m : Memory) (now : Instant) (digest : String) (r : RefreshRecord Nat)
    (account : Account) : Prop where
  known : m.refresh.get? digest = some r
  unrevoked : r.revoked = false
  unexpired : expired r.expiresAt now = false
  owner : m.accounts.get? r.user = some account

/-- What a step leaves of the refresh records, and the number of records issued after it. -/
inductive RefreshEffect (m : Memory) : Step → Table String (RefreshRecord Nat) → Nat → Prop where
  /-- They stay as they are. -/
  | kept (s : Step) (issued : Nat) (le : m.issued ≤ issued) : RefreshEffect m s m.refresh issued
  /-- A token is issued under a digest that is new. -/
  | issued (now : Instant) (digest : String) (user : Uuid) (expiresAt : Instant)
      (client : ClientInfo) (fresh : m.refresh.contains digest = false) :
      RefreshEffect m ⟨now, .call (.insertRefresh digest user expiresAt client)⟩
        (m.refresh.insert digest (m.issue now digest user expiresAt client)) (m.issued + 1)
  /-- A good token is replaced by one whose digest is new. -/
  | replaced (now : Instant) (old new : String) (expiresAt : Instant) (client : ClientInfo)
      (r : RefreshRecord Nat) (account : Account) (good : m.Good now old r account)
      (fresh : m.refresh.contains new = false) :
      RefreshEffect m ⟨now, .call (.rotate old new expiresAt client)⟩
        ((m.refresh.insert new (m.issue now new r.user expiresAt client)).modify old
          (·.replacedWith now new)) (m.issued + 1)
  /-- A revoked token is presented, and the sessions of its owner are closed. -/
  | contained (now : Instant) (old new : String) (expiresAt : Instant) (client : ClientInfo)
      (r : RefreshRecord Nat) (known : m.refresh.get? old = some r) (revoked : r.revoked = true) :
      RefreshEffect m ⟨now, .call (.rotate old new expiresAt client)⟩
        (m.refresh.modifyAll (·.closedFor r.user)) m.issued
  /-- The sessions of a user are closed. -/
  | closed (now : Instant) (user : Uuid) :
      RefreshEffect m ⟨now, .call (.revokeAll user)⟩ (m.refresh.modifyAll (·.closedFor user))
        m.issued
  /-- One token is revoked. -/
  | ended (now : Instant) (digest : String) (replacedBy : Option String) :
      RefreshEffect m ⟨now, .call (.revoke digest replacedBy)⟩
        (m.refresh.modify digest (·.revokedWith replacedBy)) m.issued
  /-- The expiry of one token is moved. -/
  | moved (now : Instant) (digest : String) (expiresAt : Instant) :
      RefreshEffect m ⟨now, .setExpiry digest expiresAt⟩
        (m.refresh.modify digest fun r => { r with expiresAt }) m.issued

theorem insertRefresh_of_contains {m : Memory} {digest : String}
    (h : m.refresh.contains digest = true) (now : Instant) (user : Uuid) (expiresAt : Instant)
    (client : ClientInfo) :
    m.insertRefresh now digest user expiresAt client =
      (.error (.internal "duplicate refresh token digest"), m) := by
  rw [insertRefresh, if_pos h]

theorem insertRefresh_of_fresh {m : Memory} {digest : String}
    (h : m.refresh.contains digest = false) (now : Instant) (user : Uuid) (expiresAt : Instant)
    (client : ClientInfo) :
    m.insertRefresh now digest user expiresAt client =
      (.ok (), { m with
        refresh := m.refresh.insert digest (m.issue now digest user expiresAt client)
        issued := m.issued + 1 }) := by
  rw [insertRefresh, if_neg (by simp [h])]
  rfl

/-- An insertion that succeeds finds a digest that is new. -/
theorem fresh_of_insertRefresh {m : Memory} {now : Instant} {digest : String} {user : Uuid}
    {expiresAt : Instant} {client : ClientInfo}
    (h : (m.insertRefresh now digest user expiresAt client).1 = .ok ()) :
    m.refresh.contains digest = false := by
  cases hk : m.refresh.contains digest with
  | false => rfl
  | true => simp [insertRefresh_of_contains hk] at h

/-- The store after the token `old` was replaced by `new`. -/
def replaced (m : Memory) (now : Instant) (r : RefreshRecord Nat) (old new : String)
    (expiresAt : Instant) (client : ClientInfo) : Memory :=
  { m with
    refresh := (m.refresh.insert new (m.issue now new r.user expiresAt client)).modify old
      (·.replacedWith now new)
    issued := m.issued + 1 }

/-- A rotation ends in one of three ways: it is refused and changes nothing, it finds a revoked
token and closes the sessions of the owner, or it finds a good token and replaces it. -/
theorem rotate_cases (m : Memory) (now : Instant) (old new : String) (expiresAt : Instant)
    (client : ClientInfo) :
    (∃ e, m.rotate now old new expiresAt client = (.error e, m)) ∨
    (∃ r, m.refresh.get? old = some r ∧ r.revoked = true ∧
      m.rotate now old new expiresAt client = m.contain r.user) ∨
    (∃ r account, m.Good now old r account ∧ m.refresh.contains new = false ∧
      m.rotate now old new expiresAt client =
        (.ok ⟨r.user, account.user.role, false⟩, m.replaced now r old new expiresAt client)) := by
  -- the tests in the order in which they are made: known, revoked, expired, the owner, the digest
  cases hr : m.refresh.get? old with
  | none => exact Or.inl ⟨.invalidRefreshToken, by simp only [rotate, hr]⟩
  | some r =>
    cases hrev : r.revoked with
    | true => exact Or.inr (Or.inl ⟨r, rfl, hrev, by simp only [rotate, hr, hrev, if_true]⟩)
    | false =>
      have hrot : m.rotate now old new expiresAt client =
          if expired r.expiresAt now then (.error .invalidRefreshToken, m)
          else m.replace now r old new expiresAt client := by
        simp only [rotate, hr, hrev, Bool.false_eq_true, if_false]
      rw [hrot]
      cases hexp : expired r.expiresAt now with
      | true => exact Or.inl ⟨_, if_pos rfl⟩
      | false =>
        rw [if_neg (by simp)]
        cases hacc : m.accounts.get? r.user with
        | none => exact Or.inl ⟨.invalidRefreshToken, by simp only [replace, roleOf, hacc]⟩
        | some account =>
          cases hnew : m.refresh.contains new with
          | true =>
            exact Or.inl ⟨_, by
              simp only [replace, roleOf, hacc, insertRefresh_of_contains hnew]; rfl⟩
          | false =>
            refine Or.inr (Or.inr ⟨r, account, ⟨hr, hrev, hexp, hacc⟩, rfl, ?_⟩)
            simp only [replace, roleOf, hacc, insertRefresh_of_fresh hnew]
            rfl

/-- Every step has one of the effects. -/
theorem refreshEffect_perform (m : Memory) (s : Step) :
    ∃ t n, m.RefreshEffect s t n ∧ (m.perform s).refresh = t ∧ (m.perform s).issued = n := by
  obtain ⟨now, op⟩ := s
  cases op with
  | register user hash => exact ⟨_, _, .kept _ _ (Nat.le_refl _), rfl, rfl⟩
  | setRole user role =>
    refine ⟨_, _, .kept _ _ (Nat.le_refl _), ?_⟩
    simp only [perform, setRole]
    split <;> exact ⟨rfl, rfl⟩
  | setExpiry digest expiresAt =>
    simp only [perform, setExpiry]
    split
    · exact ⟨_, _, .moved now digest expiresAt, rfl, rfl⟩
    · exact ⟨_, _, .kept _ _ (Nat.le_refl _), rfl, rfl⟩
  | call c =>
    cases c with
    | insertRefresh digest user expiresAt client =>
      cases h : m.refresh.contains digest with
      | true =>
        refine ⟨_, _, .kept _ _ (Nat.le_refl _), ?_⟩
        simp only [perform, answer, insertRefresh_of_contains h, and_self]
      | false =>
        refine ⟨_, _, .issued now digest user expiresAt client h, ?_⟩
        simp only [perform, answer, insertRefresh_of_fresh h, and_self]
    | rotate old new expiresAt client =>
      rcases m.rotate_cases now old new expiresAt client with
        ⟨e, h⟩ | ⟨r, hr, hrev, h⟩ | ⟨r, account, good, fresh, h⟩
      · refine ⟨_, _, .kept _ _ (Nat.le_refl _), ?_⟩
        simp only [perform, answer, h, and_self]
      · refine ⟨_, _, .contained now old new expiresAt client r hr hrev, ?_⟩
        simp only [perform, answer, h]
        exact ⟨rfl, rfl⟩
      · refine ⟨_, _, .replaced now old new expiresAt client r account good fresh, ?_⟩
        simp only [perform, answer, h]
        exact ⟨rfl, rfl⟩
    | revoke digest replacedBy =>
      simp only [perform, answer, revoke]
      split
      · exact ⟨_, _, .ended now digest replacedBy, rfl, rfl⟩
      · exact ⟨_, _, .kept _ _ (Nat.le_refl _), rfl, rfl⟩
    | revokeAll user => exact ⟨_, _, .closed now user, rfl, rfl⟩
    -- no other call touches the refresh records, but a reset record takes a number of its own
    | insertReset digest user expiresAt =>
      simp only [perform, answer, insertReset]
      split
      · exact ⟨_, _, .kept _ _ (Nat.le_refl _), rfl, rfl⟩
      · exact ⟨_, _, .kept _ _ (Nat.le_succ _), rfl, rfl⟩
    | consumeReset digest =>
      refine ⟨_, _, .kept _ _ (Nat.le_refl _), ?_⟩
      simp only [perform, answer, consumeReset]
      split
      · exact ⟨rfl, rfl⟩
      · split <;> exact ⟨rfl, rfl⟩
    | findByEmail email => exact ⟨_, _, .kept _ _ (Nat.le_refl _), rfl, rfl⟩
    | findById user => exact ⟨_, _, .kept _ _ (Nat.le_refl _), rfl, rfl⟩
    | setPassword user hash =>
      refine ⟨_, _, .kept _ _ (Nat.le_refl _), ?_⟩
      simp only [perform, answer, setPassword]
      split <;> exact ⟨rfl, rfl⟩

/-! ## What becomes of one record -/

/-- A key that had no record has one after a step only if the step issued it. -/
theorem RefreshEffect.get?_of_none {m : Memory} {s : Step} {t : Table String (RefreshRecord Nat)}
    {n : Nat} (h : m.RefreshEffect s t n) {k : String} {r : RefreshRecord Nat}
    (hk : m.refresh.get? k = none) (hr : t.get? k = some r) :
    (∃ user expiresAt client, s.operation = .call (.insertRefresh k user expiresAt client) ∧
      r = m.issue s.now k user expiresAt client) ∨
    (∃ old expiresAt client parent account, m.Good s.now old parent account ∧
      s.operation = .call (.rotate old k expiresAt client) ∧
      r = m.issue s.now k parent.user expiresAt client) := by
  cases h with
  | kept => simp [hk] at hr
  | issued now digest user expiresAt client fresh =>
    by_cases hd : k = digest
    · subst hd
      exact Or.inl ⟨user, expiresAt, client, rfl, by simpa [eq_comm] using hr⟩
    · simp [hd, hk] at hr
  | replaced now old new expiresAt client parent account good fresh =>
    have hold : k ≠ old := by
      rintro rfl
      simp [good.known] at hk
    by_cases hd : k = new
    · subst hd
      exact Or.inr ⟨old, expiresAt, client, parent, account, good, rfl, by
        simpa [hold, eq_comm] using hr⟩
    · simp [hold, hd, hk] at hr
  | contained => simp [hk] at hr
  | closed => simp [hk] at hr
  | ended => simp [hk] at hr
  | moved => simp [hk] at hr

/-- A record that a step finds is there after the step, and it evolved. -/
theorem RefreshEffect.evolves {m : Memory} {s : Step} {t : Table String (RefreshRecord Nat)}
    {n : Nat} (h : m.RefreshEffect s t n) {k : String} {r : RefreshRecord Nat}
    (hk : m.refresh.get? k = some r) : ∃ r', t.get? k = some r' ∧ r.Evolves r' := by
  cases h with
  | kept => exact ⟨r, hk, .refl r⟩
  | issued now digest user expiresAt client fresh =>
    have hd : k ≠ digest := Table.ne_of_contains_eq_false hk fresh
    exact ⟨r, by simp [hd, hk], .refl r⟩
  | replaced now old new expiresAt client parent account good fresh =>
    have hd : k ≠ new := Table.ne_of_contains_eq_false hk fresh
    by_cases ho : k = old
    · exact ⟨_, by simp [← ho, hd, hk], r.evolves_replacedWith now new⟩
    · exact ⟨r, by simp [ho, hd, hk], .refl r⟩
  | contained now old new expiresAt client parent =>
    exact ⟨_, by simp [hk], r.evolves_closedFor parent.user⟩
  | closed now user => exact ⟨_, by simp [hk], r.evolves_closedFor user⟩
  | ended now digest replacedBy =>
    by_cases hd : k = digest
    · exact ⟨_, by simp [← hd, hk], r.evolves_revokedWith replacedBy⟩
    · exact ⟨r, by simp [hd, hk], .refl r⟩
  | moved now digest expiresAt =>
    by_cases hd : k = digest
    · exact ⟨_, by simp [← hd, hk], r.evolves_expiresAt expiresAt⟩
    · exact ⟨r, by simp [hd, hk], .refl r⟩

/-- Only a step that moves it changes the expiry of a record. -/
theorem RefreshEffect.expiresAt_eq {m : Memory} {s : Step} {t : Table String (RefreshRecord Nat)}
    {n : Nat} (h : m.RefreshEffect s t n) {k : String}
    (hs : ∀ expiresAt, s.operation ≠ .setExpiry k expiresAt) {r r' : RefreshRecord Nat}
    (hk : m.refresh.get? k = some r) (hk' : t.get? k = some r') : r'.expiresAt = r.expiresAt := by
  cases h with
  | kept => simp_all
  | issued now digest user expiresAt client fresh =>
    have hd : k ≠ digest := Table.ne_of_contains_eq_false hk fresh
    simp_all
  | replaced now old new expiresAt client parent account good fresh =>
    have hd : k ≠ new := Table.ne_of_contains_eq_false hk fresh
    by_cases ho : k = old
    · obtain rfl : r.replacedWith now new = r' := by simpa [← ho, hd, hk] using hk'
      rfl
    · simp_all
  | contained now old new expiresAt client parent =>
    obtain rfl : r.closedFor parent.user = r' := by simpa [hk] using hk'
    exact r.expiresAt_closedFor parent.user
  | closed now user =>
    obtain rfl : r.closedFor user = r' := by simpa [hk] using hk'
    exact r.expiresAt_closedFor user
  | ended now digest replacedBy =>
    by_cases hd : k = digest
    · obtain rfl : r.revokedWith replacedBy = r' := by simpa [← hd, hk] using hk'
      rfl
    · simp_all
  | moved now digest expiresAt =>
    have hd : k ≠ digest := fun hd => hs expiresAt (by rw [hd])
    simp_all

/-- **No step loses a record**, and what it may change of one is little. -/
theorem evolves_perform {m : Memory} {k : String} {r : RefreshRecord Nat}
    (h : m.refresh.get? k = some r) (s : Step) :
    ∃ r', (m.perform s).refresh.get? k = some r' ∧ r.Evolves r' := by
  obtain ⟨t, n, effect, ht, -⟩ := m.refreshEffect_perform s
  rw [ht]
  exact effect.evolves h

/-- Neither does a run. -/
theorem evolves_run {m : Memory} {k : String} {r : RefreshRecord Nat}
    (h : m.refresh.get? k = some r) (steps : List Step) :
    ∃ r', (m.run steps).refresh.get? k = some r' ∧ r.Evolves r' := by
  induction steps generalizing m r with
  | nil => exact ⟨r, h, .refl r⟩
  | cons s steps ih =>
    obtain ⟨r₁, h₁, e₁⟩ := evolves_perform h s
    obtain ⟨r₂, h₂, e₂⟩ := ih h₁
    exact ⟨r₂, h₂, e₁.trans e₂⟩

/-- In a run that does not move it, the expiry of a token stays as it was set. -/
theorem expiresAt_run {m : Memory} {steps : List Step} {k : String}
    (hs : ∀ s ∈ steps, ∀ expiresAt, s.operation ≠ .setExpiry k expiresAt)
    {r r' : RefreshRecord Nat} (hr : m.refresh.get? k = some r)
    (hr' : (m.run steps).refresh.get? k = some r') : r'.expiresAt = r.expiresAt := by
  induction steps generalizing m r with
  | nil =>
    obtain rfl : r = r' := Option.some.inj (hr.symm.trans hr')
    rfl
  | cons s steps ih =>
    obtain ⟨t, n, effect, ht, -⟩ := m.refreshEffect_perform s
    obtain ⟨r₁, hr₁, -⟩ := effect.evolves hr
    rw [ih (fun s' hs' => hs s' (List.mem_cons_of_mem s hs')) (ht ▸ hr₁) hr']
    exact effect.expiresAt_eq (hs s List.mem_cons_self) hr hr₁

end Memory

end Gatehouse
