/-
  Accounts in runs of the store.

  Every account stands under the identifier of its own user, so an account that is found by its
  address is the account of the user that it names.  Only registering a user, changing a role and
  changing a password touch the accounts.

  An address is looked for in the order of the table.  If no two accounts have the same address, the
  order makes no difference (`findByEmail_eq_some_iff`), and one account more makes a difference for
  its own address only.
-/
import Gatehouse.Proofs.Store.Run

namespace Gatehouse.Memory

/-- Every account stands under the identifier of its user. -/
def Keyed (m : Memory) : Prop := ∀ k account, m.accounts.get? k = some account → account.user.id = k

theorem keyed_empty : Keyed {} := fun k account h => by cases h

/-- No call but changing a password touches the accounts. -/
theorem accounts_answer (m : Memory) (now : Instant) {call : Call}
    (h : ∀ user hash, call ≠ .setPassword user hash) :
    (m.answer now call).2.accounts = m.accounts := by
  cases call with
  | setPassword user hash => exact absurd rfl (h user hash)
  | insertRefresh digest user expiresAt client =>
    simp only [answer, insertRefresh]
    split <;> rfl
  | rotate old new expiresAt client =>
    rcases m.rotate_cases now old new expiresAt client with
      ⟨e, hrot⟩ | ⟨r, -, -, hrot⟩ | ⟨r, account, -, -, hrot⟩ <;> simp only [answer, hrot] <;> rfl
  | revoke digest replacedBy =>
    simp only [answer, revoke]
    split <;> rfl
  | insertReset digest user expiresAt =>
    simp only [answer, insertReset]
    split <;> rfl
  | consumeReset digest =>
    simp only [answer, consumeReset]
    split
    · rfl
    · split <;> rfl
  | revokeAll user => rfl
  | findByEmail email => rfl
  | findById user => rfl

/-- No call registers anybody or takes a user away. -/
theorem contains_answer (m : Memory) (now : Instant) (call : Call) (user : Uuid) :
    (m.answer now call).2.accounts.contains user = m.accounts.contains user := by
  by_cases h : ∃ user hash, call = .setPassword user hash
  · obtain ⟨user, hash, rfl⟩ := h
    simp only [answer, setPassword]
    split
    · exact Table.contains_modify ..
    · rfl
  · rw [m.accounts_answer now fun user hash heq => h ⟨user, hash, heq⟩]

/-- A user is registered after a step only if the user was registered before, or the step registers
the user. -/
theorem contains_perform {m : Memory} {s : Step} {k : Uuid}
    (h : (m.perform s).accounts.contains k = true) :
    m.accounts.contains k = true ∨
      ∃ user hash, s.operation = .register user hash ∧ user.id = k := by
  obtain ⟨now, op⟩ := s
  cases op with
  | call c => exact Or.inl (m.contains_answer now c k ▸ h)
  | register user hash =>
    have h : k = user.id ∨ m.accounts.contains k = true := by
      simpa [perform, insertUser] using h
    rcases h with rfl | h
    · exact Or.inr ⟨user, hash, rfl, rfl⟩
    · exact Or.inl h
  | setRole user role =>
    refine Or.inl ?_
    simp only [perform, setRole] at h
    split at h
    · rwa [Table.contains_modify] at h
    · exact h
  | setExpiry digest expiresAt =>
    refine Or.inl ?_
    simp only [perform, setExpiry] at h
    split at h <;> exact h

/-- A run of calls that set no password leaves every account as it was. -/
theorem accounts_run {m : Memory} {steps : List Step}
    (h : ∀ s ∈ steps, ∃ call, s.operation = .call call ∧
      ∀ user hash, call ≠ .setPassword user hash) :
    (m.run steps).accounts = m.accounts := by
  induction steps generalizing m with
  | nil => rfl
  | cons s steps ih =>
    obtain ⟨call, hop, hcall⟩ := h s List.mem_cons_self
    rw [run_cons, ih fun s' hs' => h s' (List.mem_cons_of_mem s hs'), perform, hop]
    exact m.accounts_answer s.now hcall

/-- What changing a password does to the accounts. -/
theorem get?_setPassword {m : Memory} {user : Uuid} {hash : String}
    (h : (m.setPassword user hash).1 = .ok ()) :
    ∃ account, m.accounts.get? user = some account ∧
      (m.setPassword user hash).2.accounts.get? user =
        some { account with passwordHash := hash } := by
  unfold setPassword at h ⊢
  split at h
  · next hk =>
    obtain ⟨account, haccount⟩ := Option.isSome_iff_exists.1 hk
    exact ⟨account, haccount, by simp [hk, haccount]⟩
  · cases h

/-- Every step leaves each account under the id of its user. -/
theorem keyed_perform {m : Memory} (h : m.Keyed) (s : Step) : (m.perform s).Keyed := by
  -- a change of an account that keeps its user keeps the table as it should be
  have modify {user : Uuid} {f : Account → Account} (hf : ∀ a, (f a).user.id = a.user.id) :
      ∀ k account, (m.accounts.modify user f).get? k = some account → account.user.id = k := by
    intro k account hk
    by_cases hku : k = user
    · obtain ⟨a, ha, rfl⟩ : ∃ a, m.accounts.get? k = some a ∧ f a = account := by
        simpa [hku] using hk
      rw [hf, h k a ha]
    · exact h k account (by simpa [hku] using hk)
  obtain ⟨now, op⟩ := s
  cases op with
  | register user hash =>
    intro k account hk
    by_cases hku : k = user.id
    · obtain rfl : (⟨user, hash⟩ : Account) = account := by
        simpa [perform, insertUser, hku] using hk
      exact hku.symm
    · exact h k account (by simpa [perform, insertUser, hku] using hk)
  | setRole user role =>
    unfold Keyed
    simp only [perform, setRole]
    split
    · exact modify fun _ => rfl
    · exact h
  | setExpiry digest expiresAt =>
    unfold Keyed
    simp only [perform, setExpiry]
    split <;> exact h
  | call c =>
    by_cases hset : ∃ user hash, c = .setPassword user hash
    · obtain ⟨user, hash, rfl⟩ := hset
      unfold Keyed
      simp only [perform, answer, setPassword]
      split
      · exact modify fun _ => rfl
      · exact h
    · unfold Keyed
      rw [show (m.perform ⟨now, .call c⟩).accounts = m.accounts from
        m.accounts_answer now fun user hash hc => hset ⟨user, hash, hc⟩]
      exact h

theorem keyed_run {m : Memory} (h : m.Keyed) (steps : List Step) : (m.run steps).Keyed := by
  induction steps generalizing m with
  | nil => exact h
  | cons s steps ih => exact ih (keyed_perform h s)

/-- Whoever is found has an account whose address is the trimmed query up to case. -/
theorem exists_of_findByEmail {m : Memory} {email : String} {account : Account}
    (h : m.findByEmail email = some account) :
    ∃ k, m.accounts.get? k = some account ∧
      Text.lowerCase account.user.email = Text.lowerCase (Text.trim email) := by
  obtain ⟨k, hk⟩ := Table.exists_get?_of_mem_values (List.mem_of_find?_eq_some h)
  have hemail := List.find?_some h
  exact ⟨k, hk, of_decide_eq_true hemail⟩

/-- **An account that is found by its address** is the account of the user that it names. -/
theorem get?_of_findByEmail {m : Memory} (hkeyed : m.Keyed) {email : String} {account : Account}
    (h : m.findByEmail email = some account) :
    m.accounts.get? account.user.id = some account := by
  obtain ⟨k, hk, -⟩ := exists_of_findByEmail h
  rw [hkeyed k account hk, hk]

/-! ## One account more -/

/-- No two accounts have the same address, case ignored. -/
def Distinct (m : Memory) : Prop :=
  ∀ k k' account account', m.accounts.get? k = some account → m.accounts.get? k' = some account' →
    Text.lowerCase account.user.email = Text.lowerCase account'.user.email → k = k'

/-- With distinct addresses, an account is found exactly if its address is the trimmed query, up to
case. -/
theorem findByEmail_eq_some_iff {m : Memory} (distinct : m.Distinct) {email : String}
    {account : Account} :
    m.findByEmail email = some account ↔
      ∃ k, m.accounts.get? k = some account ∧
        Text.lowerCase account.user.email = Text.lowerCase (Text.trim email) := by
  refine ⟨exists_of_findByEmail, ?_⟩
  rintro ⟨k, hk, hemail⟩
  cases hfound : m.findByEmail email with
  | none =>
    have hno := List.find?_eq_none.1 hfound account (Table.mem_values_of_get? hk)
    exact absurd (decide_eq_true hemail) hno
  | some account' =>
    obtain ⟨k', hk', hemail'⟩ := exists_of_findByEmail hfound
    obtain rfl := distinct k k' account account' hk hk' (hemail.trans hemail'.symm)
    exact hk'.symm.trans hk

/-- The store has the accounts of `m` and the account `x`, which is not one of them. -/
structure Extends (m' m : Memory) (x : Account) : Prop where
  /-- The user of the account is not registered in `m`. -/
  fresh : m.accounts.get? x.user.id = none
  /-- The other accounts are the same. -/
  accounts : ∀ k, m'.accounts.get? k = if k = x.user.id then some x else m.accounts.get? k

namespace Extends

variable {m m' : Memory} {x : Account} {account : Account} {k : Uuid}

theorem get?_of_get? (h : m'.Extends m x) (hk : m.accounts.get? k = some account) :
    m'.accounts.get? k = some account := by
  have hne : k ≠ x.user.id := by
    rintro rfl
    rw [h.fresh] at hk
    cases hk
  rw [h.accounts, if_neg hne, hk]

theorem get?_self (h : m'.Extends m x) : m'.accounts.get? x.user.id = some x := by
  rw [h.accounts, if_pos rfl]

theorem distinct (h : m'.Extends m x) (distinct : m'.Distinct) : m.Distinct :=
  fun k k' a a' hk hk' => distinct k k' a a' (h.get?_of_get? hk) (h.get?_of_get? hk')

/-- **One account more** is found under its own address, where none was found before, and makes no
difference for any other address. -/
theorem findByEmail (h : m'.Extends m x) (distinct : m'.Distinct) (email : String) :
    (m.findByEmail email = none ∧ m'.findByEmail email = some x) ∨
      m'.findByEmail email = m.findByEmail email := by
  by_cases hemail : Text.lowerCase x.user.email = Text.lowerCase (Text.trim email)
  · refine Or.inl ⟨?_, (findByEmail_eq_some_iff distinct).2 ⟨_, h.get?_self, hemail⟩⟩
    rw [Option.eq_none_iff_forall_ne_some]
    intro account hfound
    obtain ⟨k, hk, hsame⟩ := (findByEmail_eq_some_iff (h.distinct distinct)).1 hfound
    obtain rfl := distinct k _ account x (h.get?_of_get? hk) h.get?_self (hsame.trans hemail.symm)
    rw [h.fresh] at hk
    cases hk
  · refine Or.inr (Option.ext fun account => ?_)
    rw [findByEmail_eq_some_iff distinct, findByEmail_eq_some_iff (h.distinct distinct)]
    constructor
    · rintro ⟨k, hk, hsame⟩
      rw [h.accounts] at hk
      split at hk
      · obtain rfl := Option.some.inj hk
        exact absurd hsame hemail
      · exact ⟨k, hk, hsame⟩
    · rintro ⟨k, hk, hsame⟩
      exact ⟨k, h.get?_of_get? hk, hsame⟩

end Extends

end Gatehouse.Memory
