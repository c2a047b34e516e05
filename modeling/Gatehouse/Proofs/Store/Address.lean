/-
  Who is found under an address.

  Accounts stand under identifiers, and nothing in the store looks at the address of a user who is
  registered.  A lookup goes by the address all the same: it trims the text it is given, takes it to
  lower case, and gives the first account in the order of the table whose own address is the same in
  lower case.  Two things follow, in every state that a run of the store reaches.

  * The blanks around a registered address are never cut off, and a trimmed text has none.  So an
    address with blanks around it is out of reach: no text finds its user.
  * Where several users have the same address, the order of the table decides which of them is
    found.

  Nothing else goes wrong.  A user is found in every order of the accounts, and for every text that
  agrees with the address of the user up to blanks and case, exactly when the address is trimmed and
  nobody else has it; and whoever is found has the address that was asked for
  (`findsOwner_iff_run`).
-/
import Gatehouse.Proofs.Store.Account
import Gatehouse.Proofs.Text.LowerCase

namespace Gatehouse.Memory

variable {m m' : Memory} {k : Uuid} {account : Account} {email : String}

/-! ## Addresses and orders -/

/-- The two texts agree as addresses, up to blanks around them and case. -/
def SameAddress (a b : String) : Prop :=
  Text.lowerCase (Text.trim a) = Text.lowerCase (Text.trim b)

/-- `m.Reordered m'` — the same store, with its accounts in some order. -/
structure Reordered (m m' : Memory) : Prop where
  /-- The accounts are the same. -/
  order : m'.accounts.entries.Perm m.accounts.entries
  /-- So is everything else. -/
  rest : m' = { m with accounts := m'.accounts }

/-- In whatever order the accounts stand, every text that agrees with the address of the account
finds the account. -/
def FindsOwner (m : Memory) (account : Account) : Prop :=
  ∀ m', m.Reordered m' → ∀ email, SameAddress email account.user.email →
    m'.findByEmail email = some account

/-- No account but the one of the user `k` has this address, case ignored. -/
def SoleHolder (m : Memory) (k : Uuid) (address : String) : Prop :=
  ∀ k' account', m.accounts.get? k' = some account' →
    Text.lowerCase account'.user.email = Text.lowerCase address → k' = k

theorem Reordered.refl (m : Memory) : m.Reordered m := ⟨.refl _, rfl⟩

theorem Reordered.get?_eq (h : m.Reordered m') (k : Uuid) :
    m'.accounts.get? k = m.accounts.get? k :=
  Table.get?_of_perm h.order k

/-! ## What a lookup can find -/

/-- A lookup finds somebody if anybody has the address. -/
theorem isSome_findByEmail (h : m.accounts.get? k = some account)
    (hemail : Text.lowerCase account.user.email = Text.lowerCase (Text.trim email)) :
    (m.findByEmail email).isSome = true := by
  rw [findByEmail, List.find?_isSome]
  exact ⟨account, Table.mem_values_of_get? h, decide_eq_true hemail⟩

/-- Some order puts a given holder of the address in front. -/
theorem exists_reordered_findByEmail (h : m.accounts.get? k = some account)
    (hemail : Text.lowerCase account.user.email = Text.lowerCase (Text.trim email)) :
    ∃ m', m.Reordered m' ∧ m'.findByEmail email = some account := by
  obtain ⟨accounts, horder, rest, hvalues⟩ := Table.exists_values_eq_cons h
  refine ⟨{ m with accounts }, ⟨horder, rfl⟩, ?_⟩
  rw [findByEmail, hvalues]
  exact List.find?_cons_of_pos (decide_eq_true hemail)

/-- **Who can be found.**  In some order of the accounts a text finds an account exactly when the
account has the trimmed text as its address, case ignored. -/
theorem exists_findByEmail_iff (keyed : m.Keyed) :
    (∃ m', m.Reordered m' ∧ m'.findByEmail email = some account) ↔
      m.accounts.get? account.user.id = some account ∧
        Text.lowerCase account.user.email = Text.lowerCase (Text.trim email) := by
  constructor
  · rintro ⟨m', hm', hfound⟩
    obtain ⟨k, hk, hemail⟩ := exists_of_findByEmail hfound
    rw [hm'.get?_eq] at hk
    exact ⟨keyed k account hk ▸ hk, hemail⟩
  · rintro ⟨hk, hemail⟩
    exact exists_reordered_findByEmail hk hemail

/-- An address with blanks around it is out of reach. -/
theorem findByEmail_ne_of_untrimmed (h : Text.trim account.user.email ≠ account.user.email)
    (m : Memory) (email : String) : m.findByEmail email ≠ some account := by
  intro hfound
  obtain ⟨-, -, hemail⟩ := exists_of_findByEmail hfound
  exact h (Text.exists_lowerCase_trim_iff.1 ⟨email, hemail⟩)

/-- A trimmed address that nobody else has finds its owner. -/
theorem findsOwner_of_soleHolder (h : m.accounts.get? k = some account)
    (trimmed : Text.trim account.user.email = account.user.email)
    (sole : m.SoleHolder k account.user.email) : m.FindsOwner account := by
  intro m' hm' email hsame
  have hemail : Text.lowerCase account.user.email = Text.lowerCase (Text.trim email) := by
    rw [hsame, trimmed]
  obtain ⟨found, hfound⟩ := Option.isSome_iff_exists.1
    (isSome_findByEmail ((hm'.get?_eq k).trans h) hemail)
  obtain ⟨k', hk', hemail'⟩ := exists_of_findByEmail hfound
  rw [hm'.get?_eq] at hk'
  obtain rfl := sole k' found hk' (hemail'.trans hemail.symm)
  rw [hfound, ← hk', h]

/-- **When a user is found under the own address**: the address is trimmed, and nobody else has
it. -/
theorem findsOwner_iff (keyed : m.Keyed) (h : m.accounts.get? k = some account) :
    m.FindsOwner account ↔
      Text.trim account.user.email = account.user.email ∧
        m.SoleHolder k account.user.email := by
  refine ⟨fun finds => ?_, fun ⟨trimmed, sole⟩ => findsOwner_of_soleHolder h trimmed sole⟩
  have trimmed : Text.trim account.user.email = account.user.email := by
    by_contra untrimmed
    exact findByEmail_ne_of_untrimmed untrimmed m account.user.email
      (finds m (.refl m) account.user.email rfl)
  refine ⟨trimmed, fun k' account' hk' hsame => ?_⟩
  -- with another holder of the address in front, the lookup finds that one
  have hemail : Text.lowerCase account'.user.email =
      Text.lowerCase (Text.trim account.user.email) := by
    rw [trimmed, hsame]
  obtain ⟨m', hm', hfound⟩ := exists_reordered_findByEmail hk' hemail
  have hsameAccount : account' = account :=
    Option.some.inj (hfound.symm.trans (finds m' hm' account.user.email rfl))
  rw [← keyed k' account' hk', hsameAccount, keyed k account h]

/-- Of two users with one address the second stays hidden behind the first. -/
example :
    (run {} [⟨0, .register ⟨.ofNat 1, "a@example.org", none, "learner"⟩ "x"⟩,
      ⟨0, .register ⟨.ofNat 2, "A@example.org", none, "learner"⟩ "x"⟩]).findByEmail
        "A@example.org" =
      some ⟨⟨.ofNat 1, "a@example.org", none, "learner"⟩, "x"⟩ := by
  decide +kernel

/-! ## Runs -/

/-- **Finding users by their addresses, over all runs.**  A registered user is found, in whatever
order the accounts stand and by every text that agrees with the address of the user, exactly when
the address is trimmed and nobody else has it.  With blanks around it, the address finds its user in
no order and by no text.  And the accounts that a text can find are those that have the trimmed text
as their address, case ignored. -/
theorem findsOwner_iff_run (steps : List Step) :
    let m := run {} steps
    (∀ k account, m.accounts.get? k = some account →
      (m.FindsOwner account ↔
        Text.trim account.user.email = account.user.email ∧
          m.SoleHolder k account.user.email) ∧
      (Text.trim account.user.email ≠ account.user.email →
        ∀ m', m.Reordered m' → ∀ email, m'.findByEmail email ≠ some account)) ∧
    ∀ email account,
      (∃ m', m.Reordered m' ∧ m'.findByEmail email = some account) ↔
        m.accounts.get? account.user.id = some account ∧
          Text.lowerCase account.user.email = Text.lowerCase (Text.trim email) := by
  have keyed : (run {} steps).Keyed := keyed_run keyed_empty steps
  refine ⟨fun k account h => ⟨findsOwner_iff keyed h, fun untrimmed m' _ email => ?_⟩,
    fun email account => exists_findByEmail_iff keyed⟩
  exact findByEmail_ne_of_untrimmed untrimmed m' email

/-- Two users with addresses of their own, one of whom gets another role and another password. -/
def neighbours : List Step :=
  [⟨0, .register ⟨.ofNat 1, "ada@example.org", none, "learner"⟩ "x"⟩,
    ⟨0, .register ⟨.ofNat 2, "Bob@Example.org", none, "learner"⟩ "x"⟩,
    ⟨0, .setRole (.ofNat 2) "teacher"⟩,
    ⟨0, .call (.setPassword (.ofNat 2) "y")⟩]

theorem findsOwner_iff_run_neighbours :
    ∀ m', (run {} neighbours).Reordered m' →
      m'.findByEmail " BOB@example.org " =
        some ⟨⟨.ofNat 2, "Bob@Example.org", none, "teacher"⟩, "y"⟩ := by
  have hsole : ∀ e ∈ (run {} neighbours).accounts.entries,
      Text.lowerCase e.2.user.email = Text.lowerCase "Bob@Example.org" → e.1 = .ofNat 2 := by
    decide +kernel
  have hbob : (run {} neighbours).accounts.get? (.ofNat 2) =
      some ⟨⟨.ofNat 2, "Bob@Example.org", none, "teacher"⟩, "y"⟩ := by
    decide +kernel
  intro m' hm'
  refine (((findsOwner_iff_run neighbours).1 _ _ hbob).1.2 ⟨by decide +kernel, ?_⟩) m' hm' _ ?_
  · exact fun k' account' hk' => hsole (k', account') (Table.get?_eq_some_iff.1 hk')
  · show Text.lowerCase (Text.trim " BOB@example.org ") =
      Text.lowerCase (Text.trim "Bob@Example.org")
    decide +kernel

/-- A user with blanks around the address, and nobody else. -/
def padded : List Step := [⟨0, .register ⟨.ofNat 1, " a@example.org ", none, "learner"⟩ "x"⟩]

/-- It is not so that every registered user is found: not even the very text that was registered
finds the only user there is. -/
theorem not_always_findsOwner :
    ¬ ∀ (steps : List Step) (k : Uuid) (account : Account),
      (run {} steps).accounts.get? k = some account → (run {} steps).FindsOwner account := by
  intro always
  have hnone : (run {} padded).findByEmail " a@example.org " = none := by decide +kernel
  have hstored : (run {} padded).accounts.get? (.ofNat 1) =
      some ⟨⟨.ofNat 1, " a@example.org ", none, "learner"⟩, "x"⟩ := by
    decide +kernel
  have hfound := always padded _ _ hstored _ (.refl _) " a@example.org " rfl
  rw [hnone] at hfound
  cases hfound

end Gatehouse.Memory
