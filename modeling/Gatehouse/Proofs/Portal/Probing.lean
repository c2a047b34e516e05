/-
  Requests that try addresses and passwords.

  A log-in whose password is not that of the account tells why it is refused (`refusal`), and does
  nothing else: it asks the store for the account and leaves the world as it was.  A request for a
  password reset tells nothing.  If there is an account with the address, it draws a secret and adds
  a reset record, or it logs why it could not.

  So all that such requests can show of the accounts is the refusal, and it is the same for an
  address without an account and for an account whose hash was made by the service, since such a
  hash is never an error inside (`refusal_of_made`).  There is one exception: a request for a reset
  is abandoned if there is an account, and random bytes for the token, and the calendar has no date
  for the end of the token (`Late`).
-/
import Gatehouse.Portal
import Gatehouse.Proofs.Password
import Gatehouse.Proofs.Service.Calls
import Gatehouse.Proofs.Store.Account

namespace Gatehouse

/-- From one store to the other only reset records have changed. -/
structure Memory.OnlyResets (m m' : Memory) : Prop where
  /-- The accounts are the same. -/
  accounts : m'.accounts = m.accounts
  /-- The refresh records are the same. -/
  refresh : m'.refresh = m.refresh

namespace Memory.OnlyResets

variable {m m' m'' : Memory}

theorem refl (m : Memory) : m.OnlyResets m := ⟨rfl, rfl⟩

theorem trans (h : m.OnlyResets m') (h' : m'.OnlyResets m'') : m.OnlyResets m'' :=
  ⟨h'.accounts.trans h.accounts, h'.refresh.trans h.refresh⟩

theorem insertReset (m : Memory) (now : Instant) (digest : String) (user : Uuid)
    (expiresAt : Instant) : m.OnlyResets (m.insertReset now digest user expiresAt).2 := by
  unfold Memory.insertReset
  split
  · exact refl m
  · exact ⟨rfl, rfl⟩

theorem distinct (h : m.OnlyResets m') (distinct : m.Distinct) : m'.Distinct := by
  unfold Memory.Distinct
  rw [h.accounts]
  exact distinct

/-- An account more stays an account more. -/
theorem more {n n' : Memory} {x : Account} (h : m.OnlyResets m') (hn : n.OnlyResets n')
    (more : n.Extends m x) : n'.Extends m' x where
  fresh := by
    rw [h.accounts]
    exact more.fresh
  accounts := by
    rw [h.accounts, hn.accounts]
    exact more.accounts

end Memory.OnlyResets

namespace Portal

variable {p : Portal} {email password : String} {client : ClientInfo} {w : World Memory}

/-! ## Log-ins that are refused -/

/-- What a log-in does with the account that it has found. -/
def checkFound (p : Portal) (password : String) (client : ClientInfo) :
    Option Account → Handler TokenPair
  | none => throw (.ofAuth .credential)
  | some account => do
    let verdict := Password.verify password account.passwordHash
    if ← Program.forRequest (MonadExcept.ofExcept verdict) then
      let pair ← (p.service.issueSession account.user.id account.user.role client).forRequest
      (Program.log (.loggedIn account.user.id)).forRequest
      return pair
    else throw (.ofAuth .credential)

/-- Why it is refused, if the password is not that of the account. -/
def rejection (password : String) : Option Account → ApiError
  | none => .ofAuth .credential
  | some account =>
    match Password.verify password account.passwordHash with
    | .error e => .ofAuth e
    | .ok _ => .ofAuth .credential

/-- Why a log-in is refused, if the password is not that of the account that is found. -/
def refusal (email password : String) (found : Option Account) : ApiError :=
  if Text.blank email ∨ password.isEmpty then .validation "Email and password are required"
  else rejection password found

theorem exec_checkFound (p : Portal) (client : ClientInfo) (w : World Memory)
    {found : Option Account}
    (wrong : ∀ account, found = some account →
      Password.verify password account.passwordHash ≠ .ok true) :
    Flow.exec Memory.backend (ExceptT.run (p.checkFound password client found)) w =
      (some (.error (rejection password found)), w) := by
  cases found with
  | none => rfl
  | some account =>
    have hwrong := wrong account rfl
    cases hverify : Password.verify password account.passwordHash with
    | error e =>
      simp only [checkFound, rejection, hverify]
      rfl
    | ok passed =>
      cases passed with
      | true => exact absurd hverify hwrong
      | false =>
        simp only [checkFound, rejection, hverify]
        rfl

/-- **A log-in with a wrong password** is refused, and leaves the world as it was. -/
theorem exec_login (p : Portal) (client : ClientInfo)
    (wrong : ∀ account, w.store.findByEmail email = some account →
      Password.verify password account.passwordHash ≠ .ok true) :
    Flow.exec Memory.backend (ExceptT.run (p.login email password client)) w =
      (some (.error (refusal email password (w.store.findByEmail email))), w) := by
  unfold login refusal
  by_cases h : Text.blank email = true ∨ password.isEmpty = true
  · rw [if_pos h, if_pos h]
    rfl
  · rw [if_neg h, if_neg h]
    -- the store is asked for the account, and stays as it was
    have hlog : w.log ++ w.store.events w.now (.findByEmail email) = w.log :=
      List.append_nil w.log
    have hchecked := exec_checkFound p client w wrong
    refine Eq.trans ?_ hchecked
    show Flow.exec Memory.backend _
      { w with log := w.log ++ w.store.events w.now (.findByEmail email) } = _
    rw [hlog]
    cases w.store.findByEmail email with
    | none => rfl
    | some account => rfl

/-- **A hash that was made by the service** refuses a wrong password as an unknown address. -/
theorem refusal_of_made {account : Account} {salt : Vector UInt8 16} {made : String}
    (hhash : account.passwordHash = Password.hashWith salt.toList made) (email password : String) :
    refusal email password (some account) = refusal email password none := by
  have hverify : ∃ passed, Password.verify password account.passwordHash = .ok passed := by
    rw [hhash, Password.hashWith_eq]
    exact ⟨_, Password.verify_attempt salt.length_toList (by decide) made password⟩
  obtain ⟨passed, hpassed⟩ := hverify
  simp only [refusal, rejection, hpassed]

/-! ## Requests for a reset -/

/-- There are random bytes for a reset token, but the calendar has no date for its end. -/
def Late (w : World Memory) : Prop :=
  (w.secret? Secret.resetLength).isSome = true ∧ w.now.plus? resetLifetime = none

theorem exec_keepReset (user : Uuid) (secret : Secret) (expiresAt : Instant) (w : World Memory) :
    ∃ outcome after, (Service.keepReset user secret expiresAt).exec Memory.backend w =
      (some outcome, after) ∧ w.store.OnlyResets after.store := by
  have honly := Memory.OnlyResets.insertReset w.store w.now secret.digest user expiresAt
  have hask := Program.exec_ask Memory.backend w (.insertReset secret.digest user expiresAt)
  unfold Service.keepReset
  rw [Program.exec_bind, show Program.exec Memory.backend (α := Unit) _ w = _ from hask]
  cases hreply : (Memory.backend (.insertReset secret.digest user expiresAt) w.now w.store).1 with
  | error e => exact ⟨_, _, rfl, honly⟩
  | ok u => exact ⟨_, _, rfl, honly⟩

/-- Issuing a reset token is abandoned exactly if it is late. -/
theorem exec_createPasswordReset (user : Uuid) (w : World Memory) :
    ∃ outcome after, (Service.createPasswordReset user).exec Memory.backend w = (outcome, after) ∧
      (outcome = none ↔ Late w) ∧ w.store.OnlyResets after.store := by
  rw [Service.createPasswordReset_eq, Service.withSecret, Program.exec_bind]
  rcases Service.exec_generate Memory.backend Service.resetLength_ne_zero w with
    ⟨secret, hsecret, hgenerate⟩ | ⟨hsecret, e, hgenerate⟩
  · cases hend : w.now.plus? resetLifetime with
    | none =>
      simp only [hgenerate, Program.exec_bind, Program.exec_now, hend, Program.exec_orAbort_none]
      exact ⟨_, _, rfl, by simp [Late, hsecret, hend], .refl _⟩
    | some expiresAt =>
      simp only [hgenerate, Program.exec_bind, Program.exec_now, hend, Program.exec_orAbort_some]
      obtain ⟨outcome, after, hkeep, honly⟩ :=
        exec_keepReset user secret expiresAt { w with drawn := w.drawn + 1 }
      exact ⟨_, after, hkeep, by simp [Late, hend], honly⟩
  · rw [hgenerate]
    exact ⟨_, _, rfl, by simp [Late, hsecret], .refl _⟩

/-- **A request for a reset** ends in the same way whatever it finds, unless it is late: then it is
abandoned if it finds an account. -/
theorem exec_forgotPassword (p : Portal) (email : String) (w : World Memory) :
    ∃ outcome after, Flow.exec Memory.backend (p.forgotPassword email) w = (outcome, after) ∧
      (outcome = none ↔ (w.store.findByEmail email).isSome = true ∧ Late w) ∧
      w.store.OnlyResets after.store := by
  -- the store is asked for the account, and stays as it was
  let asked : World Memory :=
    { w with log := w.log ++ w.store.events w.now (.findByEmail email) }
  have hask : Flow.exec Memory.backend (ExceptT.run (Program.ask (.findByEmail email))) w =
      (some (.ok (w.store.findByEmail email)), asked) := rfl
  unfold forgotPassword
  show ∃ outcome after, Flow.exec Memory.backend (Flow.bind _ _) w = _ ∧ _
  rw [Flow.exec_bind, hask]
  cases w.store.findByEmail email with
  | none => exact ⟨_, asked, rfl, by simp, .refl _⟩
  | some account =>
    obtain ⟨outcome, after, hreset, hlate, honly⟩ :=
      exec_createPasswordReset account.user.id asked
    have hlate : outcome = none ↔ Late w := hlate
    have hcreate : Flow.exec Memory.backend
        (ExceptT.run (Service.createPasswordReset account.user.id)) asked =
          (outcome, after) := hreset
    show ∃ outcome after, Flow.exec Memory.backend (Flow.bind _ _) asked = _ ∧ _
    rw [Flow.exec_bind, hcreate]
    cases outcome with
    | none => exact ⟨_, after, rfl, by simpa using hlate, honly⟩
    | some result =>
      cases result with
      | error e => exact ⟨_, _, rfl, by simpa using hlate, honly⟩
      | ok token => exact ⟨_, _, rfl, by simpa using hlate, honly⟩

end Portal

end Gatehouse
