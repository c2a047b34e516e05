/-
  Which sessions are open after a password reset.

  A reset changes the password of its user and closes the sessions of that user, in two calls to the
  store.  Log-ins and refreshes may come between them and after them.  A session of the user that is
  open later was opened by a log-in whose token was stored after the sessions were closed
  (`Store/Descent`).  That log-in read the account before, in a call of its own, so one of two
  things is the case (`open_after_reset`):

  1. it read the account after the password was changed, and the password passed the new hash;
  2. it read the account before that, and stored the token after the sessions were closed.

  The second does happen (`old_password_survives_reset`): a log-in with the old password that is
  under way while the reset goes through leaves a session that the reset does not end.
-/
import Gatehouse.Proofs.Password
import Gatehouse.Proofs.Portal.PasswordReset
import Gatehouse.Proofs.Store.Account
import Gatehouse.Proofs.Store.Descent

namespace Gatehouse.Portal

open Relation

variable {ι : Type} [DecidableEq ι] {p : Portal} {es : List Exchange}

/-! ## What the requests of a session say -/

/-- The request opens a session, or it replaces the tokens of one. -/
def Request.OfSession : Request → Prop
  | .login .. | .refresh .. => True
  | _ => False

/-- No such request revokes one token or changes a password. -/
theorem call_ne_of_session {r : Request} (hr : r.OfSession) (h : (r.program p).Says es)
    {e : Exchange} (he : e ∈ es) :
    (∀ digest replacedBy, e.call ≠ .revoke digest replacedBy) ∧
      ∀ user hash, e.call ≠ .setPassword user hash := by
  cases r with
  | login email password client =>
    cases loginTalk h with
    | silent => simp at he
    | asked reply =>
      obtain rfl := List.mem_singleton.1 he
      exact ⟨by simp, by simp⟩
    | stored account digest expiresAt reply passed =>
      rcases List.mem_cons.1 he with rfl | he
      · exact ⟨by simp, by simp⟩
      · obtain rfl := List.mem_singleton.1 he
        exact ⟨by simp, by simp⟩
  | refresh token client =>
    cases refreshTalk h with
    | silent => simp at he
    | presented new expiresAt reply =>
      obtain rfl := List.mem_singleton.1 he
      exact ⟨by simp, by simp⟩
  | _ => exact hr.elim

/-- Only a log-in issues a token anew, and what it said before is known then. -/
theorem exists_login_of_insertRefresh {r : Request} (hr : r.OfSession)
    (h : (r.program p).Says es) {e : Exchange} (he : e ∈ es) {digest : String} {user : Uuid}
    {expiresAt : Instant} {client : ClientInfo}
    (hcall : e.call = .insertRefresh digest user expiresAt client) :
    ∃ email password account reply, r = .login email password client ∧
      Password.verify password account.passwordHash = .ok true ∧ account.user.id = user ∧
      e = ⟨.insertRefresh digest user expiresAt client, reply⟩ ∧
      es = [⟨.findByEmail email, .ok (some account)⟩, e] := by
  cases r with
  | login email password client' =>
    cases loginTalk h with
    | silent => simp at he
    | asked reply =>
      obtain rfl := List.mem_singleton.1 he
      cases hcall
    | stored account digest' expiresAt' reply passed =>
      rcases List.mem_cons.1 he with rfl | he
      · cases hcall
      · obtain rfl := List.mem_singleton.1 he
        cases hcall
        exact ⟨email, password, account, reply, rfl, passed, rfl, rfl, rfl⟩
  | refresh token client' =>
    cases refreshTalk h with
    | silent => simp at he
    | presented new expiresAt' reply =>
      obtain rfl := List.mem_singleton.1 he
      cases hcall
  | _ => exact hr.elim

theorem ends_program_of_reset {r : Request} {token password confirmation : String}
    (hr : r = .resetPassword token password confirmation) {reply : r.Reply}
    (h : (r.program p).Ends es (.ok reply)) :
    ∃ (user : Uuid) (salt : Vector UInt8 16),
      es = [⟨.consumeReset (digestToken token), .ok user⟩,
        ⟨.setPassword user (Password.hashWith salt.toList password), .ok ()⟩,
        ⟨.revokeAll user, .ok ()⟩] := by
  subst hr
  exact ends_resetPassword h

/-! ## Sessions after a reset -/

/-- The log-in `i` read the account, its password passed the hash, and it stored the token with the
digest for the user of the account. -/
def OpenedWith (requests : ι → Request) (deeds : List (Deed ι)) (i : ι) (account : Account)
    (digest : String) : Prop :=
  ∃ email password client expiresAt reply, requests i = .login email password client ∧
    Password.verify password account.passwordHash = .ok true ∧
    said i deeds = [⟨.findByEmail email, .ok (some account)⟩,
      ⟨.insertRefresh digest account.user.id expiresAt client, reply⟩]

/-- The log-in `i` read the account before the reset `i₀` changed the password of the user, and it
stored the token after the reset had closed the sessions of the user. -/
def Overtaken (deeds : List (Deed ι)) (i i₀ : ι) (account : Account) (digest : String)
    (user : Uuid) (hash : String) : Prop :=
  ∃ email expiresAt client reply t₁ t₂ t₃ t₄,
    [.exchanged i t₁ ⟨.findByEmail email, .ok (some account)⟩,
      .exchanged i₀ t₂ ⟨.setPassword user hash, .ok ()⟩,
      .exchanged i₀ t₃ ⟨.revokeAll user, .ok ()⟩,
      .exchanged i t₄ ⟨.insertRefresh digest user expiresAt client, reply⟩].Sublist deeds

/-- Of two different things at two places of a list one comes first. -/
theorem order_of_split {γ : Type} {p q : γ} {a b x y : List γ} (h : a ++ p :: b = x ++ q :: y)
    (hne : p ≠ q) :
    (∃ c, b = c ++ q :: y) ∨ ∃ c, a = x ++ q :: c ∧ y = c ++ p :: b := by
  rcases List.append_eq_append_iff.1 h with ⟨c, -, hc⟩ | ⟨c, ha, hc⟩
  · cases c with
    | nil => exact absurd (List.cons.inj hc).1 hne
    | cons d c => exact Or.inl ⟨c, (List.cons.inj hc).2⟩
  · cases c with
    | nil => exact absurd (List.cons.inj hc).1.symm hne
    | cons d c =>
      obtain ⟨rfl, hy⟩ := List.cons.inj hc
      exact Or.inr ⟨c, ha, hy⟩

/-- Four things that stand in a list one after another. -/
theorem sublist_of_split {γ : Type} (a b c d : γ) (u v w x y : List γ) :
    [a, b, c, d].Sublist (u ++ a :: (v ++ b :: (w ++ c :: (x ++ d :: y)))) := by
  have front {l m : List γ} (u : List γ) (a : γ) (h : l.Sublist m) :
      (a :: l).Sublist (u ++ a :: m) :=
    (h.cons_cons a).trans (List.sublist_append_right u (a :: m))
  exact front u a (front v b (front w c (front x d (List.nil_sublist y))))

/-- Where the two calls of a reset that matter to the sessions stand. -/
theorem timeline {deeds : List (Deed ι)} {i₀ : ι} {e change close : Exchange}
    (h : said i₀ deeds = [e, change, close]) :
    ∃ x t z t' w, deeds = x ++ .exchanged i₀ t change :: (z ++ .exchanged i₀ t' close :: w) ∧
      said i₀ (z ++ .exchanged i₀ t' close :: w) = [close] ∧ said i₀ w = [] := by
  obtain ⟨x, t₁, rest, rfl, -, hrest⟩ := exists_of_said_eq_cons h
  obtain ⟨y, t, rest, rfl, -, hclose⟩ := exists_of_said_eq_cons hrest
  obtain ⟨z, t', w, rfl, -, hw⟩ := exists_of_said_eq_cons hclose
  exact ⟨x ++ .exchanged i₀ t₁ e :: y, t, z, t', w, by simp, hclose, hw⟩

/-- What was said while a party is silent was said by another. -/
theorem ne_of_silent {w : List (Deed ι)} {i i₀ : ι} {t : Instant} {e : Exchange}
    (silent : said i₀ w = []) (hd : .exchanged i t e ∈ w) : i ≠ i₀ := by
  rintro rfl
  have hin : e ∈ said i w := mem_said.2 ⟨t, hd⟩
  rw [silent] at hin
  exact List.not_mem_nil hin

/-- Besides the request `i₀` only requests of sessions spoke to the store. -/
structure Undisturbed (i₀ : ι) (deeds : List (Deed ι)) : Prop where
  exchanged : ∀ d ∈ deeds, ∃ i t e, d = .exchanged i t e
  spared : ∀ {i t e}, .exchanged i t e ∈ deeds → i ≠ i₀ →
    (∀ digest replacedBy, e.call ≠ .revoke digest replacedBy) ∧
      ∀ user hash, e.call ≠ .setPassword user hash

namespace Undisturbed

variable {deeds w : List (Deed ι)} {i₀ : ι}

/-- While `i₀` is silent no token is revoked on its own. -/
theorem plain (h : Undisturbed i₀ deeds) (hw : w ⊆ deeds) (silent : said i₀ w = []) :
    ∀ d ∈ w, d.step.Plain := by
  intro d hd
  obtain ⟨i, t, e, rfl⟩ := h.exchanged d (hw hd)
  have hspared := (h.spared (hw hd) (ne_of_silent silent hd)).1
  refine ⟨fun digest new hop => ?_, fun digest expiresAt hop => by cases hop⟩
  exact hspared digest (some new) (Memory.Operation.call.inj hop)

/-- While `i₀` only closes the sessions of a user no password is changed. -/
theorem keeps_passwords (h : Undisturbed i₀ deeds) (hw : w ⊆ deeds) {user : Uuid}
    {reply : Except AuthError Unit} (closes : ∀ e ∈ said i₀ w, e = ⟨.revokeAll user, reply⟩) :
    ∀ d ∈ w, ∃ i t e, d = .exchanged i t e ∧ ∀ user hash, e.call ≠ .setPassword user hash := by
  intro d hd
  obtain ⟨i, t, e, rfl⟩ := h.exchanged d (hw hd)
  refine ⟨i, t, e, rfl, ?_⟩
  by_cases hi : i = i₀
  · obtain rfl := closes e (mem_said.2 ⟨t, hi ▸ hd⟩)
    simp
  · exact (h.spared (hw hd) hi).2

end Undisturbed

section Reset

variable {α : ι → Type} {start after : Pool ι α}

/-- An account that is read after its password was changed has the new hash, if no other password
was changed since. -/
theorem passwordHash_of_read (accounts : Pool.Accounts start after)
    (keyed : start.world.store.Keyed) {x y z : List (Deed ι)} {i i₀ : ι} {t t' : Instant}
    {account : Account} {hash email : String}
    (hdeeds : after.deeds =
      x ++ .exchanged i₀ t ⟨.setPassword account.user.id hash, .ok ()⟩ :: (y ++
        .exchanged i t' ⟨.findByEmail email, .ok (some account)⟩ :: z))
    (hy : ∀ d ∈ y, ∃ i t e, d = .exchanged i t e ∧ ∀ user hash, e.call ≠ .setPassword user hash) :
    account.passwordHash = hash := by
  have hchange := accounts.reply hdeeds
  have hread := accounts.reply (hdeeds.trans (List.append_assoc x (_ :: y) _).symm)
  have hkeyed := Memory.keyed_run keyed ((x ++
    .exchanged i₀ t ⟨.setPassword account.user.id hash, .ok ()⟩ :: y).map Deed.step)
  rw [List.map_append, Memory.run_append, List.map_cons, Memory.run_cons] at hread hkeyed
  generalize start.world.store.run (x.map Deed.step) = m at hchange hread hkeyed
  -- nothing touches the accounts between the change and the reading
  have hsame : ∀ s ∈ y.map Deed.step, ∃ call, s.operation = .call call ∧
      ∀ user hash, call ≠ .setPassword user hash := by
    intro s hs
    obtain ⟨d, hd, rfl⟩ := List.mem_map.1 hs
    obtain ⟨j, t, e, rfl, hcall⟩ := hy d hd
    exact ⟨e.call, rfl, hcall⟩
  obtain ⟨old, -, hnew⟩ := Memory.get?_setPassword hchange.symm
  have hfound := Memory.get?_of_findByEmail hkeyed (Except.ok.inj hread).symm
  rw [Memory.accounts_run hsame] at hfound
  rw [← Option.some.inj (hnew.symm.trans hfound)]

/-- A session of the user that is open after the sessions were closed descends from a token that was
stored since. -/
theorem exists_stored_of_open (accounts : Pool.Accounts start after)
    (links : start.world.store.LinksRevoked) {x w : List (Deed ι)} {i₀ : ι} {t : Instant}
    {user : Uuid} {reply : Except AuthError Unit}
    (hdeeds : after.deeds = x ++ .exchanged i₀ t ⟨.revokeAll user, reply⟩ :: w)
    (plain : ∀ d ∈ w, d.step.Plain) {k : String} {r : RefreshRecord Nat}
    (hr : after.world.store.refresh.get? k = some r) (howner : r.user = user)
    (hopen : r.revoked = false) :
    ∃ w₁ d w₂ now digest expiresAt client, w = w₁ ++ d :: w₂ ∧
      d.step = ⟨now, .call (.insertRefresh digest user expiresAt client)⟩ ∧
      ReflTransGen (Memory.Succeeds after.world.store.refresh) digest k := by
  have hstore := accounts.store
  rw [hdeeds, List.map_append, List.map_cons, Memory.run_append, Memory.run_cons] at hstore
  have hlinks := Memory.linksRevoked_run links (x.map Deed.step)
  generalize start.world.store.run (x.map Deed.step) = m at hstore hlinks
  have hplain : ∀ s ∈ w.map Deed.step, s.Plain := by
    intro s hs
    obtain ⟨d, hd, rfl⟩ := List.mem_map.1 hs
    exact plain d hd
  have hclosed : (m.perform ⟨t, .call (.revokeAll user)⟩).Closed user := m.closed_revokeAll user
  rw [hstore] at hr ⊢
  obtain ⟨first, now, digest, expiresAt, client, rest, hsteps, hchain⟩ :=
    Memory.exists_issue_of_open (Memory.linksRevoked_perform hlinks _) hclosed hplain hr howner
      hopen
  obtain ⟨w₁, w', rfl, -, hrest⟩ := List.map_eq_append_iff.1 hsteps
  obtain ⟨d, w₂, rfl, hd, -⟩ := List.map_eq_cons_iff.1 hrest
  exact ⟨w₁, d, w₂, now, digest, expiresAt, client, rfl, hd, hchain⟩

end Reset

/-- **After a password reset** every open session of the user descends from a log-in whose password
passed the hash of the account that it read; and that account has the new hash, or else the log-in
read it before the password was changed and stored its token after the sessions were closed. -/
theorem open_after_reset (p : Portal) (requests : ι → Request) {i₀ : ι}
    {token password confirmation : String}
    (reset : requests i₀ = .resetPassword token password confirmation)
    (others : ∀ i, i ≠ i₀ → (requests i).OfSession) (before : List Memory.Step)
    {world : World Memory} (hworld : world.store = .run {} before) (turns : List (Turn ι))
    (among : ∀ operation, .other operation ∉ turns)
    {after : Pool ι fun i => Except ApiError (requests i).Reply}
    (run : (Request.start p requests world).run turns = after) {reply : (requests i₀).Reply}
    (finished : after.flows i₀ = .done (.ok reply)) :
    ∃ (user : Uuid) (salt : Vector UInt8 16),
      said i₀ after.deeds = [⟨.consumeReset (digestToken token), .ok user⟩,
        ⟨.setPassword user (Password.hashWith salt.toList password), .ok ()⟩,
        ⟨.revokeAll user, .ok ()⟩] ∧
      ∀ k r, after.world.store.refresh.get? k = some r → r.user = user → r.revoked = false →
        ∃ i account digest, OpenedWith requests after.deeds i account digest ∧
          account.user.id = user ∧
          ReflTransGen (Memory.Succeeds after.world.store.refresh) digest k ∧
          (account.passwordHash = Password.hashWith salt.toList password ∨
            Overtaken after.deeds i i₀ account digest user
              (Password.hashWith salt.toList password)) := by
  have accounts : Pool.Accounts (Request.start p requests world) after :=
    run ▸ Pool.accounts_run (fun i => (requests i).program p) world turns
  have talk (i : ι) : ((requests i).program p).Says (said i after.deeds) := accounts.says_said i
  obtain ⟨user, salt, hsaid⟩ := ends_program_of_reset reset (accounts.ends_said finished)
  refine ⟨user, salt, hsaid, fun k r hr howner hopen => ?_⟩
  generalize Password.hashWith salt.toList password = hash at hsaid ⊢
  have undisturbed : Undisturbed i₀ after.deeds :=
    ⟨fun d hd => Pool.exchanged_of_mem_run (by simp [Request.start]) among (run ▸ hd),
      fun hd hi => call_ne_of_session (others _ hi) (talk _) (mem_said.2 ⟨_, hd⟩)⟩
  obtain ⟨x, t₂, z, t₃, w, hchange, hrest, hw⟩ := timeline hsaid
  have hclose : after.deeds = (x ++ .exchanged i₀ t₂ ⟨.setPassword user hash, .ok ()⟩ :: z) ++
      .exchanged i₀ t₃ ⟨.revokeAll user, .ok ()⟩ :: w := by
    rw [hchange, List.append_assoc]
    rfl
  -- the token from which the open session descends
  have hstart : (Request.start p requests world).world.store = Memory.run {} before := hworld
  have hafter : w ⊆ after.deeds := fun d hd => by simp [hclose, hd]
  have plain := undisturbed.plain hafter hw
  have links := hstart ▸ Memory.linksRevoked_run Memory.linksRevoked_empty before
  obtain ⟨w₁, d, w₂, now, digest, expiresAt, client, rfl, hd, hchain⟩ :=
    exists_stored_of_open accounts links hclose plain hr howner hopen
  -- the log-in that stored it
  obtain ⟨i, t₄, e, rfl⟩ := undisturbed.exchanged d (hafter (by simp))
  have hcall : e.call = .insertRefresh digest user expiresAt client :=
    Memory.Operation.call.inj (congrArg Memory.Step.operation hd)
  have hi : i ≠ i₀ := ne_of_silent hw (List.mem_append_right w₁ List.mem_cons_self)
  obtain ⟨email, password', account, reply', hlogin, passed, rfl, rfl, hsaid'⟩ :=
    exists_login_of_insertRefresh (others i hi) (talk i)
      (mem_said.2 ⟨t₄, hafter (by simp)⟩) hcall
  refine ⟨i, account, digest, ⟨email, password', client, expiresAt, reply', hlogin, passed, hsaid'⟩,
    rfl, hchain, ?_⟩
  -- it read the account before the password was changed, or after
  obtain ⟨a, t₁, b, hread, -, -⟩ := exists_of_said_eq_cons hsaid'
  rcases order_of_split (hread.symm.trans hchange) (by simp [hi]) with ⟨c, rfl⟩ | ⟨c, -, hc⟩
  · refine Or.inr ⟨email, expiresAt, client, reply', t₁, t₂, t₃, t₄, ?_⟩
    rw [hread]
    exact sublist_of_split _ _ _ _ a c z w₁ w₂
  · have closes : ∀ e ∈ said i₀ c, e = ⟨.revokeAll account.user.id, .ok ()⟩ := by
      intro e he
      rw [hc, said_append] at hrest
      exact List.mem_singleton.1 (hrest ▸ List.mem_append_left _ he)
    have hkeyed := hstart ▸ Memory.keyed_run Memory.keyed_empty before
    have hbetween : c ⊆ after.deeds := fun d hd => by simp [hchange, hc, hd]
    exact Or.inl (passwordHash_of_read accounts hkeyed (by rw [hchange, hc])
      (undisturbed.keeps_passwords hbetween closes))

/-! ## A log-in that is overtaken -/

/-- What a log-in does once the password has passed the hash of the account. -/
def openFor (p : Portal) (account : Account) (client : ClientInfo) : Handler TokenPair := do
  let pair ← (p.service.issueSession account.user.id account.user.role client).forRequest
  (Program.log (.loggedIn account.user.id)).forRequest
  return pair

/-- The first request of a log-in reads the account; if the password passes its hash, the rest does
not look at the account again. -/
theorem step_login {email password : String} (hemail : Text.blank email = false)
    (hpassword : password.isEmpty = false) {w : World Memory} {account : Account}
    (found : w.store.findByEmail email = some account)
    (passed : Password.verify password account.passwordHash = .ok true) (client : ClientInfo) :
    Flow.step Memory.backend (ExceptT.run (p.login email password client)) w =
      ⟨ExceptT.run (openFor p account client), w,
        some ⟨.findByEmail email, .ok (some account)⟩⟩ := by
  have hguard : ¬ (Text.blank email = true ∨ password.isEmpty = true) := by
    simp [hemail, hpassword]
  have hlog : w.log ++ w.store.events w.now (.findByEmail email) = w.log := List.append_nil w.log
  unfold login
  rw [if_neg hguard]
  show Flow.Progress.mk _ _ _ = _
  rw [found, hlog]
  refine congrArg (fun rest => Flow.Progress.mk rest w _) ?_
  show (ExceptT.run (MonadExcept.ofExcept
    (Password.verify password account.passwordHash) : Program Bool).forRequest).bind _ = _
  rw [passed]
  rfl

/-- An account whose hash is of an older version, with a reset token. -/
def oldAccount : Account :=
  ⟨⟨.ofNat 1, "a@example.org", none, "learner"⟩,
    Password.hashOf 'a' (.replicate 16 0) "old password"⟩

/-- The store with the account and the reset token. -/
def oldStore : Memory :=
  .run {} [⟨0, .register oldAccount.user oldAccount.passwordHash⟩,
    ⟨0, .call (.insertReset (digestToken "token") oldAccount.user.id 3600)⟩]

/-- A log-in with the old password, and a reset. -/
def overlap : Bool → Request
  | false => .login "a@example.org" "old password" ⟨none, none⟩
  | true => .resetPassword "token" "new password" "new password"

/-- The second after the reset token was stored. -/
def overlapWorld : World Memory :=
  { now := 1
    entropy := ⟨fun _ n => .ok (.replicate n 1), .ok (.replicate 16 0)⟩
    store := oldStore }

/-- The log-in reads the account, then the reset goes through, and then the log-in goes on. -/
def overlapped : Pool Bool fun i => Except ApiError (overlap i).Reply :=
  (Request.start plainPortal overlap overlapWorld).run
    (.go false :: (List.replicate 6 (.go true) ++ List.replicate 6 (.go false)))

/-- The two requests after the log-in has read the account. -/
def halfway : Pool Bool fun i => Except ApiError (overlap i).Reply where
  flows
    | false => ExceptT.run (openFor plainPortal oldAccount ⟨none, none⟩)
    | true => (overlap true).program plainPortal
  world := overlapWorld
  deeds := [.exchanged false 1 ⟨.findByEmail "a@example.org", .ok (some oldAccount)⟩]

/-- How the password is checked need not be computed: it passes the hash that was made of it. -/
theorem overlapped_eq :
    overlapped = halfway.run (List.replicate 6 (.go true) ++ List.replicate 6 (.go false)) := by
  have passed : Password.verify "old password" oldAccount.passwordHash = .ok true :=
    Password.verify_hashOf (by decide) (by decide) _
  have found : overlapWorld.store.findByEmail "a@example.org" = some oldAccount := rfl
  have hstep := step_login (p := plainPortal) (by decide +kernel) (by decide +kernel) found passed
    ⟨none, none⟩
  have hflows : Function.update (Request.start plainPortal overlap overlapWorld).flows false
      (ExceptT.run (openFor plainPortal oldAccount ⟨none, none⟩)) = halfway.flows := by
    funext i
    cases i <;> rfl
  have hturn : (Request.start plainPortal overlap overlapWorld).turn (.go false) = halfway := by
    have keep (flows : ∀ i, Flow (Except ApiError (overlap i).Reply)) (h : flows = halfway.flows) :
        (⟨flows, overlapWorld, halfway.deeds⟩ : Pool Bool _) = halfway := by rw [h]; rfl
    exact (Pool.turn_go (i := false) hstep).trans (keep _ hflows)
  rw [overlapped, Pool.run_cons, hturn]

/-- The flow has ended with a value, and not with an error. -/
def succeeded {ε β : Type} : Flow (Except ε β) → Bool
  | .done (.ok _) => true
  | _ => false

theorem exists_of_succeeded {ε β : Type} {f : Flow (Except ε β)} (h : succeeded f = true) :
    ∃ b, f = .done (.ok b) := by
  unfold succeeded at h
  split at h
  · exact ⟨_, rfl⟩
  · exact Bool.noConfusion h

/-- Both requests succeed, and the user has one session, which is open. -/
theorem run_overlapped :
    succeeded (overlapped.flows true) = true ∧ succeeded (overlapped.flows false) = true ∧
      (said true overlapped.deeds).getLast?.map (·.call) = some (.revokeAll (.ofNat 1)) ∧
      overlapped.world.store.refresh.values.map (fun r => (r.user, r.revoked)) =
        [(.ofNat 1, false)] := by
  rw [overlapped_eq]
  decide +kernel

theorem exists_open_overlapped :
    ∃ k r, overlapped.world.store.refresh.get? k = some r ∧ r.user = .ofNat 1 ∧
      r.revoked = false := by
  obtain ⟨-, -, -, hrecords⟩ := run_overlapped
  obtain ⟨r, hr, hopen⟩ : ∃ r ∈ overlapped.world.store.refresh.values,
      (r.user, r.revoked) = (.ofNat 1, false) :=
    List.mem_map.1 (hrecords ▸ List.mem_singleton_self _)
  obtain ⟨k, hk⟩ := Table.exists_get?_of_mem_values hr
  obtain ⟨howner, hrevoked⟩ := Prod.mk.inj hopen
  exact ⟨k, r, hk, howner, hrevoked⟩

/-- The only log-in read the account before anything else was done. -/
theorem eq_oldAccount {i : Bool} {account : Account} {digest : String}
    (h : OpenedWith overlap overlapped.deeds i account digest) : account = oldAccount := by
  obtain ⟨email, password, client, expiresAt, reply, hrequest, -, hsaid⟩ := h
  cases i with
  | true => cases hrequest
  | false =>
    obtain ⟨deeds, hdeeds⟩ := halfway.exists_deeds_run
      (List.replicate 6 (.go true) ++ List.replicate 6 (.go false))
    rw [overlapped_eq, hdeeds, said_append] at hsaid
    have hread : (⟨.findByEmail "a@example.org", .ok (some oldAccount)⟩ : Exchange) =
        ⟨.findByEmail email, .ok (some account)⟩ := (List.cons.inj hsaid).1
    cases hread
    rfl

/-- Its hash is of another version than new hashes are. -/
theorem passwordHash_oldAccount_ne (salt : List UInt8) (password : String) :
    oldAccount.passwordHash ≠ Password.hashWith salt password := by
  rw [Password.hashWith_eq]
  exact Password.hashOf_ne (by decide) _ _ _

/-- The open session of the overlapping requests is one that was overtaken. -/
theorem open_after_reset_overlapped :
    ∃ user k r i account digest hash, overlapped.world.store.refresh.get? k = some r ∧
      r.user = user ∧ r.revoked = false ∧ OpenedWith overlap overlapped.deeds i account digest ∧
      ReflTransGen (Memory.Succeeds overlapped.world.store.refresh) digest k ∧
      Overtaken overlapped.deeds i true account digest user hash := by
  obtain ⟨hreset, -, hclosed, -⟩ := run_overlapped
  obtain ⟨reply, hreply⟩ := exists_of_succeeded hreset
  have others : ∀ i, i ≠ true → (overlap i).OfSession := by
    rintro (_ | _) hi
    · exact trivial
    · exact absurd rfl hi
  obtain ⟨user, salt, hsaid, hsessions⟩ :=
    open_after_reset plainPortal overlap rfl others _ rfl _ (by simp) (Eq.refl overlapped) hreply
  obtain rfl : user = .ofNat 1 := by
    rw [hsaid] at hclosed
    simpa using hclosed
  obtain ⟨k, r, hk, howner, hopen⟩ := exists_open_overlapped
  obtain ⟨i, account, digest, hopened, -, hchain, hnew | hovertaken⟩ :=
    hsessions k r hk howner hopen
  · rw [eq_oldAccount hopened] at hnew
    exact absurd hnew (passwordHash_oldAccount_ne _ _)
  · exact ⟨_, k, r, i, account, digest, _, hk, howner, hopen, hopened, hchain, hovertaken⟩

/-- **A session that was opened with the old password survives the reset.**  Both requests succeed,
the reset has changed the password and closed the sessions of the user, and yet a session of the
user is open, though no log-in read the account with the new hash. -/
theorem old_password_survives_reset :
    (∃ reply, overlapped.flows true = .done (.ok reply)) ∧
    (∃ reply, overlapped.flows false = .done (.ok reply)) ∧
    ∃ (user : Uuid) (salt : Vector UInt8 16),
      said true overlapped.deeds = [⟨.consumeReset (digestToken "token"), .ok user⟩,
        ⟨.setPassword user (Password.hashWith salt.toList "new password"), .ok ()⟩,
        ⟨.revokeAll user, .ok ()⟩] ∧
      ∃ k r, overlapped.world.store.refresh.get? k = some r ∧ r.user = user ∧ r.revoked = false ∧
        ∀ i account digest, OpenedWith overlap overlapped.deeds i account digest →
          account.passwordHash ≠ Password.hashWith salt.toList "new password" := by
  have accounts : Pool.Accounts (Request.start plainPortal overlap overlapWorld) overlapped :=
    Pool.accounts_run (fun i => (overlap i).program plainPortal) overlapWorld _
  obtain ⟨hreset, hlogin, hclosed, -⟩ := run_overlapped
  obtain ⟨reply, hreply⟩ := exists_of_succeeded hreset
  obtain ⟨user, salt, hsaid⟩ :=
    ends_program_of_reset (p := plainPortal) rfl (accounts.ends_said hreply)
  obtain rfl : user = .ofNat 1 := by
    rw [hsaid] at hclosed
    simpa using hclosed
  obtain ⟨k, r, hk, howner, hopen⟩ := exists_open_overlapped
  refine ⟨⟨reply, hreply⟩, exists_of_succeeded hlogin, _, salt, hsaid, k, r, hk, howner, hopen, ?_⟩
  intro i account digest hopened
  rw [eq_oldAccount hopened]
  exact passwordHash_oldAccount_ne _ _

end Gatehouse.Portal
