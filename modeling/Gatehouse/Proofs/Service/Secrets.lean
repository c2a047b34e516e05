/-
  The store never holds a secret itself.

  Four operations draw a secret: they give its text to the caller and its digest to the store.  Both
  are plain texts, and nothing but their use tells them apart, so what has to be shown is that they
  are never mixed up, in any run.

  One lemma says how such an operation goes, whatever the store is (`drawing_cases`): it gets its
  bytes, and if it succeeds, then with the text of these bytes; or the source fails, and it ends
  with that error before it has done anything; or it does not come so far, because the access token
  of a session is signed first.  A digest that the store mentions was brought in by a call, each
  call carries the digest of the secret of its operation (`Asks`), and a link names a digest that is
  there (`Lineage`).

  The lengths do the rest: a digest has sixty-four digits, and the texts have eighty-six or
  forty-three symbols.
-/
import Gatehouse.Proofs.Secret
import Gatehouse.Proofs.Service.Failure
import Gatehouse.Proofs.Service.Refresh
import Gatehouse.Proofs.Store.AuditTrail

namespace Gatehouse

variable {σ : Type}

/-! ## What a store mentions -/

/-- `m.Mentions text` — the text is a key of a record that has to do with tokens, or one of the
digests that are written in the record. -/
inductive Memory.Mentions (m : Memory) : String → Prop where
  | refreshKey {k : String} {r : RefreshRecord Nat} (h : m.refresh.get? k = some r) : m.Mentions k
  | refreshDigest {k : String} {r : RefreshRecord Nat} (h : m.refresh.get? k = some r) :
      m.Mentions r.digest
  | replacement {k new : String} {r : RefreshRecord Nat} (h : m.refresh.get? k = some r)
      (link : r.replacedBy = some new) : m.Mentions new
  | resetKey {k : String} {r : ResetRecord} (h : m.resets.get? k = some r) : m.Mentions k
  | resetDigest {k : String} {r : ResetRecord} (h : m.resets.get? k = some r) : m.Mentions r.digest

/-- What a store mentions is a key, if its records are filed and its links lead to records. -/
theorem Memory.Mentions.key {m : Memory} {text : String} (h : m.Mentions text) (filed : m.Filed)
    (lineage : Lineage m.refresh m.issued) :
    (∃ r, m.refresh.get? text = some r) ∨ ∃ r, m.resets.get? text = some r := by
  cases h with
  | refreshKey h => exact Or.inl ⟨_, h⟩
  | refreshDigest h => exact Or.inl ⟨_, filed.refresh h ▸ h⟩
  | replacement h link =>
    obtain ⟨child, hchild, -⟩ := lineage.link h link
    exact Or.inl ⟨child, hchild⟩
  | resetKey h => exact Or.inr ⟨_, h⟩
  | resetDigest h => exact Or.inr ⟨_, filed.resets h ▸ h⟩

namespace Service

/-! ## Operations that draw a secret -/

/-- The number of random bytes that an operation draws. -/
def Operation.draws? : Operation → Option Nat
  | .createRefreshToken .. | .issueSession .. | .refreshTokens .. => some Secret.refreshLength
  | .createPasswordReset _ => some Secret.resetLength
  | _ => none

/-- The text of the secret that is in the reply of an operation. -/
def Operation.plaintext? : (op : Operation) → op.Reply → Option String
  | .createRefreshToken .., token => some token
  | .issueSession .., pair => some pair.refresh
  | .refreshTokens .., pair => some pair.refresh
  | .createPasswordReset _, token => some token
  | _, _ => none

/-- `s.Ready w op` — the operation comes to the point where it asks for random bytes.  Only opening
a session does something before, which is to sign the access token. -/
def Ready (s : Service) (w : World σ) : Operation → Prop
  | .issueSession user role _ =>
    Codec.checkIdentity user.toText role = .ok () ∧
      (s.codec.claimsAt? w.now user.toText role).isSome = true
  | _ => True

section Programs

variable {α : Type} (backend : Backend σ)

theorem secret?_eq_some_iff {w : World σ} {n : Nat} {secret : Secret} :
    w.secret? n = some secret ↔
      ∃ bytes, w.entropy.secret (w.drawn + 1) n = .ok bytes ∧
        Secret.ofBytes bytes.toList = secret := by
  unfold World.secret?
  cases w.entropy.secret (w.drawn + 1) n <;> simp

/-- `Conveys backend text plaintext p` — the program draws no secret, and if it gives a value, then
the text in the value is this one. -/
def Conveys (text : α → String) (plaintext : String) (p : Program α) : Prop :=
  ∀ w, (p.exec backend w).2.drawn = w.drawn ∧
    ∀ a, (p.exec backend w).1 = some (.ok a) → text a = plaintext

theorem conveys_pure {text : α → String} {plaintext : String} {a : α} (h : text a = plaintext) :
    Conveys backend text plaintext (pure a) := by
  refine fun w => ⟨rfl, fun b hb => ?_⟩
  obtain rfl : a = b := Except.ok.inj (Option.some.inj hb)
  exact h

theorem conveys_throw {text : α → String} {plaintext : String} (e : AuthError) :
    Conveys backend text plaintext (throw e) :=
  fun _ => ⟨rfl, fun _ hb => by cases hb⟩

theorem conveys_bind {β : Type} {text : α → String} {plaintext : String} {p : Program β}
    {f : β → Program α} (hp : ∀ w, (p.exec backend w).2.drawn = w.drawn)
    (hf : ∀ b, Conveys backend text plaintext (f b)) :
    Conveys backend text plaintext (p >>= f) := by
  intro w
  have hdrawn := hp w
  rw [Program.exec_bind]
  generalize p.exec backend w = result at hdrawn ⊢
  obtain ⟨- | e | b, after⟩ := result
  · exact ⟨hdrawn, fun a ha => by cases ha⟩
  · exact ⟨hdrawn, fun a ha => by cases ha⟩
  · exact ⟨((hf b after).1).trans hdrawn, (hf b after).2⟩

theorem conveys_keep (user : Uuid) (client : ClientInfo) (secret : Secret) (expiresAt : Instant) :
    Conveys backend (fun token => token) secret.plaintext (keep user client secret expiresAt) :=
  conveys_bind backend (fun _ => rfl) fun _ =>
    conveys_bind backend (fun _ => rfl) fun _ => conveys_pure backend rfl

theorem conveys_keepReset (user : Uuid) (secret : Secret) (expiresAt : Instant) :
    Conveys backend (fun token => token) secret.plaintext (keepReset user secret expiresAt) :=
  conveys_bind backend (fun _ => rfl) fun _ => conveys_pure backend rfl

theorem conveys_exchange (s : Service) (token : String) (client : ClientInfo) (next : Secret)
    (expiresAt : Instant) :
    Conveys backend TokenPair.refresh next.plaintext (s.exchange token client next expiresAt) := by
  refine conveys_bind backend (fun _ => rfl) fun rotation => ?_
  cases rotation.reused with
  | true => exact conveys_bind backend (fun _ => rfl) fun _ => conveys_throw backend _
  | false =>
    -- what is left is to sign an access token, and that draws nothing
    refine conveys_bind backend (fun w => ?_) fun access => conveys_pure backend rfl
    rw [createAccessToken, exec_signToken_eq]

/-- A program that wants a secret has it, or the source fails and it ends at once. -/
theorem withSecret_cases {n : Nat} (hn : n ≠ 0) (lifetime : Duration) {text : α → String}
    {k : Secret → Instant → Program α}
    (hk : ∀ secret expiresAt, Conveys backend text secret.plaintext (k secret expiresAt))
    (w : World σ) :
    (∃ bytes, w.entropy.secret (w.drawn + 1) n = .ok bytes ∧
      ((withSecret n lifetime k).exec backend w).2.drawn = w.drawn + 1 ∧
      ∀ a, ((withSecret n lifetime k).exec backend w).1 = some (.ok a) →
        text a = Secret.textOfBytes bytes.toList) ∨
    ∃ e, w.entropy.secret (w.drawn + 1) n = .error e ∧
      (withSecret n lifetime k).exec backend w = (some (.error (.entropy e)), w) := by
  unfold withSecret Secret.generate
  simp only [if_neg hn, Program.exec_bind, Program.exec_draw]
  cases w.entropy.secret (w.drawn + 1) n with
  | error e => exact Or.inr ⟨e, rfl, rfl⟩
  | ok bytes =>
    refine Or.inl ⟨bytes, rfl, ?_⟩
    simp only [Program.exec_pure, Program.exec_now]
    cases w.now.plus? lifetime with
    | none => exact ⟨rfl, fun a ha => by cases ha⟩
    | some expiresAt => exact hk (Secret.ofBytes bytes.toList) expiresAt _

variable {s : Service} {op : Operation} {n : Nat} {w : World σ}

theorem createRefreshToken_secret (s : Service) (user : Uuid) (client : ClientInfo) (w : World σ) :
    (∃ bytes, w.entropy.secret (w.drawn + 1) Secret.refreshLength = .ok bytes ∧
      ((s.createRefreshToken user client).exec backend w).2.drawn = w.drawn + 1 ∧
      ∀ token, ((s.createRefreshToken user client).exec backend w).1 = some (.ok token) →
        token = Secret.textOfBytes bytes.toList) ∨
    ∃ e, w.entropy.secret (w.drawn + 1) Secret.refreshLength = .error e ∧
      (s.createRefreshToken user client).exec backend w = (some (.error (.entropy e)), w) :=
  withSecret_cases backend refreshLength_ne_zero s.refreshLifetime
    (conveys_keep backend user client) w

/-- A session draws the secret of its refresh token, unless its access token is not signed; that
comes first. -/
theorem issueSession_secret (s : Service) (user : Uuid) (role : String) (client : ClientInfo)
    (w : World σ) :
    (∃ bytes, w.entropy.secret (w.drawn + 1) Secret.refreshLength = .ok bytes ∧
      ((s.issueSession user role client).exec backend w).2.drawn = w.drawn + 1 ∧
      ∀ pair, ((s.issueSession user role client).exec backend w).1 = some (.ok pair) →
        pair.refresh = Secret.textOfBytes bytes.toList) ∨
    (∃ e, w.entropy.secret (w.drawn + 1) Secret.refreshLength = .error e ∧
      (s.issueSession user role client).exec backend w = (some (.error (.entropy e)), w)) ∨
    (¬ s.Ready w (.issueSession user role client) ∧
      (∀ pair, ((s.issueSession user role client).exec backend w).1 ≠ some (.ok pair)) ∧
      ((s.issueSession user role client).exec backend w).2 = w) := by
  simp only [Ready]
  cases hid : Codec.checkIdentity user.toText role with
  | error e =>
    rw [exec_issueSession_of_error backend client hid]
    exact Or.inr (Or.inr ⟨by simp, fun pair h => (by cases h), rfl⟩)
  | ok _ =>
    cases hclaims : s.codec.claimsAt? w.now user.toText role with
    | none =>
      have hexec : (s.issueSession user role client).exec backend w = (none, w) := by
        unfold issueSession createAccessToken
        rw [Program.exec_bind, exec_signToken_eq, hid, hclaims]
        rfl
      rw [hexec]
      exact Or.inr (Or.inr ⟨by simp, fun pair h => (by cases h), rfl⟩)
    | some claims =>
      -- the access token is signed, and the rest is issuing a refresh token
      rw [exec_issueSession_of backend client hid hclaims, Program.exec_bind]
      rcases createRefreshToken_secret backend s user client w with
        ⟨bytes, hb, hd, htext⟩ | ⟨e, he, hexec⟩
      · refine Or.inl ⟨bytes, hb, ?_⟩
        generalize (s.createRefreshToken user client).exec backend w = created at hd htext ⊢
        obtain ⟨- | e | token, after⟩ := created
        · exact ⟨hd, fun pair h => by cases h⟩
        · exact ⟨hd, fun pair h => by cases h⟩
        · refine ⟨hd, fun pair h => ?_⟩
          obtain rfl := Except.ok.inj (Option.some.inj h)
          exact htext token rfl
      · rw [hexec]
        exact Or.inr (Or.inl ⟨e, he, rfl⟩)

/-- **How an operation that draws a secret goes.**  It gets its bytes, and if it succeeds then with
their text; or the source fails, and it ends with that error and has done nothing; or it does not
come so far, and has done nothing either. -/
theorem drawing_cases (hdraws : op.draws? = some n) (w : World σ) :
    (∃ bytes : Vector UInt8 n, w.entropy.secret (w.drawn + 1) n = .ok bytes ∧
      ((s.program op).exec backend w).2.drawn = w.drawn + 1 ∧
      ∀ reply, ((s.program op).exec backend w).1 = some (.ok reply) →
        op.plaintext? reply = some (Secret.textOfBytes bytes.toList)) ∨
    (∃ e, w.entropy.secret (w.drawn + 1) n = .error e ∧
      (s.program op).exec backend w = (some (.error (.entropy e)), w)) ∨
    (¬ s.Ready w op ∧ (∀ reply, ((s.program op).exec backend w).1 ≠ some (.ok reply)) ∧
      ((s.program op).exec backend w).2 = w) := by
  cases op with
  | createRefreshToken user client =>
    obtain rfl : Secret.refreshLength = n := Option.some.inj hdraws
    rcases createRefreshToken_secret backend s user client w with ⟨bytes, hb, hd, htext⟩ | herror
    · exact Or.inl ⟨bytes, hb, hd, fun reply hreply => congrArg some (htext reply hreply)⟩
    · exact Or.inr (Or.inl herror)
  | refreshTokens token client =>
    obtain rfl : Secret.refreshLength = n := Option.some.inj hdraws
    rcases withSecret_cases backend refreshLength_ne_zero s.refreshLifetime
        (conveys_exchange backend s token client) w with ⟨bytes, hb, hd, htext⟩ | herror
    · exact Or.inl ⟨bytes, hb, hd, fun reply hreply => congrArg some (htext reply hreply)⟩
    · exact Or.inr (Or.inl herror)
  | createPasswordReset user =>
    obtain rfl : Secret.resetLength = n := Option.some.inj hdraws
    rcases withSecret_cases backend resetLength_ne_zero resetLifetime
        (conveys_keepReset backend user) w with ⟨bytes, hb, hd, htext⟩ | herror
    · exact Or.inl ⟨bytes, hb, hd, fun reply hreply => congrArg some (htext reply hreply)⟩
    · exact Or.inr (Or.inl herror)
  | issueSession user role client =>
    obtain rfl : Secret.refreshLength = n := Option.some.inj hdraws
    rcases issueSession_secret backend s user role client w with
      ⟨bytes, hb, hd, htext⟩ | herror | hunready
    · exact Or.inl ⟨bytes, hb, hd, fun reply hreply => congrArg some (htext reply hreply)⟩
    · exact Or.inr (Or.inl herror)
    · exact Or.inr (Or.inr hunready)
  | createAccessToken user role => cases hdraws
  | parseToken token => cases hdraws
  | revokeRefreshToken token => cases hdraws
  | revokeAllRefreshTokens userId => cases hdraws
  | verifyPasswordReset token => cases hdraws

end Programs

/-! ## Secrets that are drawn in a run -/

section Runs

variable {s : Service} {w : World Memory} {now : Instant} {entropy : Entropy} {op : Operation}
  {n : Nat}

/-- `s.Draws w now entropy op bytes` — served at this time with this source of random bytes, the
operation draws these. -/
structure Draws (s : Service) (w : World Memory) (now : Instant) (entropy : Entropy)
    (op : Operation) (bytes : Vector UInt8 n) : Prop where
  /-- So many bytes make a secret of the operation. -/
  wanted : op.draws? = some n
  /-- The source has these. -/
  delivered : entropy.secret (w.drawn + 1) n = .ok bytes
  /-- One more secret has been drawn afterwards. -/
  counted : (s.perform w (.serve now entropy op)).drawn = w.drawn + 1

/-- `s.GivesOut w now entropy op text` — served at this time with this source of random bytes, the
operation succeeds, and the text of a secret in its reply is this one. -/
def GivesOut (s : Service) (w : World Memory) (now : Instant) (entropy : Entropy) (op : Operation)
    (text : String) : Prop :=
  ∃ reply, ((s.program op).exec Memory.backend { w with now, entropy }).1 = some (.ok reply) ∧
    op.plaintext? reply = some text

/-- The step serves an operation that draws a secret with this digest. -/
def BringsIn (s : Service) (w : World Memory) (step : Step) (digest : String) : Prop :=
  ∃ now entropy op n, ∃ bytes : Vector UInt8 n, step = .serve now entropy op ∧
    s.Draws w now entropy op bytes ∧ digest = digestToken (Secret.textOfBytes bytes.toList)

/-- The digest is that of a secret that was drawn in the run. -/
def DrawnIn (s : Service) (w : World Memory) (steps : List Step) (digest : String) : Prop :=
  ∃ v now entropy op n, ∃ bytes : Vector UInt8 n, (v, .serve now entropy op) ∈ s.history w steps ∧
    s.Draws v now entropy op bytes ∧ digest = digestToken (Secret.textOfBytes bytes.toList)

/-- A text that is given out is that of bytes that were drawn for it. -/
theorem draws_of_givesOut {text : String} (h : s.GivesOut w now entropy op text) :
    ∃ n, ∃ bytes : Vector UInt8 n, s.Draws w now entropy op bytes ∧
      text = Secret.textOfBytes bytes.toList := by
  obtain ⟨reply, hok, htext⟩ := h
  have hdraws : ∃ n, op.draws? = some n := by
    cases op with
    | createRefreshToken user client => exact ⟨_, rfl⟩
    | issueSession user role client => exact ⟨_, rfl⟩
    | refreshTokens token client => exact ⟨_, rfl⟩
    | createPasswordReset user => exact ⟨_, rfl⟩
    | _ => cases htext
  obtain ⟨n, hdraws⟩ := hdraws
  rcases drawing_cases (s := s) Memory.backend hdraws { w with now, entropy } with
    ⟨bytes, hbytes, hdrawn, hreply⟩ | ⟨e, -, hexec⟩ | ⟨-, hno, -⟩
  · refine ⟨n, bytes, ⟨hdraws, hbytes, hdrawn⟩, ?_⟩
    exact Option.some.inj (htext.symm.trans (hreply reply hok))
  · rw [hexec] at hok
    cases hok
  · exact absurd hok (hno reply)

/-- An operation that changes the store has drawn its secret. -/
theorem exists_draws {secret : Secret} (hdraws : op.draws? = some n)
    (hsecret : ({ w with now, entropy } : World Memory).secret? n = some secret)
    (changed : (s.perform w (.serve now entropy op)).store ≠ w.store) :
    ∃ bytes : Vector UInt8 n, s.Draws w now entropy op bytes ∧
      secret.digest = digestToken (Secret.textOfBytes bytes.toList) := by
  obtain ⟨bytes, hbytes, rfl⟩ := secret?_eq_some_iff.1 hsecret
  rcases drawing_cases (s := s) Memory.backend hdraws { w with now, entropy } with
    ⟨-, -, hdrawn, -⟩ | ⟨e, -, hexec⟩ | ⟨-, -, hworld⟩
  · exact ⟨bytes, ⟨hdraws, hbytes, hdrawn⟩, rfl⟩
  · exact absurd (congrArg (fun outcome => outcome.2.store) hexec) changed
  · exact absurd (congrArg World.store hworld) changed

theorem draws?_of_givesTo {user : Uuid} (h : GivesTo w op user) :
    op.draws? = some Secret.refreshLength := by
  rcases h with hopens | ⟨token, client, parent, rfl, -⟩
  · cases op <;> first | rfl | cases hopens
  · rfl

/-- A step that brings a digest into the refresh records draws its secret. -/
theorem bringsIn_of_refresh {step : Step} {k : String} {r : RefreshRecord Nat}
    (h₀ : w.store.refresh.get? k = none) (h₁ : (s.perform w step).store.refresh.get? k = some r) :
    s.BringsIn w step k := by
  obtain ⟨now, entropy, op, secret, rfl, rfl, hissues⟩ := issues_of_get? h₀ h₁
  obtain ⟨bytes, hdraws, hdigest⟩ := exists_draws (s := s) (draws?_of_givesTo hissues.owner)
    hissues.drawn fun hsame => by
      rw [hsame, h₀] at h₁
      cases h₁
  exact ⟨now, entropy, op, _, bytes, rfl, hdraws, hdigest⟩

/-- A step that brings a digest into the reset records draws its secret. -/
theorem bringsIn_of_resets {step : Step} {k : String} {r : ResetRecord}
    (h₀ : w.store.resets.get? k = none) (h₁ : (s.perform w step).store.resets.get? k = some r) :
    s.BringsIn w step k := by
  have changed : (s.perform w step).store ≠ w.store := by
    intro hsame
    rw [hsame, h₀] at h₁
    cases h₁
  rw [perform_store] at h₁
  obtain ⟨first, t, rest, hsteps, hok⟩ := Memory.exists_insertReset h₀ h₁
  have hmem : (⟨t, .call (.insertReset k r.user r.expiresAt)⟩ : Memory.Step) ∈
      s.storeSteps w step := by
    rw [hsteps]
    exact List.mem_append_right first List.mem_cons_self
  rcases s.mem_storeSteps hmem with
    ⟨now, entropy, op, call, rfl, hcall, hasks⟩ | ⟨_, _, h⟩ | ⟨_, _, h⟩
  · obtain ⟨-, rfl⟩ : t = now ∧ Call.insertReset k r.user r.expiresAt = call := by
      simpa using hcall
    cases hasks with
    | createPasswordReset user drawn expiry =>
      obtain ⟨bytes, hdraws, hdigest⟩ := exists_draws (s := s) rfl drawn changed
      exact ⟨now, entropy, _, _, bytes, rfl, hdraws, hdigest⟩
  · simp at h
  · simp at h

/-- A key that comes up in a run is the digest of a secret that was drawn in the run, if each step
that brings a key in draws the secret for it. -/
theorem drawnIn_of_get? {ρ : Type} (records : Memory → Table String ρ)
    (bringsIn : ∀ {v : World Memory} {step : Step} {k : String} {r : ρ},
      (records v.store).get? k = none → (records (s.perform v step).store).get? k = some r →
      s.BringsIn v step k)
    {steps : List Step} {k : String} {r : ρ} (h₀ : (records w.store).get? k = none)
    (h₁ : (records (s.run w steps).store).get? k = some r) : s.DrawnIn w steps k := by
  obtain ⟨before, step, after, r₀, rfl, hnone, hsome⟩ :=
    exists_first (fun v => (records v.store).get? k) h₀ h₁
  obtain ⟨now, entropy, op, n, bytes, rfl, hdraws, hdigest⟩ := bringsIn hnone hsome
  exact ⟨_, now, entropy, op, n, bytes, s.mem_history _ before _ after, hdraws, hdigest⟩

/-- **Every digest that a store mentions after a run** is that of a secret drawn in the run, if the
store had no records before. -/
theorem drawnIn_of_mentions {accounts : Table Uuid Account} {steps : List Step} {text : String}
    (h : (s.run { w with store := { accounts } } steps).store.Mentions text) :
    s.DrawnIn { w with store := { accounts } } steps text := by
  have filed : (s.run { w with store := { accounts } } steps).store.Filed := by
    rw [run_store]
    refine Memory.filed_run ⟨fun h => ?_, fun h => ?_⟩ _ <;> cases h
  have lineage := lineage_run (s := s) (w := { w with store := { accounts } }) .empty steps
  rcases h.key filed lineage with ⟨r, hr⟩ | ⟨r, hr⟩
  · exact drawnIn_of_get? Memory.refresh bringsIn_of_refresh (Table.get?_empty text) hr
  · exact drawnIn_of_get? Memory.resets bringsIn_of_resets (Table.get?_empty text) hr

/-- A text that is given out spells the bytes that were drawn, with as many symbols as it takes. -/
theorem spells_of_givesOut {text : String} (h : s.GivesOut w now entropy op text) :
    ∃ n, ∃ bytes : Vector UInt8 n, s.Draws w now entropy op bytes ∧ Spells text bytes.toList ∧
      (n = 64 ∧ text.length = 86 ∨ n = 32 ∧ text.length = 43) := by
  obtain ⟨n, bytes, hdraws, rfl⟩ := draws_of_givesOut h
  have hspells := Secret.spells_textOfBytes bytes.toList
  have hlength := hspells.length
  rw [Vector.length_toList] at hlength
  refine ⟨n, bytes, hdraws, hspells, ?_⟩
  have hn : n = 64 ∨ n = 32 := by
    have hwanted := hdraws.wanted
    cases op <;> first
      | exact Or.inl (Option.some.inj hwanted).symm
      | exact Or.inr (Option.some.inj hwanted).symm
      | cases hwanted
  omega

/-- **The store never holds a plaintext.**  Let the service do anything after a start without
tokens, with any random bytes.

Every key, digest and link in the records of tokens has the form of a digest, and it is the digest
of a secret that was drawn in the run.  Every text of a secret that the service gives out spells the
bytes that were drawn for it, in eighty-six symbols for a refresh token and forty-three for a reset
token, and in no state of the run does the store mention it.  Different bytes have different texts.

And an operation for which the source of random bytes fails does nothing and does not succeed; if it
comes to the point where it asks for them, then it ends with the error of the source. -/
theorem store_holds_no_plaintext (s : Service) (w : World Memory) (accounts : Table Uuid Account)
    (steps : List Step) :
    let start : World Memory := { w with store := { accounts } }
    (∀ text, (s.run start steps).store.Mentions text →
      IsDigest text ∧ s.DrawnIn start steps text) ∧
    (∀ v now entropy op text, (v, .serve now entropy op) ∈ s.history start steps →
      s.GivesOut v now entropy op text →
      (∃ n, ∃ bytes : Vector UInt8 n, s.Draws v now entropy op bytes ∧ Spells text bytes.toList ∧
        (n = 64 ∧ text.length = 86 ∨ n = 32 ∧ text.length = 43)) ∧
      ∀ first rest, steps = first ++ rest → ¬ (s.run start first).store.Mentions text) ∧
    (∀ bytes bytes', Secret.textOfBytes bytes = Secret.textOfBytes bytes' → bytes = bytes') ∧
    ∀ v now entropy op n e, Operation.draws? op = some n →
      Entropy.secret entropy (v.drawn + 1) n = .error e →
      s.perform v (.serve now entropy op) = { v with now, entropy } ∧
      (∀ reply, ((s.program op).exec Memory.backend { v with now, entropy }).1 ≠
        some (.ok reply)) ∧
      (s.Ready { v with now, entropy } op →
        ((s.program op).exec Memory.backend { v with now, entropy }).1 =
          some (.error (.entropy e))) := by
  intro start
  have hdigest {steps : List Step} {text : String}
      (h : (s.run start steps).store.Mentions text) : IsDigest text := by
    obtain ⟨_, _, _, _, _, bytes, _, _, rfl⟩ := drawnIn_of_mentions h
    exact isDigest_digestToken _
  refine ⟨fun text h => ⟨hdigest h, drawnIn_of_mentions h⟩, ?_,
    fun bytes bytes' => Secret.textOfBytes_injective, ?_⟩
  · intro v now entropy op text _ hgives
    have hspells := spells_of_givesOut hgives
    refine ⟨hspells, fun first rest _ hmentions => ?_⟩
    -- a digest is longer than the one kind of text and shorter than the other
    obtain ⟨_, _, _, _, hlength⟩ := hspells
    have hdigits := (hdigest hmentions).length
    omega
  · intro v now entropy op n e hdraws hfails
    rcases drawing_cases (s := s) Memory.backend hdraws { v with now, entropy } with
      ⟨bytes, hbytes, -⟩ | ⟨e', he', hexec⟩ | ⟨hready, hno, hworld⟩
    · rw [show entropy.secret (v.drawn + 1) n = .ok bytes from hbytes] at hfails
      cases hfails
    · obtain rfl : e' = e := Except.error.inj (he'.symm.trans hfails)
      refine ⟨congrArg Prod.snd hexec, fun reply h => ?_, fun _ => congrArg Prod.fst hexec⟩
      rw [hexec] at h
      cases h
    · exact ⟨hworld, hno, fun h => absurd h hready⟩

/-- A user has forgotten the password. -/
def forgetting : List Step := [.serve 0 countingEntropy (.createPasswordReset (.ofNat 1))]

/-- The user is given the text of the reset token, and the store mentions its digest alone. -/
theorem store_holds_no_plaintext_forgetting :
    let start : World Memory := { now := 0, entropy := countingEntropy, store := {} }
    let text := Secret.textOfBytes (List.replicate 32 1)
    plainService.GivesOut start 0 countingEntropy (.createPasswordReset (.ofNat 1)) text ∧
      text.length = 43 ∧
      (plainService.run start forgetting).store.Mentions (digestToken text) ∧
      ¬ (plainService.run start forgetting).store.Mentions text := by
  intro start text
  have hgives : plainService.GivesOut start 0 countingEntropy (.createPasswordReset (.ofNat 1))
      text := by
    refine ⟨text, ?_, rfl⟩
    decide +kernel
  have hkey : ((plainService.run start forgetting).store.resets.get? (digestToken text)).isSome =
      true := by
    decide +kernel
  obtain ⟨r, hr⟩ := Option.isSome_iff_exists.1 hkey
  obtain ⟨-, hreturned, -, -⟩ := store_holds_no_plaintext plainService start ∅ forgetting
  have htext := hreturned start 0 countingEntropy (.createPasswordReset (.ofNat 1)) text
    List.mem_cons_self hgives
  exact ⟨hgives, by decide +kernel, .resetKey hr, htext.2 forgetting [] rfl⟩

end Runs

end Service

end Gatehouse
