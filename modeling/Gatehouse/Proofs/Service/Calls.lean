/-
  The calls that the service makes to its store.

  No operation of the service makes more than one call, and `Operation.Asks` says which: the digests
  and expiries that a call carries are those of the secret that is drawn and the lifetime that is
  set.  Three operations want a new secret first, and what they have in common is one program,
  `withSecret`, with what is done with the secret as its parameter.

  Besides the calls it is known of two kinds of operation when they succeed: a session is opened
  exactly when the store took its record, and a pair of tokens is given out only for a token that
  the store replaced.
-/
import Gatehouse.Proofs.Flow
import Gatehouse.Service

namespace Gatehouse

variable {σ : Type}

/-- The secret of so many bytes that a world gives next, if its source of random bytes has one. -/
def World.secret? (w : World σ) (n : Nat) : Option Secret :=
  match w.entropy.secret (w.drawn + 1) n with
  | .ok bytes => some (Secret.ofBytes bytes.toList)
  | .error _ => none

namespace Service

/-! ## Operations -/

/-- An operation of the service. -/
inductive Operation where
  /-- Signs an access token. -/
  | createAccessToken (user : Uuid) (role : String)
  /-- Verifies an access token. -/
  | parseToken (token : String)
  /-- Issues a refresh token. -/
  | createRefreshToken (user : Uuid) (client : ClientInfo)
  /-- Opens a session. -/
  | issueSession (user : Uuid) (role : String) (client : ClientInfo)
  /-- Replaces a refresh token. -/
  | refreshTokens (token : String) (client : ClientInfo)
  /-- Revokes a refresh token. -/
  | revokeRefreshToken (token : String)
  /-- Revokes all refresh tokens of a user. -/
  | revokeAllRefreshTokens (userId : String)
  /-- Issues a password-reset token. -/
  | createPasswordReset (user : Uuid)
  /-- Uses up a password-reset token. -/
  | verifyPasswordReset (token : String)
deriving DecidableEq, Repr

/-- What an operation gives when it succeeds. -/
abbrev Operation.Reply : Operation → Type
  | .createAccessToken .. | .createRefreshToken .. | .createPasswordReset _ => String
  | .parseToken _ => Claims
  | .issueSession .. | .refreshTokens .. => TokenPair
  | .revokeRefreshToken _ | .revokeAllRefreshTokens _ => Unit
  | .verifyPasswordReset _ => Uuid

/-- The user for whom an operation opens a session. -/
def Operation.opens? : Operation → Option Uuid
  | .createRefreshToken user _ | .issueSession user .. => some user
  | _ => none

/-- The program of an operation. -/
def program (s : Service) : (op : Operation) → Program op.Reply
  | .createAccessToken user role => s.createAccessToken user role
  | .parseToken token => s.parseToken token
  | .createRefreshToken user client => s.createRefreshToken user client
  | .issueSession user role client => s.issueSession user role client
  | .refreshTokens token client => s.refreshTokens token client
  | .revokeRefreshToken token => revokeRefreshToken token
  | .revokeAllRefreshTokens userId => revokeAllRefreshTokens userId
  | .createPasswordReset user => createPasswordReset user
  | .verifyPasswordReset token => verifyPasswordReset token

/-! ## What the operations ask of the store -/

/-- `s.Asks w op call` — in the world `w` the operation makes this call to the store. -/
inductive Asks (s : Service) (w : World σ) : Operation → Call → Prop where
  | createRefreshToken (user : Uuid) (client : ClientInfo) {secret : Secret} {expiresAt : Instant}
      (drawn : w.secret? Secret.refreshLength = some secret)
      (expiry : w.now.plus? s.refreshLifetime = some expiresAt) :
      Asks s w (.createRefreshToken user client)
        (.insertRefresh secret.digest user expiresAt client)
  | issueSession (user : Uuid) (role : String) (client : ClientInfo) {secret : Secret}
      {expiresAt : Instant} (drawn : w.secret? Secret.refreshLength = some secret)
      (expiry : w.now.plus? s.refreshLifetime = some expiresAt) :
      Asks s w (.issueSession user role client)
        (.insertRefresh secret.digest user expiresAt client)
  | refreshTokens (token : String) (client : ClientInfo) {secret : Secret} {expiresAt : Instant}
      (drawn : w.secret? Secret.refreshLength = some secret)
      (expiry : w.now.plus? s.refreshLifetime = some expiresAt) :
      Asks s w (.refreshTokens token client)
        (.rotate (digestToken token) secret.digest expiresAt client)
  | revokeRefreshToken (token : String) :
      Asks s w (.revokeRefreshToken token) (.revoke (digestToken token) none)
  | revokeAllRefreshTokens {userId : String} {user : Uuid}
      (known : Uuid.ofUserText? userId = some user) :
      Asks s w (.revokeAllRefreshTokens userId) (.revokeAll user)
  | createPasswordReset (user : Uuid) {secret : Secret} {expiresAt : Instant}
      (drawn : w.secret? Secret.resetLength = some secret)
      (expiry : w.now.plus? resetLifetime = some expiresAt) :
      Asks s w (.createPasswordReset user) (.insertReset secret.digest user expiresAt)
  | verifyPasswordReset (token : String) :
      Asks s w (.verifyPasswordReset token) (.consumeReset (digestToken token))

section Programs

variable {α : Type} (backend : Backend σ)

theorem refreshLength_ne_zero : Secret.refreshLength ≠ 0 := by decide

theorem resetLength_ne_zero : Secret.resetLength ≠ 0 := by decide

theorem exec_generate {n : Nat} (hn : n ≠ 0) (w : World σ) :
    (∃ secret, w.secret? n = some secret ∧
      (Secret.generate n).exec backend w = (some (.ok secret), { w with drawn := w.drawn + 1 })) ∨
    (w.secret? n = none ∧
      ∃ e, (Secret.generate n).exec backend w = (some (.error (.entropy e)), w)) := by
  unfold Secret.generate World.secret?
  simp only [if_neg hn, Program.exec_bind, Program.exec_draw]
  cases w.entropy.secret (w.drawn + 1) n with
  | ok bytes => exact Or.inl ⟨_, rfl, rfl⟩
  | error e => exact Or.inr ⟨rfl, e, rfl⟩

theorem calls_generate {n : Nat} (hn : n ≠ 0) (w : World σ) :
    (Secret.generate n).calls backend w = [] := by
  unfold Secret.generate
  simp only [if_neg hn, Program.calls_bind, Program.exec_draw, Program.calls_draw,
    List.nil_append]
  cases w.entropy.secret (w.drawn + 1) n <;> rfl

/-- A program that goes on with a new secret and its expiry. -/
def withSecret (n : Nat) (lifetime : Duration) (k : Secret → Instant → Program α) : Program α := do
  let secret ← Secret.generate n
  let expiresAt ← Program.orAbort ((← Program.now).plus? lifetime)
  k secret expiresAt

/-- A program that wants a secret goes on when there are random bytes and the calendar has the
expiry.  Else it ends without a value and without a call. -/
theorem exec_withSecret {n : Nat} (hn : n ≠ 0) (lifetime : Duration)
    (k : Secret → Instant → Program α) (w : World σ) :
    (∃ secret expiresAt, w.secret? n = some secret ∧ w.now.plus? lifetime = some expiresAt ∧
      (withSecret n lifetime k).exec backend w =
        (k secret expiresAt).exec backend { w with drawn := w.drawn + 1 } ∧
      (withSecret n lifetime k).calls backend w =
        (k secret expiresAt).calls backend { w with drawn := w.drawn + 1 }) ∨
    ((∀ a, ((withSecret n lifetime k).exec backend w).1 ≠ some (.ok a)) ∧
      (withSecret n lifetime k).calls backend w = []) := by
  unfold withSecret
  simp only [Program.exec_bind, Program.calls_bind, calls_generate backend hn, List.nil_append]
  rcases exec_generate backend hn w with ⟨secret, hs, h⟩ | ⟨hs, e, h⟩
  · simp only [h, Program.exec_now, Program.calls_now, List.nil_append,
      Program.calls_orAbort]
    cases hp : w.now.plus? lifetime with
    | none => exact Or.inr ⟨fun a => by simp, rfl⟩
    | some expiresAt => exact Or.inl ⟨secret, expiresAt, hs, rfl, rfl, rfl⟩
  · exact Or.inr ⟨fun a => by simp [h], by simp [h]⟩

/-- Signing an access token looks at whom it is for and at the time, and changes nothing. -/
theorem exec_signToken_eq (c : Codec) (userId role : String) (w : World σ) :
    (signToken c userId role).exec backend w =
      (match Codec.checkIdentity userId role with
        | .error e => some (.error e)
        | .ok _ => (c.claimsAt? w.now userId role).map fun claims => .ok (c.sign claims), w) := by
  unfold signToken
  simp only [Program.exec_bind, Program.exec_lift, Program.exec_now]
  cases Codec.checkIdentity userId role with
  | error e => rfl
  | ok u => cases hc : c.claimsAt? w.now userId role <;> simp [hc]

theorem exec_signToken (c : Codec) (userId role : String) (w : World σ) :
    (∃ claims, Codec.checkIdentity userId role = .ok () ∧
      c.claimsAt? w.now userId role = some claims ∧
      (signToken c userId role).exec backend w = (some (.ok (c.sign claims)), w)) ∨
    ((∀ a, ((signToken c userId role).exec backend w).1 ≠ some (.ok a)) ∧
      ((signToken c userId role).exec backend w).2 = w) := by
  rw [exec_signToken_eq]
  cases Codec.checkIdentity userId role with
  | error e => exact Or.inr ⟨fun a => by simp, rfl⟩
  | ok u =>
    cases hc : c.claimsAt? w.now userId role with
    | none => exact Or.inr ⟨fun a => by simp, rfl⟩
    | some claims => exact Or.inl ⟨claims, rfl, rfl, rfl⟩

theorem calls_signToken (c : Codec) (userId role : String) (w : World σ) :
    (signToken c userId role).calls backend w = [] := by
  unfold signToken
  simp only [Program.calls_bind, Program.exec_lift, Program.exec_now, Program.calls_lift,
    Program.calls_now, Program.calls_orAbort, Program.calls_pure, List.nil_append]
  cases Codec.checkIdentity userId role with
  | error e => rfl
  | ok u => cases hc : c.claimsAt? w.now userId role <;> simp [hc]

theorem calls_parseToken (s : Service) (token : String) (w : World σ) :
    (s.parseToken token).calls backend w = [] := by
  unfold parseToken
  simp only [Program.calls_bind, Program.exec_now, Program.calls_now, List.nil_append]
  cases s.codec.verify w.now.seconds token <;> rfl

theorem exec_parseToken {s : Service} {token : String} {claims : Claims} {w : World σ}
    (h : s.codec.verify w.now.seconds token = some claims) :
    (s.parseToken token).exec backend w = (some (.ok claims), w) := by
  unfold parseToken
  simp only [Program.exec_bind, Program.exec_now, h]
  rfl

/-- What is done with the secret of a new refresh token. -/
def keep (user : Uuid) (client : ClientInfo) (secret : Secret) (expiresAt : Instant) :
    Program String := do
  Program.ask (.insertRefresh secret.digest user expiresAt client)
  Program.log (.refreshIssued user)
  return secret.plaintext

theorem createRefreshToken_eq (s : Service) (user : Uuid) (client : ClientInfo) :
    s.createRefreshToken user client =
      withSecret Secret.refreshLength s.refreshLifetime (keep user client) := rfl

/-- A new refresh token is given out exactly when the store took its record. -/
theorem exec_keep (user : Uuid) (client : ClientInfo) (secret : Secret) (expiresAt : Instant)
    (w : World σ) :
    (∃ a, ((keep user client secret expiresAt).exec backend w).1 = some (.ok a)) ↔
      (backend (.insertRefresh secret.digest user expiresAt client) w.now w.store).1 = .ok () := by
  have hask := Program.exec_ask backend w (.insertRefresh secret.digest user expiresAt client)
  unfold keep
  rw [Program.exec_bind, show Program.exec backend (α := Unit) _ w = _ from hask]
  cases (backend (.insertRefresh secret.digest user expiresAt client) w.now w.store).1 with
  | error e => simp
  | ok u => simp [Program.exec_bind]

theorem calls_keep (user : Uuid) (client : ClientInfo) (secret : Secret) (expiresAt : Instant)
    (w : World σ) :
    (keep user client secret expiresAt).calls backend w =
      [.insertRefresh secret.digest user expiresAt client] := by
  unfold keep
  refine Program.calls_ask_bind backend w (.insertRefresh secret.digest user expiresAt client) ?_
  intro _ w'
  simp [Program.calls_bind]

/-- What is done with the secret of a new password-reset token. -/
def keepReset (user : Uuid) (secret : Secret) (expiresAt : Instant) : Program String := do
  Program.ask (.insertReset secret.digest user expiresAt)
  return secret.plaintext

theorem createPasswordReset_eq (user : Uuid) :
    createPasswordReset user = withSecret Secret.resetLength resetLifetime (keepReset user) := rfl

theorem calls_keepReset (user : Uuid) (secret : Secret) (expiresAt : Instant) (w : World σ) :
    (keepReset user secret expiresAt).calls backend w =
      [.insertReset secret.digest user expiresAt] := by
  unfold keepReset
  refine Program.calls_ask_bind backend w (.insertReset secret.digest user expiresAt) ?_
  intro _ w'
  exact Program.calls_pure backend w' _

/-- What is done with the secret that comes in the place of a refresh token. -/
def exchange (s : Service) (token : String) (client : ClientInfo) (next : Secret)
    (expiresAt : Instant) : Program TokenPair := do
  let rotation ← Program.ask (.rotate (digestToken token) next.digest expiresAt client)
  if rotation.reused then
    Program.log (.reuseRefused rotation.user client.ip)
    throw .refreshTokenReuse
  let access ← s.createAccessToken rotation.user rotation.role
  return ⟨access, next.plaintext⟩

theorem refreshTokens_eq (s : Service) (token : String) (client : ClientInfo) :
    s.refreshTokens token client =
      withSecret Secret.refreshLength s.refreshLifetime (s.exchange token client) := rfl

theorem calls_exchange (s : Service) (token : String) (client : ClientInfo) (next : Secret)
    (expiresAt : Instant) (w : World σ) :
    (s.exchange token client next expiresAt).calls backend w =
      [.rotate (digestToken token) next.digest expiresAt client] := by
  unfold exchange
  refine Program.calls_ask_bind backend w
    (.rotate (digestToken token) next.digest expiresAt client) ?_
  intro rotation w'
  cases rotation.reused with
  | true => simp [Program.calls_bind]
  | false =>
    simp only [Bool.false_eq_true, if_false, createAccessToken, Program.calls_bind,
      calls_signToken, Program.calls_pure]
    split <;> rfl

/-- A pair of tokens is given out only for a token that the store replaced. -/
theorem exec_exchange_ok {s : Service} {token : String} {client : ClientInfo} {next : Secret}
    {expiresAt : Instant} {w w' : World σ} {pair : TokenPair}
    (h : (s.exchange token client next expiresAt).exec backend w = (some (.ok pair), w')) :
    ∃ rotation claims,
      (backend (.rotate (digestToken token) next.digest expiresAt client) w.now w.store).1 =
        .ok rotation ∧
      rotation.reused = false ∧
      s.codec.claimsAt? w.now rotation.user.toText rotation.role = some claims ∧
      pair = ⟨s.codec.sign claims, next.plaintext⟩ := by
  unfold exchange at h
  -- the store answers, and only an answer that reports no reuse leads on to a pair
  obtain ⟨rotation, w₁, hask, h⟩ := Program.exec_bind_eq_ok.1 h
  have hanswer := (Program.exec_ask backend w
    (.rotate (digestToken token) next.digest expiresAt client)).symm.trans hask
  obtain ⟨hrotation, rfl⟩ := Prod.mk.inj hanswer
  cases hr : rotation.reused with
  | true => simp [hr, Program.exec_bind] at h
  | false =>
    simp only [hr, Bool.false_eq_true, if_false] at h
    obtain ⟨access, w₂, hsign, h⟩ := Program.exec_bind_eq_ok.1 h
    rcases exec_signToken backend s.codec rotation.user.toText rotation.role
        { w with
          store := (backend (.rotate (digestToken token) next.digest expiresAt client) w.now
            w.store).2.1
          log := w.log ++ (backend (.rotate (digestToken token) next.digest expiresAt client) w.now
            w.store).2.2 } with
      ⟨claims, -, hclaims, hsigned⟩ | ⟨hno, -⟩
    · obtain ⟨haccess, rfl⟩ := Prod.mk.inj (hsigned.symm.trans hsign)
      obtain ⟨hpair, -⟩ := Prod.mk.inj h
      refine ⟨rotation, claims, Option.some.inj hrotation, hr, hclaims, ?_⟩
      rw [Except.ok.inj (Option.some.inj haccess)]
      exact (Except.ok.inj (Option.some.inj hpair)).symm
    · exact absurd (congrArg Prod.fst hsign) (hno access)

/-- A session for which an access token can be signed is opened by issuing a refresh token. -/
theorem exec_issueSession_of {s : Service} {user : Uuid} {role : String} {claims : Claims}
    {w : World σ} (client : ClientInfo) (hid : Codec.checkIdentity user.toText role = .ok ())
    (hclaims : s.codec.claimsAt? w.now user.toText role = some claims) :
    (s.issueSession user role client).exec backend w =
      (s.createRefreshToken user client >>= fun refresh =>
        pure ⟨s.codec.sign claims, refresh⟩ : Program TokenPair).exec backend w := by
  unfold issueSession createAccessToken
  rw [Program.exec_bind, exec_signToken_eq, hid, hclaims]
  rfl

/-- The access token comes first, so if there can be none nothing else is done. -/
theorem exec_issueSession_of_error {s : Service} {user : Uuid} {role : String} {e : AuthError}
    {w : World σ} (client : ClientInfo) (hid : Codec.checkIdentity user.toText role = .error e) :
    (s.issueSession user role client).exec backend w = (some (.error e), w) := by
  unfold issueSession createAccessToken
  rw [Program.exec_bind, exec_signToken_eq, hid]

/-- A session is opened by signing an access token, which asks the store for nothing, and issuing a
refresh token. -/
theorem issueSession_cases (s : Service) (user : Uuid) (role : String) (client : ClientInfo)
    (w : World σ) :
    ((s.issueSession user role client).calls backend w =
        (s.createRefreshToken user client).calls backend w ∧
      ((∃ a, ((s.issueSession user role client).exec backend w).1 = some (.ok a)) ↔
        ∃ a, ((s.createRefreshToken user client).exec backend w).1 = some (.ok a))) ∨
    (s.issueSession user role client).calls backend w = [] := by
  unfold issueSession createAccessToken
  simp only [Program.exec_bind, Program.calls_bind, calls_signToken, List.nil_append]
  -- the access token comes first, so when it fails the store has not been asked yet
  rcases exec_signToken backend s.codec user.toText role w with ⟨claims, -, -, h⟩ | ⟨hno, -⟩
  · simp only [h]
    left
    generalize (s.createRefreshToken user client).exec backend w = outcome
    obtain ⟨value, w₁⟩ := outcome
    rcases value with - | - | refresh <;> simp
  · right
    split
    · rename_i access w₁ h
      exact absurd (congrArg Prod.fst h) (hno access)
    · rfl

/-- A refresh token is issued by one call, and it is given out exactly when the store took it. -/
theorem createRefreshToken_cases (s : Service) (user : Uuid) (client : ClientInfo) (w : World σ) :
    (∃ secret expiresAt, w.secret? Secret.refreshLength = some secret ∧
      w.now.plus? s.refreshLifetime = some expiresAt ∧
      (s.createRefreshToken user client).calls backend w =
        [.insertRefresh secret.digest user expiresAt client] ∧
      ((∃ a, ((s.createRefreshToken user client).exec backend w).1 = some (.ok a)) ↔
        (backend (.insertRefresh secret.digest user expiresAt client) w.now w.store).1 =
          .ok ())) ∨
    (s.createRefreshToken user client).calls backend w = [] := by
  rw [createRefreshToken_eq]
  rcases exec_withSecret backend refreshLength_ne_zero s.refreshLifetime (keep user client) w with
    ⟨secret, expiresAt, hs, he, hexec, hcalls⟩ | ⟨-, hcalls⟩
  · refine Or.inl ⟨secret, expiresAt, hs, he, by rw [hcalls, calls_keep], ?_⟩
    rw [hexec]
    exact exec_keep backend user client secret expiresAt _
  · exact Or.inr hcalls

/-- **No operation makes more than one call**, and the call is the one that it asks for. -/
theorem calls_program (s : Service) (op : Operation) (w : World σ) :
    (s.program op).calls backend w = [] ∨
    ∃ call, (s.program op).calls backend w = [call] ∧ s.Asks w op call := by
  cases op with
  | createAccessToken user role => exact Or.inl (calls_signToken backend s.codec user.toText role w)
  | parseToken token => exact Or.inl (calls_parseToken backend s token w)
  | createRefreshToken user client =>
    rcases createRefreshToken_cases backend s user client w with ⟨_, _, hs, he, h, -⟩ | h
    · exact Or.inr ⟨_, h, .createRefreshToken user client hs he⟩
    · exact Or.inl h
  | issueSession user role client =>
    rcases issueSession_cases backend s user role client w with ⟨hcalls, -⟩ | hcalls
    · rcases createRefreshToken_cases backend s user client w with ⟨_, _, hs, he, h, -⟩ | h
      · exact Or.inr ⟨_, hcalls.trans h, .issueSession user role client hs he⟩
      · exact Or.inl (hcalls.trans h)
    · exact Or.inl hcalls
  | refreshTokens token client =>
    simp only [program, refreshTokens_eq]
    rcases exec_withSecret backend refreshLength_ne_zero s.refreshLifetime
        (s.exchange token client) w with
      ⟨next, expiresAt, hs, he, -, hcalls⟩ | ⟨-, hcalls⟩
    · refine Or.inr ⟨_, ?_, .refreshTokens token client hs he⟩
      exact hcalls.trans (calls_exchange backend s token client next expiresAt _)
    · exact Or.inl hcalls
  | revokeRefreshToken token => exact Or.inr ⟨_, rfl, .revokeRefreshToken token⟩
  | revokeAllRefreshTokens userId =>
    cases hu : Uuid.ofUserText? userId with
    | none => exact Or.inl (by simp [program, revokeAllRefreshTokens, hu])
    | some user =>
      refine Or.inr ⟨_, ?_, .revokeAllRefreshTokens hu⟩
      simp only [program, revokeAllRefreshTokens, hu]
      refine Program.calls_ask_bind backend w (.revokeAll user) ?_
      intro _ w'
      exact Program.calls_log backend w' _
  | createPasswordReset user =>
    simp only [program, createPasswordReset_eq]
    rcases exec_withSecret backend resetLength_ne_zero resetLifetime (keepReset user) w with
      ⟨secret, expiresAt, hs, he, -, hcalls⟩ | ⟨-, hcalls⟩
    · refine Or.inr ⟨_, ?_, .createPasswordReset user hs he⟩
      exact hcalls.trans (calls_keepReset backend user secret expiresAt _)
    · exact Or.inl hcalls
  | verifyPasswordReset token => exact Or.inr ⟨_, rfl, .verifyPasswordReset token⟩

/-- When the store takes the record of a new refresh token, the token is given out. -/
theorem ok_of_calls_createRefreshToken {s : Service} {owner user : Uuid}
    {client client' : ClientInfo} {w : World σ} {digest : String} {expiresAt : Instant}
    (h : (s.createRefreshToken owner client').calls backend w =
      [.insertRefresh digest user expiresAt client])
    (hok : (backend (.insertRefresh digest user expiresAt client) w.now w.store).1 = .ok ()) :
    owner = user ∧ ∃ a, ((s.createRefreshToken owner client').exec backend w).1 = some (.ok a) := by
  rcases createRefreshToken_cases backend s owner client' w with
    ⟨secret, expiry, -, -, hcalls, hiff⟩ | hcalls
  · rw [hcalls] at h
    obtain ⟨rfl, rfl, rfl, rfl⟩ : secret.digest = digest ∧ owner = user ∧ expiry = expiresAt ∧
      client' = client := by simpa using h
    exact ⟨rfl, hiff.2 hok⟩
  · simp [hcalls] at h

/-- An operation from which the store takes a new refresh token has opened a session for the owner
of the token, and succeeds. -/
theorem opens_of_calls {s : Service} {op : Operation} {w : World σ} {digest : String} {user : Uuid}
    {expiresAt : Instant} {client : ClientInfo}
    (h : (s.program op).calls backend w = [.insertRefresh digest user expiresAt client])
    (hok : (backend (.insertRefresh digest user expiresAt client) w.now w.store).1 = .ok ()) :
    op.opens? = some user ∧ ∃ a, ((s.program op).exec backend w).1 = some (.ok a) := by
  have hasks : s.Asks w op (.insertRefresh digest user expiresAt client) := by
    rcases calls_program backend s op w with h' | ⟨call, h', ha⟩
    · simp [h'] at h
    · obtain rfl : call = _ := by simpa [h'] using h
      exact ha
  -- of all operations only the two that open a session make such a call
  cases hasks with
  | createRefreshToken =>
    obtain ⟨-, hexec⟩ := ok_of_calls_createRefreshToken backend h hok
    exact ⟨rfl, hexec⟩
  | issueSession _ role =>
    rcases issueSession_cases backend s user role client w with ⟨hcalls, hiff⟩ | hcalls
    · have hcreate := ok_of_calls_createRefreshToken backend (hcalls.symm.trans h) hok
      exact ⟨rfl, hiff.2 hcreate.2⟩
    · have hcalls' : (s.issueSession user role client).calls backend w = _ := h
      simp [hcalls'] at hcalls

end Programs

end Service

end Gatehouse
