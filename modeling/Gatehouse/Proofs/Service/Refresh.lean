/-
  Who gets a new pair of tokens.

  A pair is given out only for a token that the store replaces, and it replaces only an open one
  that has not expired.  Such a record has an origin (`Service/Origin`): the service drew the secret
  itself, for a user to whom it gave it, and nothing has touched the record since.  The access token
  of the pair names that user with the role the user has now, and the codec reads it back
  (`Token/Codec`).

  So whoever gets a pair holds a secret of the service that is still live, and gets the identity
  that goes with it (`refreshed_token_is_live`).
-/
import Gatehouse.Proofs.Service.Config
import Gatehouse.Proofs.Service.Origin
import Gatehouse.Proofs.Token.Codec

namespace Gatehouse.Service

variable {s : Service}

/-- What a pair of tokens takes: the presented token is good, and the access token names its owner
with the role of now. -/
theorem good_of_refreshTokens {token : String} {client : ClientInfo} {w w' : World Memory}
    {pair : TokenPair}
    (h : (s.refreshTokens token client).exec Memory.backend w = (some (.ok pair), w')) :
    ∃ r account claims, w.store.Good w.now (digestToken token) r account ∧
      s.codec.claimsAt? w.now r.user.toText account.user.role = some claims ∧
      pair.access = s.codec.sign claims := by
  rw [refreshTokens_eq] at h
  rcases exec_withSecret Memory.backend refreshLength_ne_zero s.refreshLifetime
      (s.exchange token client) w with ⟨next, expiresAt, -, -, hexec, -⟩ | ⟨hno, -⟩
  · obtain ⟨rotation, claims, hrot, hfresh, hclaims, rfl⟩ :=
      exec_exchange_ok Memory.backend (hexec.symm.trans h)
    have hans : (w.store.rotate w.now (digestToken token) next.digest expiresAt client).1 =
      .ok rotation := hrot
    obtain ⟨r, account, good, -, rfl, -⟩ := Memory.good_of_rotate hans hfresh
    exact ⟨r, account, claims, good, hclaims, rfl⟩
  · exact absurd (congrArg Prod.fst h) (hno pair)

/-- **Only a live secret of the service gets a new pair, and the pair names its owner.**  The digest
of the presented token is that of a secret that the service drew in an earlier step and stored for a
user.  In every state since then its record is the one that was stored, and no call has replaced or
revoked it or closed the sessions of the user; its lifetime is not over.  The access token of the
pair is accepted now, and it names the user, the role that the user has now, and a lifetime of as
many hours as were set. -/
theorem refreshed_token_is_live {c : TokenConfig} {s : Service} (hs : ofConfig? c = some (.ok s))
    (w : World Memory) (accounts : Table Uuid Account) (steps : List Step) {now : Instant}
    (hnow : (0 : Int) ≤ now) (entropy : Entropy) {token : String} {client : ClientInfo}
    {pair : TokenPair} {w' : World Memory}
    (h : (s.refreshTokens token client).exec Memory.backend
      { s.run { w with store := { accounts } } steps with now, entropy } =
        (some (.ok pair), w')) :
    let start : World Memory := { w with store := { accounts } }
    ∃ before issuedAt source op after secret r,
      steps = before ++ .serve issuedAt source op :: after ∧
      secret.digest = digestToken token ∧
      s.Issues (s.run start before) issuedAt source op secret r ∧
      s.Untouched (s.perform (s.run start before) (.serve issuedAt source op)) after
        (digestToken token) r ∧
      now < issuedAt + c.refreshDays * 86400 * 1000 ∧
      ∃ account claims, (s.run start steps).store.accounts.get? r.user = some account ∧
        (∀ v : World Memory, v.now = now →
          (s.parseToken pair.access).exec Memory.backend v = (some (.ok claims), v)) ∧
        claims.subject = r.user.toText ∧ claims.role = account.user.role ∧
        claims.expiresAt - claims.issuedAt = c.expirationHours * 3600 := by
  intro start
  have fits := fits_of_ofConfig? hs
  obtain ⟨r, account, claims, good, hclaims, haccess⟩ := good_of_refreshTokens h
  obtain ⟨before, issuedAt, source, op, after, secret, hsteps, hdigest, hissues, huntouched⟩ :=
    exists_untouched (s := s) (w := start) rfl good.known good.unrevoked
  refine ⟨before, issuedAt, source, op, after, secret, r, hsteps, hdigest, hissues, huntouched,
    ?_, account, claims, good.owner, ?_, ?_⟩
  · -- the lifetime that was set when the record was stored is not over
    have hlt : now < r.expiresAt := by simpa [expired] using good.unexpired
    rwa [hissues.expiresAt, fits.refreshLifetime] at hlt
  · -- the codec reads back what it signed, for it was signed at the time that `v` shows
    intro v hv
    obtain ⟨hpos, hmax⟩ := fits.span_bounds
    refine exec_parseToken Memory.backend ?_
    rw [hv, haccess]
    exact Codec.verify_issued_now hmax (Int.le_of_lt hpos) hnow hclaims
  · have hlife := fits.lifetime_of_claimsAt? hclaims
    rw [fits.lifetime_eq] at hlife
    obtain rfl := fits.claims_eq hclaims
    exact ⟨rfl, rfl, hlife⟩

/-! ### A session that is refreshed -/

/-- Settings with defaults wherever there is one. -/
def plainConfig : TokenConfig := { secret := "0123456789abcdef0123456789abcdef" }

/-- The service for them. -/
def plainService : Service := ⟨⟨plainConfig.secret, defaultIssuer, 3600000⟩, 2592000000⟩

/-- A source of random bytes that fills every secret with its number. -/
def countingEntropy : Entropy := ⟨fun k n => .ok (.replicate n (.ofNat k)), .error ""⟩

/-- A user opens a session and then gets another role. -/
def promotion : List Step :=
  [.register ⟨.ofNat 1, "a@example.org", none, "learner"⟩ "",
    .serve 0 countingEntropy (.issueSession (.ofNat 1) "learner" ⟨none, none⟩),
    .setRole (.ofNat 1) "teacher"]

/-- The user refreshes the session, a second after it was opened. -/
def promoted : Option (Except AuthError TokenPair) × World Memory :=
  (plainService.refreshTokens (Secret.textOfBytes (List.replicate 64 1)) ⟨none, none⟩).exec
    Memory.backend
    { plainService.run { now := 0, entropy := countingEntropy, store := { accounts := ∅ } }
        promotion with now := 1000, entropy := countingEntropy }

theorem isSome_promoted : (promoted.1.bind Except.toOption).isSome = true := by decide +kernel

/-- The second after, the user has a pair, and its access token is good for an hour. -/
theorem refreshed_token_is_live_promoted :
    ∃ pair w', promoted = (some (.ok pair), w') ∧
      ∃ claims, (plainService.parseToken pair.access).exec Memory.backend
          { w' with now := 1000 } = (some (.ok claims), { w' with now := 1000 }) ∧
        claims.expiresAt - claims.issuedAt = 3600 := by
  have hs : ofConfig? plainConfig = some (.ok plainService) := by with_unfolding_all rfl
  have hok := isSome_promoted
  cases h : promoted with
  | mk outcome w' =>
    rcases outcome with - | e | pair
    · simp [h] at hok
    · simp [h, Except.toOption] at hok
    · obtain ⟨_, _, _, _, _, _, _, _, _, _, _, _, _, claims, _, hparse, _, _, hlife⟩ :=
        refreshed_token_is_live hs { now := 0, entropy := countingEntropy, store := {} } ∅ promotion
          (show (0 : Int) ≤ 1000 by decide) countingEntropy h
      exact ⟨pair, w', rfl, claims, hparse _ rfl, hlife⟩

end Gatehouse.Service
