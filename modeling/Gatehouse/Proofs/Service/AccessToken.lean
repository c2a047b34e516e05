/-
  Access tokens from signing to reading.

  Signing takes the time once, for the claims, and reading takes it once, to see whether the last
  second of the claims is over.  Nothing else of the world matters to either.

  What is signed is read back as it was, by every codec with the same key and issuer, from the
  second of signing up to the last second (`access_token_round_trip`).  And whatever is read was
  signed with the key: the service takes a token exactly when the codec vouches for its parts, and
  to every other text it gives one and the same answer (`access_token_acceptance`).
-/
import Gatehouse.Proofs.Service.Calls
import Gatehouse.Proofs.Token.Acceptance

namespace Gatehouse

/-- The world after a token was refused. -/
def World.refused {σ : Type} (w : World σ) : World σ := { w with log := w.log ++ [.tokenRejected] }

namespace Service

section Reading

variable {σ : Type} (backend : Backend σ) {s : Service} {token : String} {claims : Claims}
  {w : World σ}

/-- A token that is not good now is refused, and the refusal is logged. -/
theorem exec_parseToken_of_none (h : s.codec.verify w.now.seconds token = none) :
    (s.parseToken token).exec backend w = (some (.error .invalidToken), w.refused) := by
  unfold parseToken
  simp only [Program.exec_bind, Program.exec_now, h, Program.exec_log]
  rfl

/-- A token whose parts the codec vouches for is read up to its last second. -/
theorem exec_parseToken_of_vouches {p : Token.Parts} (h : s.codec.Vouches p claims) (w : World σ) :
    (s.parseToken p.text).exec backend w =
      if w.now.seconds ≤ claims.expiresAt then (some (.ok claims), w)
      else (some (.error .invalidToken), w.refused) := by
  have hverify := h.verify w.now.seconds
  by_cases hsecond : w.now.seconds ≤ claims.expiresAt
  · rw [if_pos hsecond] at hverify ⊢
    exact exec_parseToken backend hverify
  · rw [if_neg hsecond] at hverify ⊢
    exact exec_parseToken_of_none backend hverify

end Reading

/-! ## Signing and reading -/

/-- For somebody with a name and a role a token is signed, if the calendar has its last moment. -/
theorem exec_signToken_of {σ : Type} (backend : Backend σ) {c : Codec} {userId role : String}
    {w : World σ} {claims : Claims} (huser : Text.blank userId = false)
    (hrole : Text.blank role = false) (h : c.claimsAt? w.now userId role = some claims) :
    (signToken c userId role).exec backend w = (some (.ok (c.sign claims)), w) := by
  have hcheck : Codec.checkIdentity userId role = .ok () := by
    simp [Codec.checkIdentity, huser, hrole]
  rw [exec_signToken_eq, hcheck, h]
  rfl

/-- **What is signed is read back**: by every service with the same key and issuer, from the second
of signing up to the last second, and by none after that. -/
theorem access_token_round_trip {secret issuer userId role : String} {lifetime : Duration}
    (hsecret : secret ≠ "") (hlifetime : lifetime.natAbs ≤ maxDuration)
    (huser : Text.blank userId = false) (hrole : Text.blank role = false) {σ : Type}
    (backend : Backend σ) {w : World σ} (hnow : (0 : Int) ≤ w.now) {expiry : Instant}
    (hexpiry : w.now.plus? lifetime = some expiry) :
    ∃ c token, Codec.create secret issuer lifetime = .ok c ∧
      (signToken c userId role).exec backend w = (some (.ok token), w) ∧
      ∀ s : Service, s.codec.secret = secret → s.codec.issuer = issuer → ∀ v : World σ,
        (w.now.seconds ≤ v.now.seconds → v.now.seconds ≤ expiry.seconds →
          (s.parseToken token).exec backend v =
            (some (.ok ⟨userId, role, issuer, w.now.seconds, expiry.seconds⟩), v)) ∧
        (expiry.seconds < v.now.seconds →
          (s.parseToken token).exec backend v = (some (.error .invalidToken), v.refused)) := by
  have hcreate : Codec.create secret issuer lifetime = .ok ⟨secret, issuer, lifetime⟩ := by
    simp [Codec.create, hsecret]
  have hclaims : Codec.claimsAt? ⟨secret, issuer, lifetime⟩ w.now userId role =
      some ⟨userId, role, issuer, w.now.seconds, expiry.seconds⟩ := by
    rw [Codec.claimsAt?, hexpiry]
    rfl
  have hsign := exec_signToken_of backend huser hrole hclaims
  refine ⟨_, _, hcreate, hsign, fun s hs hi v => ?_⟩
  have hverify : s.codec.verify v.now.seconds (Codec.sign ⟨secret, issuer, lifetime⟩ _) = _ :=
    (congrFun (congrFun (Codec.verify_congr hs hi) _) _).trans
      (Codec.verify_issued hlifetime hclaims v.now.seconds)
  constructor
  · intro hfrom huntil
    have hstart : 0 ≤ w.now.seconds := Instant.seconds_nonneg hnow
    have hpos : 0 ≤ expiry.seconds := Int.le_trans hstart (Int.le_trans hfrom huntil)
    exact exec_parseToken backend (hverify.trans (if_pos ⟨hpos, huntil⟩))
  · intro hover
    refine exec_parseToken_of_none backend (hverify.trans (if_neg fun hgood => ?_))
    exact absurd hgood.2 (Int.not_le.2 hover)

/-- A name with a dot, a quote, a backslash and a control character and a role that takes four bytes
are read back for an hour and a millisecond.  The millisecond is the first of another second, and
that second is the last of the token. -/
theorem access_token_round_trip_hour :
    let s : Service := ⟨⟨"key", "a \"b\"", 3600001⟩, 0⟩
    let w : World Memory :=
      { now := 1700000000999, entropy := ⟨fun _ _ => .error "", .error ""⟩, store := {} }
    ∃ token,
      (signToken s.codec "x.\"\\\u0000" "𝄞").exec Memory.backend w = (some (.ok token), w) ∧
      (s.parseToken token).exec Memory.backend { w with now := 1700003601999 } =
        (some (.ok ⟨"x.\"\\\u0000", "𝄞", "a \"b\"", 1700000000, 1700003601⟩),
          { w with now := 1700003601999 }) ∧
      (s.parseToken token).exec Memory.backend { w with now := 1700003602000 } =
        (some (.error .invalidToken), { w with now := 1700003602000, log := [.tokenRejected] }) := by
  intro s w
  obtain ⟨c, token, hc, hsign, hparse⟩ := access_token_round_trip (show "key" ≠ "" by decide)
    (show (3600001 : Int).natAbs ≤ maxDuration by decide)
    (show Text.blank "x.\"\\\u0000" = false by decide)
    (show Text.blank "𝄞" = false by decide) Memory.backend
    (show (0 : Int) ≤ w.now by decide)
    (show w.now.plus? 3600001 = some 1700003601000 by decide)
  have hcreate : Codec.create "key" "a \"b\"" 3600001 = .ok s.codec := rfl
  obtain rfl := Except.ok.inj (hcreate.symm.trans hc)
  have hwithin := (hparse s rfl rfl { w with now := 1700003601999 }).1 (by decide) (by decide)
  have hafter := (hparse s rfl rfl { w with now := 1700003602000 }).2 (by decide)
  exact ⟨token, hsign, hwithin, hafter⟩

/-! ## Reading whatever is presented -/

/-- **A token is read exactly when the codec vouches for its parts** and its last second is not over.
Then the claims are those of its payload, and they are read up to the last second and never after
it.  Every other text is refused, and in one way. -/
theorem access_token_acceptance (s : Service) (token : String) {σ : Type} (backend : Backend σ)
    (w : World σ) :
    (∃ p claims, p.text = token ∧ s.codec.Vouches p claims ∧
      w.now.seconds ≤ claims.expiresAt ∧
      (s.parseToken token).exec backend w = (some (.ok claims), w) ∧
      ∀ v : World σ, (s.parseToken token).exec backend v =
        if v.now.seconds ≤ claims.expiresAt then (some (.ok claims), v)
        else (some (.error .invalidToken), v.refused)) ∨
    ((s.parseToken token).exec backend w = (some (.error .invalidToken), w.refused) ∧
      ¬ ∃ p claims, p.text = token ∧ s.codec.Vouches p claims ∧
        w.now.seconds ≤ claims.expiresAt) := by
  cases h : s.codec.verify w.now.seconds token with
  | some claims =>
    obtain ⟨⟨p, rfl, hvouches⟩, hsecond⟩ := Codec.verify_eq_some_iff.1 h
    exact Or.inl ⟨p, claims, rfl, hvouches, hsecond, exec_parseToken backend h,
      exec_parseToken_of_vouches backend hvouches⟩
  | none =>
    refine Or.inr ⟨exec_parseToken_of_none backend h, ?_⟩
    rintro ⟨p, claims, rfl, hvouches, hsecond⟩
    rw [hvouches.verify, if_pos hsecond] at h
    cases h

end Service
end Gatehouse
