/-
  The service that accepted settings make.
-/
import Gatehouse.Proofs.Config
import Gatehouse.Proofs.Token.Codec
import Gatehouse.Service

namespace Gatehouse.Service

/-- `s.Fits c` — the settings are accepted ones, and the service runs with them. -/
structure Fits (s : Service) (c : TokenConfig) : Prop where
  hours_pos : 0 < c.expirationHours
  hours_le : c.expirationHours ≤ maxExpirationHours
  days_pos : 0 < c.refreshDays
  secret : s.codec.secret = c.secret
  issuer : s.codec.issuer = c.issuer
  span : s.codec.span = c.expirationHours * 3600 * 1000
  refreshLifetime : s.refreshLifetime = c.refreshDays * 86400 * 1000

theorem duration?_eq_some {n : Int} {d : Duration} (h : duration? n = some d) : d = n * 1000 := by
  unfold duration? at h
  split at h
  · exact (Option.some.inj h).symm
  · cases h

/-- What the check of settings leaves. -/
theorem bounds_of_check {c : TokenConfig} (h : c.check = .ok ()) :
    c.secret.isEmpty = false ∧ 0 < c.expirationHours ∧ c.expirationHours ≤ maxExpirationHours ∧
      0 < c.refreshDays := by
  obtain ⟨hsecret, -, hpos, hle, hdays⟩ := TokenConfig.check_eq_ok_iff.1 h
  have hempty : c.secret.isEmpty = false := by
    rw [Bool.eq_false_iff]
    intro hempty
    rw [String.isEmpty_iff.1 hempty] at hsecret
    exact absurd hsecret (by decide)
  exact ⟨hempty, hpos, hle, hdays⟩

/-- Accepted settings make a service, if their days are a duration. -/
theorem ofConfig?_eq_map {c : TokenConfig} (h : c.check = .ok ()) :
    ofConfig? c = (days? c.refreshDays).map fun ttl =>
      .ok ⟨⟨c.secret, c.issuer, c.expirationHours * 3600 * 1000⟩, ttl⟩ := by
  obtain ⟨hsecret, hpos, hle, -⟩ := bounds_of_check h
  -- the hours are a duration, since no more than a year of them is accepted
  have hhours : hours? c.expirationHours = some (c.expirationHours * 3600 * 1000) := by
    have hmax : maxDuration = 9223372036854775807 := by decide
    have hyear : maxExpirationHours = 8760 := rfl
    exact if_pos (by omega)
  unfold ofConfig? Codec.ofConfig? Codec.create
  simp only [h, hhours, hsecret, Option.map_some, Bool.false_eq_true, if_false]

/-- A service is made of settings that passed their check, and of nothing else. -/
theorem fits_of_ofConfig? {c : TokenConfig} {s : Service} (h : ofConfig? c = some (.ok s)) :
    s.Fits c := by
  cases hcheck : c.check with
  | error problem => simp [ofConfig?, hcheck] at h
  | ok u =>
    obtain ⟨-, hpos, hle, hdays⟩ := bounds_of_check hcheck
    rw [ofConfig?_eq_map hcheck, Option.map_eq_some_iff] at h
    obtain ⟨ttl, httl, hs⟩ := h
    obtain rfl := Except.ok.inj hs
    exact ⟨hpos, hle, hdays, rfl, rfl, rfl, duration?_eq_some httl⟩

/-- Access tokens of accepted settings live for a while, and no longer than a duration can be. -/
theorem Fits.span_bounds {s : Service} {c : TokenConfig} (h : s.Fits c) :
    (0 : Int) < s.codec.span ∧ s.codec.span.natAbs ≤ maxDuration := by
  have hmax : maxDuration = 9223372036854775807 := by decide
  have hyear : maxExpirationHours = 8760 := rfl
  obtain ⟨hpos, hle, -, -, -, hspan, -⟩ := h
  rw [hspan]
  omega

/-- Clients are told as many seconds as the hours of the settings have. -/
theorem Fits.lifetime_eq {s : Service} {c : TokenConfig} (h : s.Fits c) :
    s.codec.lifetime = c.expirationHours * 3600 := by
  rw [Codec.lifetime, h.span]
  exact Int.mul_tdiv_cancel _ (by decide)

/-- The claims of a token end as many hours after its second as were set. -/
theorem Fits.claims_eq {s : Service} {c : TokenConfig} (h : s.Fits c) {now : Instant}
    {userId role : String} {claims : Claims}
    (hclaims : s.codec.claimsAt? now userId role = some claims) :
    claims =
      ⟨userId, role, c.issuer, now.seconds, now.seconds + c.expirationHours * 3600⟩ := by
  rw [(Codec.claimsAt?_eq_some_iff.1 hclaims).2, h.issuer, h.span, Instant.seconds_add]

/-- So they last as long as clients are told. -/
theorem Fits.lifetime_of_claimsAt? {s : Service} {c : TokenConfig} (h : s.Fits c) {now : Instant}
    {userId role : String} {claims : Claims}
    (hclaims : s.codec.claimsAt? now userId role = some claims) :
    claims.expiresAt - claims.issuedAt = s.codec.lifetime := by
  rw [h.claims_eq hclaims, h.lifetime_eq]
  show now.seconds + c.expirationHours * 3600 - now.seconds = c.expirationHours * 3600
  omega

end Gatehouse.Service
