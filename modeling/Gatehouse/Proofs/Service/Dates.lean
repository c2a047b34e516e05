/-
  Where dates run out.

  A sum of a date and a lifetime may lie beyond the calendar, and a lifetime may be too long to be a
  duration at all.  Nothing is given back then, not even an error (`Program.Abandoned`).  The check
  of settings is to rule this out: what it accepts is not looked at again.

  It does so for the lifetime of access tokens, which is at most a year.  The lifetime of refresh
  tokens has no upper bound in the check, and two things follow.  With more than `maxDays` days
  there is no service, not even a refusal.  With fewer there is one, but a refresh token whose end
  is beyond the calendar is never given out (`Overruns`).

  Nothing else is abandoned (`abandoned_only_for_days`), and nothing at all before the year 10000 if
  the days are no more than `lastingDays`, which is a quarter of a million years.
-/
import Gatehouse.Proofs.Service.Failure
import Gatehouse.Proofs.Service.Refresh

namespace Gatehouse

/-! ## The end of the calendar -/

/-- The first moment of the year 10000. -/
def yearTenThousand : Instant := 253402300800000

/-- For a date since 1970 only the end of the calendar can be passed. -/
theorem Instant.plus?_eq_none_iff {t : Instant} {d : Duration} (ht : (0 : Int) ≤ t)
    (hd : (0 : Int) ≤ d) : t.plus? d = none ↔ calendarEnd < Instant.seconds (t + d) := by
  have hseconds : 0 ≤ Instant.seconds (t + d) := Instant.seconds_nonneg (Int.add_nonneg ht hd)
  have hstart : calendarStart = -8334601228800 := rfl
  have hin : Instant.inCalendar (t + d) = true ↔ Instant.seconds (t + d) ≤ calendarEnd := by
    simp only [Instant.inCalendar, Bool.and_eq_true, decide_eq_true_eq]
    omega
  simp only [Instant.plus?]
  split
  · rename_i h
    have hle := hin.1 h
    simp only [reduceCtorEq, false_iff]
    omega
  · rename_i h
    have hgt := mt hin.2 h
    simp only [true_iff]
    omega

theorem Instant.seconds_lt_of_lt_year {t : Instant} (h : t < yearTenThousand) :
    t.seconds < 253402300800 := by
  have hlt : ¬ (253402300800000 : Int) ≤ t := Int.not_le.2 h
  rw [Instant.seconds_eq_ediv]
  omega

/-- The greatest number of days that is a duration. -/
def maxDays : Int := 106751991167

/-- As long as the days fit, they are a span of that many milliseconds. -/
theorem days?_eq_some {n : Int} (hpos : 0 < n) (h : n ≤ maxDays) :
    days? n = some (n * 86400 * 1000) := by
  have hmax : maxDuration = 9223372036854775807 := by decide
  unfold maxDays at h
  exact if_pos (by omega)

/-- Beyond the longest span there is no duration of so many days. -/
theorem days?_eq_none {n : Int} (h : maxDays < n) : days? n = none := by
  have hmax : maxDuration = 9223372036854775807 := by decide
  unfold maxDays at h
  exact if_neg (by omega)

namespace Service

variable {σ : Type} {s : Service} {c : TokenConfig}

/-! ## Which operations are abandoned -/

/-- `s.Overruns w op` — in the world `w` the operation has drawn a refresh token that would end
beyond the calendar. -/
inductive Overruns (s : Service) (w : World σ) : Operation → Prop where
  | createRefreshToken (user : Uuid) (client : ClientInfo)
      (drawn : (w.secret? Secret.refreshLength).isSome)
      (beyond : calendarEnd < Instant.seconds (w.now + s.refreshLifetime)) :
      Overruns s w (.createRefreshToken user client)
  | issueSession (user : Uuid) {role : String} (client : ClientInfo)
      (named : Text.blank role = false) (drawn : (w.secret? Secret.refreshLength).isSome)
      (beyond : calendarEnd < Instant.seconds (w.now + s.refreshLifetime)) :
      Overruns s w (.issueSession user role client)
  | refreshTokens (token : String) (client : ClientInfo)
      (drawn : (w.secret? Secret.refreshLength).isSome)
      (beyond : calendarEnd < Instant.seconds (w.now + s.refreshLifetime)) :
      Overruns s w (.refreshTokens token client)

section Programs

variable {α : Type} {backend : Backend σ} {w : World σ}

/-- Issuing a refresh token overruns the calendar exactly if the secret is drawn and the expiry lies
beyond the end. -/
theorem overruns_createRefreshToken_iff {user : Uuid} {client : ClientInfo} :
    s.Overruns w (.createRefreshToken user client) ↔
      (w.secret? Secret.refreshLength).isSome ∧
        calendarEnd < Instant.seconds (w.now + s.refreshLifetime) := by
  constructor
  · intro h
    cases h with
    | createRefreshToken _ _ drawn beyond => exact ⟨drawn, beyond⟩
  · rintro ⟨drawn, beyond⟩
    exact .createRefreshToken user client drawn beyond

theorem overruns_issueSession_iff {user : Uuid} {role : String} {client : ClientInfo} :
    s.Overruns w (.issueSession user role client) ↔
      Text.blank role = false ∧ (w.secret? Secret.refreshLength).isSome ∧
        calendarEnd < Instant.seconds (w.now + s.refreshLifetime) := by
  constructor
  · intro h
    cases h with
    | issueSession _ _ named drawn beyond => exact ⟨named, drawn, beyond⟩
  · rintro ⟨named, drawn, beyond⟩
    exact .issueSession user client named drawn beyond

/-- Refreshing overruns the calendar exactly if the new secret is drawn and the expiry lies beyond
the end. -/
theorem overruns_refreshTokens_iff {token : String} {client : ClientInfo} :
    s.Overruns w (.refreshTokens token client) ↔
      (w.secret? Secret.refreshLength).isSome ∧
        calendarEnd < Instant.seconds (w.now + s.refreshLifetime) := by
  constructor
  · intro h
    cases h with
    | refreshTokens _ _ drawn beyond => exact ⟨drawn, beyond⟩
  · rintro ⟨drawn, beyond⟩
    exact .refreshTokens token client drawn beyond

/-- A program that wants a secret, and does not abandon what it does with it, is abandoned exactly
when there is a secret and no date for its end. -/
theorem abandoned_withSecret_iff {n : Nat} (hn : n ≠ 0) {lifetime : Duration}
    {k : Secret → Instant → Program α}
    (hk : ∀ secret expiresAt w', w'.now = w.now → ¬ (k secret expiresAt).Abandoned backend w') :
    (withSecret n lifetime k).Abandoned backend w ↔
      (w.secret? n).isSome ∧ w.now.plus? lifetime = none := by
  rcases exec_generate backend hn w with ⟨secret, hs, h⟩ | ⟨hs, e, h⟩
  · unfold withSecret Program.Abandoned
    simp only [Program.exec_bind, h, Program.exec_now, hs, Option.isSome_some, true_and]
    cases hp : w.now.plus? lifetime with
    | none => simp
    | some expiresAt =>
      have hend := hk secret expiresAt { w with drawn := w.drawn + 1 } rfl
      simpa [Program.Abandoned] using hend
  · unfold withSecret Program.Abandoned
    simp [Program.exec_bind, h, hs]

/-- A token that would end beyond the calendar has not been told to the store. -/
theorem calls_withSecret_of_none {n : Nat} (hn : n ≠ 0) {lifetime : Duration}
    (k : Secret → Instant → Program α) (h : w.now.plus? lifetime = none) :
    (withSecret n lifetime k).calls backend w = [] := by
  rcases exec_withSecret backend hn lifetime k w with ⟨_, _, -, hsome, -, -⟩ | ⟨-, hcalls⟩
  · rw [h] at hsome
    cases hsome
  · exact hcalls

/-- Signing is not abandoned while the lifetime of access tokens ends inside the calendar. -/
theorem not_abandoned_signToken {c : Codec} {userId role : String}
    (h : w.now.plus? c.span ≠ none) : ¬ (signToken c userId role).Abandoned backend w := by
  unfold Program.Abandoned
  rw [exec_signToken_eq]
  cases Codec.checkIdentity userId role with
  | error e => simp
  | ok u => simpa [Codec.claimsAt?] using h

theorem not_abandoned_keep (user : Uuid) (client : ClientInfo) (secret : Secret)
    (expiresAt : Instant) : ¬ (keep user client secret expiresAt).Abandoned backend w := by
  unfold keep
  rw [Program.abandoned_bind_iff]
  rintro (h | ⟨_, w₁, -, h⟩)
  · exact Program.not_abandoned_of_exec (Program.exec_ask backend w _) h
  · simp [Program.Abandoned, Program.exec_bind] at h

theorem not_abandoned_keepReset (user : Uuid) (secret : Secret) (expiresAt : Instant) :
    ¬ (keepReset user secret expiresAt).Abandoned backend w := by
  unfold keepReset
  rw [Program.abandoned_bind_iff]
  rintro (h | ⟨_, w₁, -, h⟩)
  · exact Program.not_abandoned_of_exec (Program.exec_ask backend w _) h
  · cases h

/-- Once the access token's expiry is in the calendar, nothing of an exchange is given up. -/
theorem not_abandoned_exchange (token : String) (client : ClientInfo) (next : Secret)
    (expiresAt : Instant) (h : w.now.plus? s.codec.span ≠ none) :
    ¬ (s.exchange token client next expiresAt).Abandoned backend w := by
  unfold exchange
  rw [Program.abandoned_bind_iff]
  rintro (hask | ⟨rotation, w₁, hask, hrest⟩)
  · exact Program.not_abandoned_of_exec (Program.exec_ask backend w _) hask
  -- the store has answered, at the same time as before
  have hnow : w₁.now = w.now := by
    have hkeep := Program.now_exec backend
      (Program.ask (.rotate (digestToken token) next.digest expiresAt client)) w
    rwa [hask] at hkeep
  cases hr : rotation.reused with
  | true => simp [hr, Program.Abandoned, Program.exec_bind] at hrest
  | false =>
    simp only [hr, Bool.false_eq_true, if_false, Program.abandoned_bind_iff] at hrest
    rcases hrest with hsign | ⟨_, _, -, hpure⟩
    · exact not_abandoned_signToken (by rwa [hnow]) hsign
    · cases hpure

theorem not_abandoned_ask (call : Call) : ¬ (Program.ask call).Abandoned backend w :=
  Program.not_abandoned_of_exec (Program.exec_ask backend w call)

theorem not_abandoned_parseToken (token : String) :
    ¬ (s.parseToken token).Abandoned backend w := by
  unfold parseToken Program.Abandoned
  simp only [Program.exec_bind, Program.exec_now]
  cases s.codec.verify w.now.seconds token with
  | none => simp [Program.exec_bind]
  | some claims => simp

theorem not_abandoned_revokeAllRefreshTokens (userId : String) :
    ¬ (revokeAllRefreshTokens userId).Abandoned backend w := by
  unfold revokeAllRefreshTokens
  cases Uuid.ofUserText? userId with
  | none => simp [Program.Abandoned]
  | some user =>
    simp only [Program.abandoned_bind_iff]
    rintro (h | ⟨_, w₁, -, h⟩)
    · exact not_abandoned_ask (.revokeAll user) h
    · simp [Program.Abandoned] at h

theorem abandoned_createRefreshToken_iff (user : Uuid) (client : ClientInfo) :
    (s.createRefreshToken user client).Abandoned backend w ↔
      (w.secret? Secret.refreshLength).isSome ∧ w.now.plus? s.refreshLifetime = none := by
  rw [createRefreshToken_eq]
  refine abandoned_withSecret_iff refreshLength_ne_zero ?_
  intro secret expiresAt w' _
  exact not_abandoned_keep user client secret expiresAt

theorem abandoned_createPasswordReset_iff (user : Uuid) :
    (createPasswordReset user).Abandoned backend w ↔
      (w.secret? Secret.resetLength).isSome ∧ w.now.plus? resetLifetime = none := by
  rw [createPasswordReset_eq]
  refine abandoned_withSecret_iff resetLength_ne_zero ?_
  intro secret expiresAt w' _
  exact not_abandoned_keepReset user secret expiresAt

/-- A session whose access token is refused is not abandoned: the access token comes first. -/
theorem abandoned_issueSession_iff {user : Uuid} {role : String} {client : ClientInfo}
    (h : w.now.plus? s.codec.span ≠ none) :
    (s.issueSession user role client).Abandoned backend w ↔
      Text.blank role = false ∧ (s.createRefreshToken user client).Abandoned backend w := by
  have hid := Codec.checkIdentity_toText user role
  cases hrole : Text.blank role with
  | true =>
    rw [if_pos hrole] at hid
    refine iff_of_false ?_ (by simp)
    exact Program.not_abandoned_of_exec (exec_issueSession_of_error backend client hid)
  | false =>
    rw [if_neg (by simp [hrole])] at hid
    obtain ⟨claims, hclaims⟩ : ∃ claims, s.codec.claimsAt? w.now user.toText role = some claims :=
      Option.ne_none_iff_exists'.1 (by simpa [Codec.claimsAt?] using h)
    have hexec := exec_issueSession_of backend client hid hclaims
    unfold Program.Abandoned
    rw [hexec, Program.exec_bind]
    obtain ⟨- | - | refresh, w₁⟩ := (s.createRefreshToken user client).exec backend w <;> simp

/-- A year after the year 9999 there is a date. -/
theorem Fits.span_ends (fits : s.Fits c) {t : Instant} (ht : (0 : Int) ≤ t)
    (hyear : t < yearTenThousand) : t.plus? s.codec.span ≠ none := by
  have hyear' := Instant.seconds_lt_of_lt_year hyear
  have hend : calendarEnd = 8210266876799 := rfl
  have hhours : maxExpirationHours = 8760 := rfl
  have hpos := fits.hours_pos
  have hle := fits.hours_le
  rw [Ne, fits.span, Instant.plus?_eq_none_iff ht (by omega), Instant.seconds_add]
  omega

/-- So there is an hour after it. -/
theorem resetLifetime_ends {t : Instant} (ht : (0 : Int) ≤ t) (hyear : t < yearTenThousand) :
    t.plus? resetLifetime ≠ none := by
  have hyear' := Instant.seconds_lt_of_lt_year hyear
  have hend : calendarEnd = 8210266876799 := rfl
  rw [Ne, Instant.plus?_eq_none_iff ht (by decide), resetLifetime, Instant.seconds_add]
  omega

/-- As many days as are set may pass the end of the calendar. -/
theorem Fits.plus?_refreshLifetime_eq_none_iff (fits : s.Fits c) {t : Instant}
    (ht : (0 : Int) ≤ t) :
    t.plus? s.refreshLifetime = none ↔
      calendarEnd < Instant.seconds (t + s.refreshLifetime) := by
  have hdays := fits.days_pos
  refine Instant.plus?_eq_none_iff ht ?_
  rw [fits.refreshLifetime]
  omega

/-- Before the year 10000 the operations of accepted settings are abandoned exactly when their
refresh token would end beyond the calendar. -/
theorem abandoned_iff_overruns (fits : s.Fits c) (hnow : (0 : Int) ≤ w.now)
    (hyear : w.now < yearTenThousand) (op : Operation) :
    (s.program op).Abandoned backend w ↔ s.Overruns w op := by
  have haccess := fits.span_ends hnow hyear
  have hbeyond := fits.plus?_refreshLifetime_eq_none_iff hnow
  cases op with
  | createAccessToken user role =>
    refine iff_of_false (not_abandoned_signToken haccess) ?_
    rintro ⟨⟩
  | parseToken token =>
    refine iff_of_false (not_abandoned_parseToken token) ?_
    rintro ⟨⟩
  | createRefreshToken user client =>
    refine (abandoned_createRefreshToken_iff user client).trans ?_
    rw [hbeyond, overruns_createRefreshToken_iff]
  | issueSession user role client =>
    refine (abandoned_issueSession_iff haccess).trans ?_
    rw [abandoned_createRefreshToken_iff, hbeyond, overruns_issueSession_iff]
  | refreshTokens token client =>
    rw [overruns_refreshTokens_iff, ← hbeyond]
    refine abandoned_withSecret_iff refreshLength_ne_zero ?_
    intro secret expiresAt w' hw'
    exact not_abandoned_exchange token client secret expiresAt (by rwa [hw'])
  | revokeRefreshToken token =>
    refine iff_of_false (not_abandoned_ask _) ?_
    rintro ⟨⟩
  | revokeAllRefreshTokens userId =>
    refine iff_of_false (not_abandoned_revokeAllRefreshTokens userId) ?_
    rintro ⟨⟩
  | createPasswordReset user =>
    refine iff_of_false ?_ (by rintro ⟨⟩)
    exact fun h => resetLifetime_ends hnow hyear ((abandoned_createPasswordReset_iff user).1 h).2
  | verifyPasswordReset token =>
    refine iff_of_false (not_abandoned_ask _) ?_
    rintro ⟨⟩

/-- The store has not been asked for anything by then. -/
theorem calls_of_overruns {op : Operation} (fits : s.Fits c) (hnow : (0 : Int) ≤ w.now)
    (h : s.Overruns w op) : (s.program op).calls backend w = [] := by
  have hnone := (fits.plus?_refreshLifetime_eq_none_iff hnow).2
  have hcreate (user : Uuid) (client : ClientInfo)
      (beyond : calendarEnd < Instant.seconds (w.now + s.refreshLifetime)) :
      (s.createRefreshToken user client).calls backend w = [] :=
    calls_withSecret_of_none refreshLength_ne_zero (keep user client) (hnone beyond)
  cases h with
  | createRefreshToken user client _ beyond => exact hcreate user client beyond
  | issueSession user client _ _ beyond =>
    rcases issueSession_cases backend s user _ client w with ⟨hcalls, -⟩ | hcalls
    · exact hcalls.trans (hcreate user client beyond)
    · exact hcalls
  | refreshTokens token client _ beyond =>
    exact calls_withSecret_of_none refreshLength_ne_zero (s.exchange token client) (hnone beyond)

end Programs

/-! ## What the check of settings does not rule out -/

/-- The most days after which there is still a date, whatever day before the year 10000 it is. -/
def lastingDays : Int := 92093340

/-- Before the year 10000 a service of at most the lasting number of days never overruns. -/
theorem not_overruns {w : World σ} {op : Operation} (fits : s.Fits c)
    (hyear : w.now < yearTenThousand) (hdays : c.refreshDays ≤ lastingDays) :
    ¬ s.Overruns w op := by
  have hin : ¬ calendarEnd < Instant.seconds (w.now + s.refreshLifetime) := by
    have hyear' := Instant.seconds_lt_of_lt_year hyear
    have hend : calendarEnd = 8210266876799 := rfl
    unfold lastingDays at hdays
    rw [fits.refreshLifetime, Instant.seconds_add]
    omega
  intro h
  cases h with
  | createRefreshToken _ _ _ beyond => exact hin beyond
  | issueSession _ _ _ _ beyond => exact hin beyond
  | refreshTokens _ _ _ beyond => exact hin beyond

/-- One day more is too many for a refresh token of the last moment before the year 10000. -/
theorem overruns_of_lastingDays_lt {w : World σ} (fits : s.Fits c)
    (hnow : w.now = yearTenThousand - 1) (hdays : lastingDays < c.refreshDays)
    (drawn : (w.secret? Secret.refreshLength).isSome) (user : Uuid) (client : ClientInfo) :
    s.Overruns w (.createRefreshToken user client) := by
  refine .createRefreshToken user client drawn ?_
  have hseconds : Instant.seconds (yearTenThousand - 1) = 253402300799 := by decide
  have hend : calendarEnd = 8210266876799 := rfl
  unfold lastingDays at hdays
  rw [hnow, fits.refreshLifetime, Instant.seconds_add, hseconds, hend]
  omega

/-- **Of accepted settings only too many days go wrong.**  With more days than a duration may have
there is no service, and with no more there is one.  From 1970 until the year 9999 an operation of
it is abandoned exactly when it has drawn a refresh token that would end beyond the calendar, and
the store has not been asked for anything by then.  It does not come to that with `lastingDays` days
or fewer. -/
theorem abandoned_only_for_days {c : TokenConfig} (h : c.check = .ok ()) :
    (maxDays < c.refreshDays → ofConfig? c = none) ∧
    (c.refreshDays ≤ maxDays → ∃ s, ofConfig? c = some (.ok s)) ∧
    ∀ s, ofConfig? c = some (.ok s) →
      ∀ {σ : Type} (backend : Backend σ) (w : World σ),
        (0 : Int) ≤ w.now → w.now < yearTenThousand → ∀ op : Operation,
          ((s.program op).Abandoned backend w ↔ s.Overruns w op) ∧
          ((s.program op).Abandoned backend w → (s.program op).calls backend w = []) ∧
          (c.refreshDays ≤ lastingDays → ¬ (s.program op).Abandoned backend w) := by
  obtain ⟨-, -, -, hpos⟩ := bounds_of_check h
  have hservice := ofConfig?_eq_map h
  refine ⟨?_, ?_, ?_⟩
  · intro hmax
    rw [hservice, days?_eq_none hmax]
    rfl
  · intro hmax
    rw [hservice, days?_eq_some hpos hmax]
    exact ⟨_, rfl⟩
  · intro s hs σ backend w hnow hyear op
    have fits := fits_of_ofConfig? hs
    have hiff : (s.program op).Abandoned backend w ↔ s.Overruns w op :=
      abandoned_iff_overruns fits hnow hyear op
    refine ⟨hiff, ?_, ?_⟩
    · intro habandoned
      exact calls_of_overruns fits hnow (hiff.1 habandoned)
    · intro hdays habandoned
      exact not_overruns fits hyear hdays (hiff.1 habandoned)

/-- A service with the plain settings, which has a month, is not abandoned. -/
theorem abandoned_only_for_days_month :
    plainConfig.check = .ok () ∧ ofConfig? plainConfig = some (.ok plainService) ∧
      ¬ (plainService.createRefreshToken (.ofNat 1) ⟨none, none⟩).Abandoned Memory.backend
        { now := 1700000000000, entropy := countingEntropy, store := {} } := by
  have hcheck : plainConfig.check = .ok () := by decide
  have hs : ofConfig? plainConfig = some (.ok plainService) := by with_unfolding_all rfl
  obtain ⟨-, -, hall⟩ := abandoned_only_for_days hcheck
  have hop := hall plainService hs Memory.backend
    { now := 1700000000000, entropy := countingEntropy, store := {} } (by decide) (by decide)
    (.createRefreshToken (.ofNat 1) ⟨none, none⟩)
  exact ⟨hcheck, hs, hop.2.2 (by decide)⟩

/-- The plain settings, but for the days. -/
def daysConfig (days : Int) : TokenConfig := { plainConfig with refreshDays := days }

/-- The check accepts days that are no duration, and then there is no service.  It accepts a hundred
million days, and then the service has no date for the end of a refresh token today. -/
theorem accepted_days_abandoned :
    (daysConfig 9223372036854775807).check = .ok () ∧
    ofConfig? (daysConfig 9223372036854775807) = none ∧
    (daysConfig 100000000).check = .ok () ∧
    ∃ s, ofConfig? (daysConfig 100000000) = some (.ok s) ∧
      (s.createRefreshToken (.ofNat 1) ⟨none, none⟩).Abandoned Memory.backend
        { now := 1700000000000, entropy := countingEntropy, store := {} } := by
  have hcheck : (daysConfig 100000000).check = .ok () := by decide
  have hservice := ofConfig?_eq_map hcheck
  rw [days?_eq_some (by decide) (by decide)] at hservice
  refine ⟨by decide, by with_unfolding_all rfl, hcheck, _, hservice, ?_⟩
  rw [abandoned_createRefreshToken_iff]
  exact ⟨rfl, by decide⟩

end Service

end Gatehouse
