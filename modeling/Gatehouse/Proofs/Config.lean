/-
  Which settings are accepted.

  Settings are read from variables, and a variable holds any text at all.  Three of them hold a
  number and one a yes or no, with blanks around it; the others are taken as they are.  What the
  texts must be is said here without the reader: a number is a numeral of a 64-bit integer
  (`Text.WritesInt64`), a yes or no is one of nine words (`Says`).  `Variables.Accepted` puts together
  what the variables must hold, and `ServerConfig.ReadFrom` what the settings are then.

  Each step of the reader is turned into what it asks of its variable, so reading as a whole, which
  stops at the first variable that is wrong, succeeds when all of them are right, in whatever order
  they are looked at (`ServerConfig.ofVariables_eq_ok_iff`).
-/
import Gatehouse.Config
import Gatehouse.Proofs.Text.Numeral

namespace Gatehouse

open Text

theorem Except.bind_eq_ok_iff {ε α β : Type} {x : Except ε α} {f : α → Except ε β} {b : β} :
    (x >>= f) = .ok b ↔ ∃ a, x = .ok a ∧ f a = .ok b := by
  cases x with
  | error e =>
    constructor
    · intro h
      cases h
    · rintro ⟨a, h, -⟩
      cases h
  | ok a =>
    constructor
    · intro h
      exact ⟨a, rfl, h⟩
    · rintro ⟨a', h, hf⟩
      obtain rfl := Except.ok.inj h
      exact hf

/-! ## Signing and lifetimes -/

/-- What is asked of the settings for signing and lifetimes. -/
structure TokenConfig.Acceptable (c : TokenConfig) : Prop where
  /-- The key has at least thirty-two characters. -/
  secret : 32 ≤ c.secret.length
  /-- The issuer is not blank. -/
  issuer : ∃ letter ∈ c.issuer.toList, isBlank letter = false
  /-- Access tokens live for an hour at least. -/
  hours_pos : 1 ≤ c.expirationHours
  /-- Access tokens live for a year at most. -/
  hours_le : c.expirationHours ≤ 8760
  /-- Refresh tokens live for a day at least. -/
  days_pos : 1 ≤ c.refreshDays

theorem blank_eq_false_iff {s : String} :
    blank s = false ↔ ∃ letter ∈ s.toList, isBlank letter = false := by
  rw [blank, List.all_eq_false]
  simp

theorem TokenConfig.check_eq_ok_iff {c : TokenConfig} : c.check = .ok () ↔ c.Acceptable := by
  have hempty : c.secret.isEmpty = true → c.secret.length = 0 := by
    intro h
    rw [String.isEmpty_iff.1 h]
    rfl
  have hmin : minSecretLength = 32 := rfl
  have hmax : maxExpirationHours = 8760 := rfl
  constructor
  · intro h
    unfold check at h
    split at h
    · cases h
    split at h
    · cases h
    split at h
    · cases h
    split at h
    · cases h
    split at h
    · cases h
    split at h
    · cases h
    next _ hsecret hissuer hpos hle hdays =>
      have hissuer : blank c.issuer = false := Bool.eq_false_iff.2 hissuer
      exact ⟨by omega, blank_eq_false_iff.1 hissuer, by omega, by omega, by omega⟩
  · rintro ⟨hsecret, hissuer, hpos, hle, hdays⟩
    have hissuer : ¬ blank c.issuer = true := by
      rw [blank_eq_false_iff.2 hissuer]
      decide
    unfold check
    rw [if_neg fun h => by have := hempty h; omega, if_neg (by omega), if_neg hissuer,
      if_neg (by omega), if_neg (by omega), if_neg (by omega)]

/-! ## Variables -/

/-- `vars.Sets name default n` — the number that a variable gives: the default if the variable is
absent, and else the one it writes. -/
def Variables.Sets (vars : Variables) (name : String) (default n : Int) : Prop :=
  match vars name with
  | none => n = default
  | some raw => WritesInt64 raw n

theorem Variables.integer_eq_ok_iff {vars : Variables} {name : String} {default n : Int}
    {problem : String → String → ConfigProblem} :
    vars.integer name default problem = .ok n ↔ vars.Sets name default n := by
  unfold Variables.integer Variables.Sets
  cases vars name with
  | none =>
    constructor
    · intro h
      exact (Except.ok.inj h).symm
    · rintro rfl
      rfl
  | some raw =>
    simp only [← readInt64_trim_eq_ok_iff]
    cases readInt64 (trim raw) with
    | ok m => simp
    | error e => simp

/-- The words for yes and those for no. -/
def wordsFor : Bool → List String
  | true => ["1", "true", "yes", "on"]
  | false => ["0", "false", "no", "off", ""]

/-- `Says raw b` — the text is a word for yes or for no, with blanks around it, and with capitals or
without. -/
def Says (raw : String) (b : Bool) : Prop :=
  Around (fun l => asciiLowerCase (String.ofList l) ∈ wordsFor b) raw.toList

theorem toLower_of_blank {c : Char} (h : isBlank c = true) : c.toLower = c := by
  obtain ⟨r, hr, hle⟩ := inRanges_iff.1 h
  have hcapital : ¬ (65 ≤ c.toNat ∧ c.toNat ≤ 90) := by
    simp only [blankRanges, List.mem_cons, List.not_mem_nil, or_false] at hr
    rcases hr with rfl | rfl | rfl | rfl | rfl | rfl | rfl | rfl | rfl | rfl <;> omega
  refine dif_neg fun hc => hcapital ⟨?_, ?_⟩
  · exact UInt32.le_iff_toNat_le.1 hc.1
  · exact UInt32.le_iff_toNat_le.1 hc.2

/-- No word for yes or no has a blank in it, in whatever case it is written. -/
theorem not_blank_of_mem_wordsFor {b : Bool} {l : List Char}
    (h : asciiLowerCase (String.ofList l) ∈ wordsFor b) : ∀ c ∈ l, isBlank c = false := by
  have hwords : ∀ b : Bool, ∀ word ∈ wordsFor b, word.toList.any isBlank = false := by
    decide +kernel
  intro c hc
  rw [Bool.eq_false_iff]
  intro hblank
  have hmem : c.toLower ∈ (asciiLowerCase (String.ofList l)).toList := by
    rw [asciiLowerCase, String.toList_map, String.toList_ofList]
    exact List.mem_map_of_mem hc
  rw [toLower_of_blank hblank] at hmem
  exact Bool.noConfusion ((not_blank_of_any (hwords b _ h) c hmem).symm.trans hblank)

theorem readFlag_eq_ok_iff {name raw : String} {b : Bool} :
    readFlag name raw = .ok b ↔ Says raw b := by
  have hapart : ∀ word ∈ wordsFor false, word ∉ wordsFor true := by decide
  rw [Says, around_iff fun middle hmiddle => not_blank_of_mem_wordsFor hmiddle]
  show readFlag name raw = .ok b ↔ asciiLowerCase (trim raw) ∈ wordsFor b
  unfold readFlag
  show (if asciiLowerCase (trim raw) ∈ wordsFor true then Except.ok true
    else if asciiLowerCase (trim raw) ∈ wordsFor false then Except.ok false
    else Except.error (ConfigProblem.notBoolean name raw)) = .ok b ↔ _
  by_cases hyes : asciiLowerCase (trim raw) ∈ wordsFor true
  · rw [if_pos hyes]
    cases b with
    | true => exact iff_of_true rfl hyes
    | false => exact iff_of_false (by simp) fun hno => hapart _ hno hyes
  · rw [if_neg hyes]
    by_cases hno : asciiLowerCase (trim raw) ∈ wordsFor false
    · rw [if_pos hno]
      cases b with
      | true => exact iff_of_false (by simp) hyes
      | false => exact iff_of_true rfl hno
    · rw [if_neg hno]
      cases b with
      | true => exact iff_of_false (by simp) hyes
      | false => exact iff_of_false (by simp) hno

/-- `vars.Answers name b` — the yes or no that a variable gives: no if the variable is absent, and
else what it says. -/
def Variables.Answers (vars : Variables) (name : String) (b : Bool) : Prop :=
  match vars name with
  | none => b = false
  | some raw => Says raw b

/-! ## Reading the settings -/

/-- `c.ReadFrom vars` — the settings are what the variables hold, and the defaults where a variable
is absent. -/
structure TokenConfig.ReadFrom (c : TokenConfig) (vars : Variables) : Prop where
  /-- The key is given. -/
  secret : vars "JWT_SECRET" = some c.secret
  /-- The issuer. -/
  issuer : c.issuer = (vars "JWT_ISSUER").getD "egaldeutsch"
  /-- The lifetime of an access token. -/
  hours : vars.Sets "JWT_EXPIRATION_HOURS" 1 c.expirationHours
  /-- The lifetime of a refresh token. -/
  days : vars.Sets "REFRESH_TOKEN_EXPIRATION_DAYS" 30 c.refreshDays

/-- **Settings for signing and lifetimes are read exactly when they are what the variables hold and
pass the check.** -/
theorem TokenConfig.ofVariables_eq_ok_iff {vars : Variables} {c : TokenConfig} :
    ofVariables vars = .ok c ↔ c.ReadFrom vars ∧ c.Acceptable := by
  unfold ofVariables
  cases hkey : vars "JWT_SECRET" with
  | none =>
    constructor
    · intro h
      cases h
    · rintro ⟨hread, -⟩
      cases hkey.symm.trans hread.secret
  | some key =>
    cases hempty : key.isEmpty with
    | true =>
      simp only [hempty, if_true]
      constructor
      · intro h
        cases h
      · -- an empty key is too short as well
        rintro ⟨hread, hgood⟩
        obtain rfl : key = c.secret := Option.some.inj (hkey.symm.trans hread.secret)
        have hlong := hgood.secret
        rw [String.isEmpty_iff.1 hempty] at hlong
        exact absurd hlong (by decide)
    | false =>
      simp only [hempty, Bool.false_eq_true, if_false]
      constructor
      · intro h
        obtain ⟨_, hsecret, h⟩ := Except.bind_eq_ok_iff.1 h
        obtain rfl := Except.ok.inj hsecret
        obtain ⟨hours, hhours, h⟩ := Except.bind_eq_ok_iff.1 h
        obtain ⟨days, hdays, h⟩ := Except.bind_eq_ok_iff.1 h
        obtain ⟨⟨⟩, hcheck, h⟩ := Except.bind_eq_ok_iff.1 h
        obtain rfl := Except.ok.inj h
        have hhours := Variables.integer_eq_ok_iff.1 hhours
        have hdays := Variables.integer_eq_ok_iff.1 hdays
        exact ⟨⟨hkey, rfl, hhours, hdays⟩, check_eq_ok_iff.1 hcheck⟩
      · rintro ⟨hread, hgood⟩
        obtain ⟨secret, issuer, hours, days⟩ := c
        obtain rfl : key = secret := Option.some.inj (hkey.symm.trans hread.secret)
        obtain rfl : issuer = (vars "JWT_ISSUER").getD defaultIssuer := hread.issuer
        refine Except.bind_eq_ok_iff.2 ⟨key, rfl, ?_⟩
        refine Except.bind_eq_ok_iff.2 ⟨hours, Variables.integer_eq_ok_iff.2 hread.hours, ?_⟩
        refine Except.bind_eq_ok_iff.2 ⟨days, Variables.integer_eq_ok_iff.2 hread.days, ?_⟩
        exact Except.bind_eq_ok_iff.2 ⟨(), check_eq_ok_iff.2 hgood, rfl⟩

/-- `c.ReadFrom vars` — the settings are what the variables hold, and the defaults where a variable
is absent. -/
structure ServerConfig.ReadFrom (c : ServerConfig) (vars : Variables) : Prop where
  /-- The address to listen on. -/
  bindAddress : c.bindAddress = (vars "BIND_ADDR").getD "127.0.0.1:8080"
  /-- Where the database is. -/
  databaseUrl : c.databaseUrl =
    (vars "DATABASE_URL").getD "postgres://localhost:5432/egaldeutsch"
  /-- Signing and lifetimes. -/
  tokens : c.tokens.ReadFrom vars
  /-- The limit is the number that is given if that is positive, and else sixty. -/
  rateLimit : ∃ n, vars.Sets "AUTH_RATE_LIMIT_PER_MINUTE" 10 n ∧
    c.rateLimit = if 0 < n then n.toNat else 60
  /-- The page for a new password. -/
  resetUrl : c.resetUrl =
    (vars "PASSWORD_RESET_URL").getD "http://localhost:3000/reset-password"
  /-- The trust in a proxy. -/
  trustProxy : vars.Answers "TRUST_PROXY_HEADERS" c.trustProxy

theorem ServerConfig.ReadFrom.rateLimit_pos {c : ServerConfig} {vars : Variables}
    (h : c.ReadFrom vars) : 1 ≤ c.rateLimit := by
  obtain ⟨n, -, hlimit⟩ := h.rateLimit
  rw [hlimit]
  split
  · omega
  · decide

/-- **The settings of the server are read exactly when they are what the variables hold and pass the
check.** -/
theorem ServerConfig.ofVariables_eq_ok_iff {vars : Variables} {c : ServerConfig} :
    ofVariables vars = .ok c ↔ c.ReadFrom vars ∧ c.tokens.Acceptable := by
  have hflag {b : Bool} :
      (vars "TRUST_PROXY_HEADERS").elim (.ok false) (readFlag "TRUST_PROXY_HEADERS") = .ok b ↔
        vars.Answers "TRUST_PROXY_HEADERS" b := by
    unfold Variables.Answers
    cases vars "TRUST_PROXY_HEADERS" with
    | none =>
      constructor
      · intro h
        exact (Except.ok.inj h).symm
      · rintro rfl
        rfl
    | some raw => exact readFlag_eq_ok_iff
  have hread : ofVariables vars = (do
      let limit ← vars.integer "AUTH_RATE_LIMIT_PER_MINUTE" defaultRateLimit .notNumber
      let trustProxy ←
        (vars "TRUST_PROXY_HEADERS").elim (.ok false) (readFlag "TRUST_PROXY_HEADERS")
      let tokens ← TokenConfig.ofVariables vars
      return ⟨(vars "BIND_ADDR").getD defaultBindAddress,
        (vars "DATABASE_URL").getD defaultDatabaseUrl, tokens, normalizeRateLimit limit,
        (vars "PASSWORD_RESET_URL").getD defaultResetUrl, trustProxy⟩) := by
    unfold ofVariables
    cases vars "TRUST_PROXY_HEADERS" with
    | none => rfl
    | some raw => rfl
  rw [hread]
  constructor
  · intro h
    obtain ⟨limit, hlimit, h⟩ := Except.bind_eq_ok_iff.1 h
    obtain ⟨trustProxy, htrust, h⟩ := Except.bind_eq_ok_iff.1 h
    obtain ⟨tokens, htokens, h⟩ := Except.bind_eq_ok_iff.1 h
    obtain rfl := Except.ok.inj h
    obtain ⟨htokens, hgood⟩ := TokenConfig.ofVariables_eq_ok_iff.1 htokens
    have hlimit := Variables.integer_eq_ok_iff.1 hlimit
    exact ⟨⟨rfl, rfl, htokens, ⟨limit, hlimit, rfl⟩, rfl, hflag.1 htrust⟩, hgood⟩
  · rintro ⟨hread, hgood⟩
    obtain ⟨bindAddress, databaseUrl, tokens, rateLimit, resetUrl, trustProxy⟩ := c
    obtain ⟨hbind, hdatabase, htokens, ⟨limit, hlimit, hrate⟩, hreset, htrust⟩ := hread
    cases hbind
    cases hdatabase
    cases hrate
    cases hreset
    refine Except.bind_eq_ok_iff.2 ⟨limit, Variables.integer_eq_ok_iff.2 hlimit, ?_⟩
    refine Except.bind_eq_ok_iff.2 ⟨trustProxy, hflag.2 htrust, ?_⟩
    exact Except.bind_eq_ok_iff.2
      ⟨tokens, TokenConfig.ofVariables_eq_ok_iff.2 ⟨htokens, hgood⟩, rfl⟩

/-! ## What the variables must hold -/

/-- What the variables must hold for the server to have settings. -/
structure Variables.Accepted (vars : Variables) : Prop where
  /-- The key is given, with at least thirty-two characters. -/
  secret : ∃ key, vars "JWT_SECRET" = some key ∧ 32 ≤ key.length
  /-- The issuer, if one is named, is not blank. -/
  issuer : ∀ name, vars "JWT_ISSUER" = some name → ∃ letter ∈ name.toList, isBlank letter = false
  /-- The hours, if they are given, are a number from 1 to 8760. -/
  hours : ∀ raw, vars "JWT_EXPIRATION_HOURS" = some raw →
    ∃ n, WritesInt64 raw n ∧ 1 ≤ n ∧ n ≤ 8760
  /-- The days, if they are given, are a positive number. -/
  days : ∀ raw, vars "REFRESH_TOKEN_EXPIRATION_DAYS" = some raw → ∃ n, WritesInt64 raw n ∧ 1 ≤ n
  /-- The limit, if one is given, is a number. -/
  rateLimit : ∀ raw, vars "AUTH_RATE_LIMIT_PER_MINUTE" = some raw → ∃ n, WritesInt64 raw n
  /-- The trust in a proxy, if anything is said of it, is a yes or a no. -/
  trustProxy : ∀ raw, vars "TRUST_PROXY_HEADERS" = some raw → ∃ b, Says raw b

/-- A variable gives a number with some property, which the default has, exactly when what it holds,
if it holds anything, writes such a number. -/
theorem Variables.exists_sets_iff {vars : Variables} {name : String} {default : Int}
    {P : Int → Prop} (hdefault : P default) :
    (∃ n, vars.Sets name default n ∧ P n) ↔
      ∀ raw, vars name = some raw → ∃ n, WritesInt64 raw n ∧ P n := by
  unfold Variables.Sets
  cases vars name with
  | none =>
    constructor
    · intro _ raw hraw
      cases hraw
    · intro _
      exact ⟨default, rfl, hdefault⟩
  | some raw =>
    constructor
    · intro h raw' hraw
      obtain rfl := Option.some.inj hraw
      exact h
    · intro h
      exact h raw rfl

theorem Variables.exists_answers_iff {vars : Variables} {name : String} :
    (∃ b, vars.Answers name b) ↔ ∀ raw, vars name = some raw → ∃ b, Says raw b := by
  unfold Variables.Answers
  cases vars name with
  | none =>
    constructor
    · intro _ raw hraw
      cases hraw
    · intro _
      exact ⟨false, rfl⟩
  | some raw =>
    constructor
    · intro h raw' hraw
      obtain rfl := Option.some.inj hraw
      exact h
    · intro h
      exact h raw rfl

theorem ServerConfig.exists_ofVariables_iff {vars : Variables} :
    (∃ c, ofVariables vars = .ok c) ↔ vars.Accepted := by
  simp only [ofVariables_eq_ok_iff]
  constructor
  · rintro ⟨c, hread, hgood⟩
    obtain ⟨limit, hlimit, -⟩ := hread.rateLimit
    refine ⟨⟨_, hread.tokens.secret, hgood.secret⟩, fun name hname => ?_, ?_, ?_, ?_, ?_⟩
    · have hissuer : c.tokens.issuer = name := by
        rw [hread.tokens.issuer, hname]
        rfl
      exact hissuer ▸ hgood.issuer
    · have hdefault : (1 : Int) ≤ 1 ∧ (1 : Int) ≤ 8760 := by omega
      rw [← Variables.exists_sets_iff (P := fun n => 1 ≤ n ∧ n ≤ 8760) hdefault]
      exact ⟨_, hread.tokens.hours, hgood.hours_pos, hgood.hours_le⟩
    · have hdefault : (1 : Int) ≤ 30 := by omega
      rw [← Variables.exists_sets_iff (P := fun n => 1 ≤ n) hdefault]
      exact ⟨_, hread.tokens.days, hgood.days_pos⟩
    · intro raw hraw
      obtain ⟨n, hn, -⟩ := (Variables.exists_sets_iff (P := fun _ => True) trivial).1
        ⟨limit, hlimit, trivial⟩ raw hraw
      exact ⟨n, hn⟩
    · exact Variables.exists_answers_iff.1 ⟨_, hread.trustProxy⟩
  · intro h
    obtain ⟨key, hkey, hlong⟩ := h.secret
    have hyear : (1 : Int) ≤ 1 ∧ (1 : Int) ≤ 8760 := by omega
    have hmonth : (1 : Int) ≤ 30 := by omega
    obtain ⟨hours, hhours, hbounds⟩ :=
      (Variables.exists_sets_iff (P := fun n => 1 ≤ n ∧ n ≤ 8760) hyear).2 h.hours
    obtain ⟨days, hdays, hdayspos⟩ :=
      (Variables.exists_sets_iff (P := fun n => 1 ≤ n) hmonth).2 h.days
    obtain ⟨limit, hlimit⟩ : ∃ n, vars.Sets "AUTH_RATE_LIMIT_PER_MINUTE" 10 n := by
      obtain ⟨n, hn, -⟩ := (Variables.exists_sets_iff (P := fun _ => True) trivial).2
        fun raw hraw => (h.rateLimit raw hraw).imp fun n hn => ⟨hn, trivial⟩
      exact ⟨n, hn⟩
    obtain ⟨trustProxy, htrust⟩ := Variables.exists_answers_iff.2 h.trustProxy
    have hissuer : ∃ letter ∈ ((vars "JWT_ISSUER").getD "egaldeutsch").toList,
        isBlank letter = false := by
      cases hname : vars "JWT_ISSUER" with
      | none => exact ⟨'e', by decide, by decide⟩
      | some name => exact h.issuer name hname
    let tokens : TokenConfig := ⟨key, (vars "JWT_ISSUER").getD "egaldeutsch", hours, days⟩
    refine ⟨⟨_, _, tokens, _, _, trustProxy⟩, ⟨rfl, rfl, ?_, ⟨limit, hlimit, rfl⟩, rfl, htrust⟩, ?_⟩
    · exact ⟨hkey, rfl, hhours, hdays⟩
    · exact ⟨hlong, hissuer, hbounds.1, hbounds.2, hdayspos⟩

/-- **The settings that are accepted are exactly the documented ones.**  Where the variables hold
what they must, there are settings; else there are none, and the error is one of the configuration,
whichever variable is wrong.  The settings are what the variables hold or else the defaults, they
pass the check that the service makes of them, and at least one request a minute is allowed. -/
theorem ServerConfig.accepts_documented (vars : Variables) :
    ((∃ c, ofVariables vars = .ok c) ↔ vars.Accepted) ∧
      ((∃ message, (ofVariables vars).mapError ConfigProblem.toError =
        .error (.configuration message)) ↔ ¬ vars.Accepted) ∧
      ∀ c, ofVariables vars = .ok c ↔
        c.ReadFrom vars ∧ c.tokens.check = .ok () ∧ 1 ≤ c.rateLimit := by
  refine ⟨exists_ofVariables_iff, ?_, fun c => ?_⟩
  · rw [← exists_ofVariables_iff]
    cases hread : ofVariables vars with
    | ok c =>
      constructor
      · rintro ⟨message, h⟩
        cases h
      · intro h
        exact absurd ⟨c, rfl⟩ h
    | error problem =>
      constructor
      · rintro - ⟨c, h⟩
        cases h
      · intro _
        exact ⟨problem.message, rfl⟩
  · rw [ofVariables_eq_ok_iff, TokenConfig.check_eq_ok_iff]
    constructor
    · rintro ⟨hread, hgood⟩
      exact ⟨hread, hgood, hread.rateLimit_pos⟩
    · rintro ⟨hread, hgood, -⟩
      exact ⟨hread, hgood⟩

example : readFlag "TRUST_PROXY_HEADERS" "\u00a0YES\n" = .ok true := by decide +kernel

end Gatehouse
