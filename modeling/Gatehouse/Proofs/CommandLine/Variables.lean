/-
  Two ways to the same settings.

  A command line without words leaves every setting to its variable, and these are the variables
  from which `ServerConfig.ofVariables` reads the settings of the server.  The two readers agree on
  what a setting is when both accept it, but the command line accepts less: a number must stand
  alone in its variable, with no blanks around it, and of the nine words for yes and no it knows
  `true` and `false` only (`Exact`).  Where that holds they agree in everything
  (`ready_iff_ofVariables`).

  The settings are taken in one after another, and the first that is wrong ends it.  As none of them
  looks at another, all of them are found exactly when each is (`fill_eq_ok_iff`); the rest goes
  setting by setting.
-/
import Gatehouse.CommandLine.Launch
import Gatehouse.Proofs.Config

namespace Gatehouse.CommandLine

open Text

/-! ## What is found in the variables -/

/-- What the variables hold of a setting: nothing if its variable is absent. -/
def Setting.look (vars : Variables) (s : Setting) : Except Misuse (Option s.Value) :=
  match vars s.source with
  | none => .ok none
  | some text => (s.read text).map some

/-- The settings with what is found of one that was not given. -/
def Given.found (g : Given) (s : Setting) : Option s.Value → Given
  | none => g
  | some x => g.insert s x

theorem Given.found_self {g : Given} {s : Setting} (hnone : g s = none) (x : Option s.Value) :
    g.found s x s = x := by
  cases x with
  | none => exact hnone
  | some x => simp [found, insert]

theorem Given.found_of_ne (g : Given) {s t : Setting} (x : Option s.Value) (h : t ≠ s) :
    g.found s x t = g t := by
  cases x with
  | none => rfl
  | some x => simp [found, insert, Ne.symm h]

/-- A setting that was not given is looked for. -/
theorem fill_cons {vars : Variables} {s : Setting} {g : Given} (hnone : g s = none)
    (rest : List Setting) :
    fill vars (s :: rest) g = s.look vars >>= fun x => fill vars rest (g.found s x) := by
  rw [fill, hnone, Setting.look]
  cases vars s.source with
  | none => rfl
  | some text =>
    show (s.read text >>= fun x => fill vars rest (g.insert s x)) =
      (s.read text).map some >>= fun x => fill vars rest (g.found s x)
    cases s.read text with
    | error m => rfl
    | ok x => rfl

theorem fill_eq_ok_iff {vars : Variables} {settings : List Setting} (hnodup : settings.Nodup)
    {g found : Given} (hnone : ∀ s ∈ settings, g s = none) :
    fill vars settings g = .ok found ↔
      (∀ s ∈ settings, s.look vars = .ok (found s)) ∧ ∀ s, s ∉ settings → found s = g s := by
  induction settings generalizing g with
  | nil =>
    constructor
    · intro h
      obtain rfl := Except.ok.inj h
      exact ⟨fun s hs => absurd hs List.not_mem_nil, fun s _ => rfl⟩
    · rintro ⟨-, h⟩
      obtain rfl : found = g := funext fun s => h s List.not_mem_nil
      rfl
  | cons s rest ih =>
    obtain ⟨hs, hrest⟩ := List.nodup_cons.1 hnodup
    have hnone_s : g s = none := hnone s List.mem_cons_self
    have hne {t : Setting} (ht : t ∈ rest) : t ≠ s := fun h => hs (h ▸ ht)
    -- what is found of the first setting gives none of the others
    have hnone_rest (x : Option s.Value) : ∀ t ∈ rest, g.found s x t = none := by
      intro t ht
      rw [Given.found_of_ne g x (hne ht)]
      exact hnone t (List.mem_cons_of_mem s ht)
    rw [fill_cons hnone_s, Except.bind_eq_ok_iff, List.forall_mem_cons]
    constructor
    · rintro ⟨x, hlook, hfill⟩
      obtain ⟨hothers, hkeep⟩ := (ih hrest (hnone_rest x)).1 hfill
      have hfound : found s = x := by rw [hkeep s hs, Given.found_self hnone_s]
      refine ⟨⟨hfound ▸ hlook, hothers⟩, fun t ht => ?_⟩
      rw [List.mem_cons, not_or] at ht
      rw [hkeep t ht.2, Given.found_of_ne g x ht.1]
    · rintro ⟨⟨hlook, hothers⟩, hkeep⟩
      refine ⟨found s, hlook, (ih hrest (hnone_rest _)).2 ⟨hothers, fun t ht => ?_⟩⟩
      by_cases hts : t = s
      · subst hts
        rw [Given.found_self hnone_s]
      · rw [Given.found_of_ne g _ hts]
        exact hkeep t fun h => (List.mem_cons.1 h).elim hts ht

theorem Setting.mem_all (s : Setting) : s ∈ all := by
  cases s <;> decide

/-- Without words, the options are what the variables hold of every setting. -/
theorem read_nil_eq_ok_iff {vars : Variables} {o : Options} :
    Options.read [] vars = .ok o ↔
      ∃ found : Given, (∀ s : Setting, s.look vars = .ok (found s)) ∧ found.options = .ok o := by
  have hread : Options.read [] vars = Except.mapError .misuse
      (fill vars Setting.all (fun _ => none) >>= Given.options) := rfl
  have hfill {found : Given} : fill vars Setting.all (fun _ => none) = .ok found ↔
      ∀ s : Setting, s.look vars = .ok (found s) := by
    rw [fill_eq_ok_iff (by decide) fun _ _ => rfl]
    constructor
    · rintro ⟨h, -⟩ s
      exact h s s.mem_all
    · intro h
      exact ⟨fun s _ => h s, fun s hs => absurd s.mem_all hs⟩
  have hmap {ε : Type} {f : Misuse → ε} {x : Except Misuse Options} :
      x.mapError f = .ok o ↔ x = .ok o := by
    cases x with
    | error e => simp [Except.mapError]
    | ok a => simp [Except.mapError]
  rw [hread, hmap, Except.bind_eq_ok_iff]
  simp only [hfill]

theorem ofWords_nil_eq_ready_iff {vars : Variables} {o : Options} :
    Launch.ofWords [] vars = .ready o ↔
      Options.read [] vars = .ok o ∧ o.config.tokens.Acceptable := by
  rw [← TokenConfig.check_eq_ok_iff, Launch.ofWords]
  cases hread : Options.read [] vars with
  | error stop =>
    cases stop with
    | help => simp
    | misuse m => simp
  | ok options =>
    cases hcheck : options.config.tokens.check with
    | error problem =>
      simp only [hcheck, reduceCtorEq, Except.ok.injEq, false_iff, not_and]
      rintro rfl
      simp [hcheck]
    | ok u =>
      simp only [hcheck, Launch.ready.injEq, Except.ok.injEq]
      constructor
      · rintro rfl
        exact ⟨rfl, hcheck⟩
      · exact fun h => h.1

/-! ## One setting at a time -/

/-- What the variables hold of a setting with a number. -/
def Setting.lookInteger (vars : Variables) (s : Setting) : Except Misuse (Option Int) :=
  match vars s.source with
  | none => .ok none
  | some text => (s.readInteger text).map some

theorem Setting.readInteger_eq_ok_iff {s : Setting} {text : String} {n : Int} :
    s.readInteger text = .ok n ↔ readInt64 text = .ok n := by
  rw [readInteger]
  cases readInt64 text with
  | ok m => simp [Except.mapError]
  | error e => simp [Except.mapError]

/-- A number is found, or else the default taken, exactly when the variable gives it and nothing but
the number stands in the variable. -/
theorem Setting.lookInteger_iff {vars : Variables} {s : Setting} {default n : Int} :
    (∃ found, s.lookInteger vars = .ok found ∧ found.getD default = n) ↔
      vars.Sets s.source default n ∧
        ∀ raw, vars s.source = some raw → ∀ c ∈ raw.toList, isBlank c = false := by
  unfold lookInteger Variables.Sets
  cases vars s.source with
  | none =>
    constructor
    · rintro ⟨found, hfound, rfl⟩
      obtain rfl := Except.ok.inj hfound
      exact ⟨rfl, fun raw hraw => by cases hraw⟩
    · rintro ⟨rfl, -⟩
      exact ⟨none, rfl, rfl⟩
  | some text =>
    show (∃ found, (s.readInteger text).map some = .ok found ∧ found.getD default = n) ↔
      WritesInt64 text n ∧ _
    rw [← readInt64_trim_eq_ok_iff]
    constructor
    · rintro ⟨found, hfound, rfl⟩
      cases hread : s.readInteger text with
      | error m =>
        rw [hread] at hfound
        cases hfound
      | ok m =>
        rw [hread] at hfound
        obtain rfl := Except.ok.inj hfound
        have hboth := readInt64_eq_ok_iff_trim.1 (readInteger_eq_ok_iff.1 hread)
        exact ⟨hboth.1, fun raw hraw => Option.some.inj hraw ▸ hboth.2⟩
    · rintro ⟨hn, hblank⟩
      have hread := readInt64_eq_ok_iff_trim.2 ⟨hn, hblank text rfl⟩
      rw [readInteger_eq_ok_iff.2 hread]
      exact ⟨some n, rfl, rfl⟩

/-- What the variables hold of the trust in a proxy. -/
def lookTrust (vars : Variables) : Except Misuse (Option Bool) :=
  match vars "TRUST_PROXY_HEADERS" with
  | none => .ok none
  | some text => (Setting.readChoice .trustProxy text).map some

theorem Setting.readChoice_eq_ok_iff {s : Setting} {text : String} {b : Bool} :
    s.readChoice text = .ok b ↔ text = if b then "true" else "false" := by
  unfold readChoice
  by_cases htrue : text = "true"
  · subst htrue
    cases b <;> simp
  · rw [if_neg htrue]
    by_cases hfalse : text = "false"
    · subst hfalse
      cases b <;> simp
    · rw [if_neg hfalse]
      cases b <;> split <;> simp [htrue, hfalse]

theorem lookTrust_iff {vars : Variables} {b : Bool} :
    (∃ found, lookTrust vars = .ok found ∧ found.getD false = b) ↔
      vars.Answers "TRUST_PROXY_HEADERS" b ∧
        ∀ raw, vars "TRUST_PROXY_HEADERS" = some raw → raw = "true" ∨ raw = "false" := by
  unfold lookTrust Variables.Answers
  cases vars "TRUST_PROXY_HEADERS" with
  | none =>
    constructor
    · rintro ⟨found, hfound, rfl⟩
      obtain rfl := Except.ok.inj hfound
      exact ⟨rfl, fun raw hraw => by cases hraw⟩
    · rintro ⟨rfl, -⟩
      exact ⟨none, rfl, rfl⟩
  | some text =>
    show (∃ found, (Setting.readChoice .trustProxy text).map some = .ok found ∧
      found.getD false = b) ↔ Says text b ∧ _
    -- the two words mean the same to both readers
    have hflag (b : Bool) : readFlag "" (if b then "true" else "false") = .ok b := by
      cases b <;> decide +kernel
    constructor
    · rintro ⟨found, hfound, rfl⟩
      cases hread : Setting.readChoice .trustProxy text with
      | error m =>
        rw [hread] at hfound
        cases hfound
      | ok b =>
        rw [hread] at hfound
        obtain rfl := Except.ok.inj hfound
        obtain rfl := Setting.readChoice_eq_ok_iff.1 hread
        refine ⟨readFlag_eq_ok_iff.1 (hflag b), fun raw hraw => ?_⟩
        obtain rfl := Option.some.inj hraw
        cases b
        · exact Or.inr rfl
        · exact Or.inl rfl
    · rintro ⟨hb, hword⟩
      have hread : readFlag "" text = .ok b := readFlag_eq_ok_iff.2 hb
      have htext : text = if b then "true" else "false" := by
        rcases hword text rfl with rfl | rfl
        · obtain rfl := Except.ok.inj (hread.symm.trans (hflag true))
          rfl
        · obtain rfl := Except.ok.inj (hread.symm.trans (hflag false))
          rfl
      rw [Setting.readChoice_eq_ok_iff.2 htext]
      exact ⟨some b, rfl, rfl⟩

/-! ## The settings of the server -/

/-- `Exact vars` — the variables hold their values in the only form that the command line knows. -/
structure Exact (vars : Variables) : Prop where
  /-- No blank stands in a variable that holds a number. -/
  numbers : ∀ name ∈ ["JWT_EXPIRATION_HOURS", "REFRESH_TOKEN_EXPIRATION_DAYS",
    "AUTH_RATE_LIMIT_PER_MINUTE"], ∀ raw, vars name = some raw → ∀ c ∈ raw.toList, isBlank c = false
  /-- Yes and no are said in one way each. -/
  trustProxy : ∀ raw, vars "TRUST_PROXY_HEADERS" = some raw → raw = "true" ∨ raw = "false"

/-- The settings that are texts are found as they stand. -/
theorem look_text (vars : Variables) :
    Setting.look vars .bindAddress = .ok (vars "BIND_ADDR") ∧
      Setting.look vars .databaseUrl = .ok (vars "DATABASE_URL") ∧
      Setting.look vars .secret = .ok (vars "JWT_SECRET") ∧
      Setting.look vars .issuer = .ok (vars "JWT_ISSUER") ∧
      Setting.look vars .resetUrl = .ok (vars "PASSWORD_RESET_URL") := by
  have hlook (name : String) : (match vars name with
      | none => .ok none
      | some text => (Except.ok text).map some : Except Misuse (Option String)) =
        .ok (vars name) := by
    cases vars name with
    | none => rfl
    | some text => rfl
  exact ⟨hlook _, hlook _, hlook _, hlook _, hlook _⟩

/-- What is given by variables that hold these numbers and this answer, if any, and no number of
connections. -/
def given (vars : Variables) (hours days limit : Option Int) (trust : Option Bool) : Given
  | .bindAddress => vars "BIND_ADDR"
  | .databaseUrl => vars "DATABASE_URL"
  | .maxConnections => none
  | .secret => vars "JWT_SECRET"
  | .issuer => vars "JWT_ISSUER"
  | .expirationHours => hours
  | .refreshDays => days
  | .rateLimit => limit
  | .resetUrl => vars "PASSWORD_RESET_URL"
  | .trustProxy => trust

theorem look_maxConnections {vars : Variables} (h : vars "DATABASE_MAX_CONNECTIONS" = none) :
    Setting.look vars .maxConnections = .ok none := by
  unfold Setting.look
  rw [show vars (Setting.source .maxConnections) = none from h]

theorem ready_of_ofVariables {vars : Variables} (h : vars "DATABASE_MAX_CONNECTIONS" = none)
    {c : ServerConfig} (hread : c.ReadFrom vars) (hgood : c.tokens.Acceptable)
    (hexact : Exact vars) : Launch.ofWords [] vars = .ready ⟨c, 10⟩ := by
  obtain ⟨hbind, hdatabase, hsecret, hissuer, hreset⟩ := look_text vars
  obtain ⟨hours, hhours, hhours_eq⟩ : ∃ found, Setting.look vars .expirationHours = .ok found ∧
      found.getD 1 = c.tokens.expirationHours :=
    Setting.lookInteger_iff.2 ⟨hread.tokens.hours, hexact.numbers _ (by simp [Setting.source])⟩
  obtain ⟨days, hdays, hdays_eq⟩ : ∃ found, Setting.look vars .refreshDays = .ok found ∧
      found.getD 30 = c.tokens.refreshDays :=
    Setting.lookInteger_iff.2 ⟨hread.tokens.days, hexact.numbers _ (by simp [Setting.source])⟩
  obtain ⟨n, hn, hrate⟩ := hread.rateLimit
  obtain ⟨limit, hlimit, hlimit_eq⟩ : ∃ found, Setting.look vars .rateLimit = .ok found ∧
      found.getD 10 = n :=
    Setting.lookInteger_iff.2 ⟨hn, hexact.numbers _ (by simp [Setting.source])⟩
  obtain ⟨trust, htrust, htrust_eq⟩ : ∃ found, Setting.look vars .trustProxy = .ok found ∧
      found.getD false = c.trustProxy :=
    lookTrust_iff.2 ⟨hread.trustProxy, hexact.trustProxy⟩
  have hfound : ∀ s : Setting, s.look vars = .ok (given vars hours days limit trust s) := by
    intro s
    cases s with
    | bindAddress => exact hbind
    | databaseUrl => exact hdatabase
    | maxConnections => exact look_maxConnections h
    | secret => exact hsecret
    | issuer => exact hissuer
    | expirationHours => exact hhours
    | refreshDays => exact hdays
    | rateLimit => exact hlimit
    | resetUrl => exact hreset
    | trustProxy => exact htrust
  rw [ofWords_nil_eq_ready_iff, read_nil_eq_ok_iff]
  refine ⟨⟨_, hfound, ?_⟩, hgood⟩
  have hkey : given vars hours days limit trust .secret = some c.tokens.secret := hread.tokens.secret
  have hlimit : normalizeRateLimit (limit.getD 10) = c.rateLimit := by
    rw [hlimit_eq, hrate]
    rfl
  rw [Given.options, hkey]
  show Except.ok (Options.mk ⟨(vars "BIND_ADDR").getD _, (vars "DATABASE_URL").getD _,
    ⟨c.tokens.secret, (vars "JWT_ISSUER").getD _, hours.getD 1, days.getD 30⟩,
    normalizeRateLimit (limit.getD 10), (vars "PASSWORD_RESET_URL").getD _,
    trust.getD false⟩ 10) = .ok ⟨c, 10⟩
  rw [hhours_eq, hdays_eq, hlimit, htrust_eq, defaultBindAddress, defaultDatabaseUrl,
    defaultIssuer, defaultResetUrl, ← hread.bindAddress, ← hread.databaseUrl,
    ← hread.tokens.issuer, ← hread.resetUrl]

/-- The command line accepts nothing that the other reader does not, and finds the same. -/
theorem ofVariables_of_ready {vars : Variables} (h : vars "DATABASE_MAX_CONNECTIONS" = none)
    {o : Options} (hready : Launch.ofWords [] vars = .ready o) :
    o.config.ReadFrom vars ∧ o.config.tokens.Acceptable ∧ Exact vars ∧ o.maxConnections = 10 := by
  rw [ofWords_nil_eq_ready_iff, read_nil_eq_ok_iff] at hready
  obtain ⟨⟨found, hfound, hoptions⟩, hgood⟩ := hready
  obtain ⟨hbind, hdatabase, hsecret, hissuer, hreset⟩ := look_text vars
  have hbind := Except.ok.inj ((hfound .bindAddress).symm.trans hbind)
  have hdatabase := Except.ok.inj ((hfound .databaseUrl).symm.trans hdatabase)
  have hsecret := Except.ok.inj ((hfound .secret).symm.trans hsecret)
  have hissuer := Except.ok.inj ((hfound .issuer).symm.trans hissuer)
  have hreset := Except.ok.inj ((hfound .resetUrl).symm.trans hreset)
  have hconnections := Except.ok.inj ((hfound .maxConnections).symm.trans (look_maxConnections h))
  have hhours : vars.Sets "JWT_EXPIRATION_HOURS" 1 ((found .expirationHours).getD 1) ∧ _ :=
    Setting.lookInteger_iff.1 ⟨_, hfound .expirationHours, rfl⟩
  have hdays : vars.Sets "REFRESH_TOKEN_EXPIRATION_DAYS" 30 ((found .refreshDays).getD 30) ∧ _ :=
    Setting.lookInteger_iff.1 ⟨_, hfound .refreshDays, rfl⟩
  have hlimit : vars.Sets "AUTH_RATE_LIMIT_PER_MINUTE" 10 ((found .rateLimit).getD 10) ∧ _ :=
    Setting.lookInteger_iff.1 ⟨_, hfound .rateLimit, rfl⟩
  have htrust : vars.Answers "TRUST_PROXY_HEADERS" ((found .trustProxy).getD false) ∧ _ :=
    lookTrust_iff.1 ⟨_, hfound .trustProxy, rfl⟩
  have hexact : Exact vars := by
    refine ⟨fun name hname => ?_, htrust.2⟩
    simp only [List.mem_cons, List.not_mem_nil, or_false] at hname
    rcases hname with rfl | rfl | rfl
    · exact hhours.2
    · exact hdays.2
    · exact hlimit.2
  rw [Given.options] at hoptions
  cases hkey : found .secret with
  | none =>
    rw [hkey] at hoptions
    cases hoptions
  | some key =>
    rw [hkey] at hoptions
    obtain rfl := Except.ok.inj hoptions
    refine ⟨⟨?_, ?_, ⟨?_, ?_, hhours.1, hdays.1⟩, ⟨_, hlimit.1, rfl⟩, ?_, htrust.1⟩, hgood,
      hexact, ?_⟩
    · exact congrArg (fun text : Option String => text.getD defaultBindAddress) hbind
    · exact congrArg (fun text : Option String => text.getD defaultDatabaseUrl) hdatabase
    · exact hsecret.symm.trans hkey
    · exact congrArg (fun text : Option String => text.getD defaultIssuer) hissuer
    · exact congrArg (fun text : Option String => text.getD defaultResetUrl) hreset
    · exact congrArg (fun n : Option Nat => n.getD defaultConnections) hconnections

/-- **The two ways of reading settings agree where the variables are exact.**  Without words, and
without a number of connections, the command line comes to a server that is ready exactly when the
other reader finds settings and every value stands in its variable in its exact form; the settings
are the same then. -/
theorem ready_iff_ofVariables {vars : Variables} (h : vars "DATABASE_MAX_CONNECTIONS" = none)
    (o : Options) :
    Launch.ofWords [] vars = .ready o ↔
      ServerConfig.ofVariables vars = .ok o.config ∧ Exact vars ∧ o.maxConnections = 10 := by
  rw [ServerConfig.ofVariables_eq_ok_iff]
  constructor
  · intro hready
    obtain ⟨hread, hgood, hexact, hconnections⟩ := ofVariables_of_ready h hready
    exact ⟨⟨hread, hgood⟩, hexact, hconnections⟩
  · rintro ⟨⟨hread, hgood⟩, hexact, hconnections⟩
    obtain ⟨config, maxConnections⟩ := o
    obtain rfl : maxConnections = 10 := hconnections
    exact ready_of_ofVariables h hread hgood hexact

/-- Variables that hold a key and these texts, and no others. -/
def holding (texts : List (String × String)) : Variables := fun name =>
  (("JWT_SECRET", "0123456789abcdef0123456789abcdef") :: texts).lookup name

/-- Settings that are the defaults, but for the hours, the limit and the trust in a proxy. -/
def settings (hours : Int) (limit : Nat) (trust : Bool) : ServerConfig where
  bindAddress := defaultBindAddress
  databaseUrl := defaultDatabaseUrl
  tokens := { secret := "0123456789abcdef0123456789abcdef", expirationHours := hours }
  rateLimit := limit
  resetUrl := defaultResetUrl
  trustProxy := trust

/-- Variables with a sign and a zero before a number. -/
def signed : Variables :=
  holding [("JWT_EXPIRATION_HOURS", "+024"), ("AUTH_RATE_LIMIT_PER_MINUTE", "-5"),
    ("TRUST_PROXY_HEADERS", "true")]

theorem exact_signed : Exact signed := by
  have hhours : signed "JWT_EXPIRATION_HOURS" = some "+024" := by decide
  have hdays : signed "REFRESH_TOKEN_EXPIRATION_DAYS" = none := by decide
  have hlimit : signed "AUTH_RATE_LIMIT_PER_MINUTE" = some "-5" := by decide
  have htrust : signed "TRUST_PROXY_HEADERS" = some "true" := by decide
  constructor
  · intro name hname raw hraw
    simp only [List.mem_cons, List.not_mem_nil, or_false] at hname
    rcases hname with rfl | rfl | rfl
    · obtain rfl := Option.some.inj (hhours.symm.trans hraw)
      exact not_blank_of_any (by decide +kernel)
    · cases hdays.symm.trans hraw
    · obtain rfl := Option.some.inj (hlimit.symm.trans hraw)
      exact not_blank_of_any (by decide +kernel)
  · intro raw hraw
    exact Or.inl (Option.some.inj (hraw.symm.trans htrust))

/-- A sign and a zero before a number do no harm. -/
theorem ready_iff_ofVariables_signed :
    signed "DATABASE_MAX_CONNECTIONS" = none ∧
      Launch.ofWords [] signed = .ready ⟨settings 24 60 true, 10⟩ := by
  have hnone : signed "DATABASE_MAX_CONNECTIONS" = none := by decide
  have hread : ServerConfig.ofVariables signed = .ok (settings 24 60 true) := by decide +kernel
  exact ⟨hnone, (ready_iff_ofVariables hnone _).2 ⟨hread, exact_signed, rfl⟩⟩

/-- A word for yes, and a number with a blank before it: one reader accepts each of them, and the
other refuses it. -/
theorem not_always_ready :
    (ServerConfig.ofVariables (holding [("TRUST_PROXY_HEADERS", "yes")]) =
        .ok (settings 1 10 true) ∧
      Launch.ofWords [] (holding [("TRUST_PROXY_HEADERS", "yes")]) =
        .misused (.noSuchValue "yes" "--trust-proxy-headers")) ∧
    (ServerConfig.ofVariables (holding [("AUTH_RATE_LIMIT_PER_MINUTE", " 5")]) =
        .ok (settings 1 5 false) ∧
      Launch.ofWords [] (holding [("AUTH_RATE_LIMIT_PER_MINUTE", " 5")]) =
        .misused (.badValue " 5"
          "--auth-rate-limit-per-minute <AUTH_RATE_LIMIT_PER_MINUTE>"
          "invalid digit found in string")) ∧
    holding [("TRUST_PROXY_HEADERS", "yes")] "DATABASE_MAX_CONNECTIONS" = none ∧
    holding [("AUTH_RATE_LIMIT_PER_MINUTE", " 5")] "DATABASE_MAX_CONNECTIONS" = none := by
  refine ⟨⟨?_, ?_⟩, ⟨?_, ?_⟩, ?_, ?_⟩
  all_goals decide +kernel

end Gatehouse.CommandLine
