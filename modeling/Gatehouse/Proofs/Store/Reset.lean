/-
  Password-reset tokens in runs of the store.

  A reset record is written once and used at most once.  As for the refresh records, one inversion
  lemma says what a step can do to the table (`resetEffect_perform`): leave it as it is, add a
  record under a new digest, or mark a record as used that is neither used nor expired.  From it:

  * a record keeps everything that was written with it, and a used record stays used
    (`reset_evolves_run`), so a token is used up at most once (`countP_consumes_le_one`);
  * a record comes from the one insertion of its digest that succeeded (`exists_insertReset`), and
    until the token is presented the record is as it was written (`get?_run_of_not_presented`).
-/
import Gatehouse.Proofs.Store.Run

namespace Gatehouse

/-! ## How a record changes -/

/-- `r.Evolves r'` — a reset record may change from `r` to `r'`: only from unused to used. -/
structure ResetRecord.Evolves (r r' : ResetRecord) : Prop where
  rest : r' = { r with used := r'.used }
  used : r.used = true → r'.used = true

namespace ResetRecord

theorem Evolves.refl (r : ResetRecord) : r.Evolves r := ⟨rfl, fun h => h⟩

theorem Evolves.trans {r s t : ResetRecord} (h : r.Evolves s) (k : s.Evolves t) : r.Evolves t := by
  refine ⟨?_, fun hr => k.used (h.used hr)⟩
  rw [k.rest, h.rest]

theorem evolves_used (r : ResetRecord) : r.Evolves { r with used := true } :=
  ⟨rfl, fun _ => rfl⟩

theorem Evolves.user {r r' : ResetRecord} (h : r.Evolves r') : r'.user = r.user := by
  rw [h.rest]

theorem Evolves.digest {r r' : ResetRecord} (h : r.Evolves r') : r'.digest = r.digest := by
  rw [h.rest]

theorem Evolves.expiresAt {r r' : ResetRecord} (h : r.Evolves r') : r'.expiresAt = r.expiresAt := by
  rw [h.rest]

end ResetRecord

namespace Memory

/-! ## What a step does to the reset records -/

/-- The record of a reset token that is issued now. -/
def issueReset (m : Memory) (now : Instant) (digest : String) (user : Uuid) (expiresAt : Instant) :
    ResetRecord :=
  { id := m.issued, user, digest, createdAt := now, expiresAt, used := false }

/-- `m.Redeemable now digest r` — the reset token with the digest can be used: its record `r` is
neither used nor expired. -/
structure Redeemable (m : Memory) (now : Instant) (digest : String) (r : ResetRecord) : Prop where
  known : m.resets.get? digest = some r
  unused : r.used = false
  unexpired : now < r.expiresAt

/-- What a step leaves of the reset records. -/
inductive ResetEffect (m : Memory) : Step → Table String ResetRecord → Prop where
  /-- They stay as they are. -/
  | kept (s : Step) : ResetEffect m s m.resets
  /-- A token is issued under a digest that is new. -/
  | issued (now : Instant) (digest : String) (user : Uuid) (expiresAt : Instant)
      (fresh : m.resets.contains digest = false) :
      ResetEffect m ⟨now, .call (.insertReset digest user expiresAt)⟩
        (m.resets.insert digest (m.issueReset now digest user expiresAt))
  /-- A token that is still good is used. -/
  | consumed (now : Instant) (digest : String) (r : ResetRecord)
      (good : m.Redeemable now digest r) :
      ResetEffect m ⟨now, .call (.consumeReset digest)⟩
        (m.resets.modify digest fun r => { r with used := true })

/-- A digest that is taken is refused, and the store stays as it was. -/
theorem insertReset_of_contains {m : Memory} {digest : String}
    (h : m.resets.contains digest = true) (now : Instant) (user : Uuid) (expiresAt : Instant) :
    m.insertReset now digest user expiresAt =
      (.error (.internal "duplicate password reset digest"), m) := by
  rw [insertReset, if_pos h]

theorem insertReset_of_fresh {m : Memory} {digest : String}
    (h : m.resets.contains digest = false) (now : Instant) (user : Uuid) (expiresAt : Instant) :
    m.insertReset now digest user expiresAt =
      (.ok (), { m with
        resets := m.resets.insert digest (m.issueReset now digest user expiresAt)
        issued := m.issued + 1 }) := by
  rw [insertReset, if_neg (by simp [h])]
  rfl

/-- An insertion that succeeds finds a digest that is new. -/
theorem fresh_of_insertReset {m : Memory} {now : Instant} {digest : String} {user : Uuid}
    {expiresAt : Instant} (h : (m.insertReset now digest user expiresAt).1 = .ok ()) :
    m.resets.contains digest = false := by
  cases hk : m.resets.contains digest with
  | false => rfl
  | true => simp [insertReset_of_contains hk] at h

/-- A redeemable token gives its user and is marked as used. -/
theorem consumeReset_of_redeemable {m : Memory} {now : Instant} {digest : String} {r : ResetRecord}
    (good : m.Redeemable now digest r) :
    m.consumeReset now digest =
      (.ok r.user, { m with
        resets := m.resets.modify digest fun r => { r with used := true } }) := by
  have hexp : expired r.expiresAt now = false := decide_eq_false (Int.not_le.2 good.unexpired)
  simp [consumeReset, good.known, good.unused, hexp]

/-- Presenting a reset token is refused and changes nothing, or the token can be used and is. -/
theorem consumeReset_cases (m : Memory) (now : Instant) (digest : String) :
    m.consumeReset now digest = (.error .invalidOrExpiredToken, m) ∨
    ∃ r, m.Redeemable now digest r := by
  cases hr : m.resets.get? digest with
  | none => exact Or.inl (by simp only [consumeReset, hr])
  | some r =>
    by_cases hbad : (r.used || expired r.expiresAt now) = true
    · exact Or.inl (by simp only [consumeReset, hr, hbad, if_true])
    · obtain ⟨hused, hexp⟩ : r.used = false ∧ expired r.expiresAt now = false := by
        simpa using hbad
      exact Or.inr ⟨r, hr, hused, Int.not_le.1 (of_decide_eq_false hexp)⟩

/-- A reset token is accepted exactly when it can be used, and then it names its owner. -/
theorem consumeReset_eq_ok_iff {m : Memory} {now : Instant} {digest : String} {user : Uuid} :
    (m.consumeReset now digest).1 = .ok user ↔ ∃ r, m.Redeemable now digest r ∧ r.user = user := by
  constructor
  · intro h
    rcases m.consumeReset_cases now digest with hbad | ⟨r, good⟩
    · simp [hbad] at h
    · exact ⟨r, good, by simpa [consumeReset_of_redeemable good] using h⟩
  · rintro ⟨r, good, rfl⟩
    rw [consumeReset_of_redeemable good]

/-- Every step has one of the effects. -/
theorem resetEffect_perform (m : Memory) (s : Step) : m.ResetEffect s (m.perform s).resets := by
  have keeps {t : Table String ResetRecord} (h : t = m.resets) : m.ResetEffect s t := h ▸ .kept s
  obtain ⟨now, op⟩ := s
  cases op with
  | register user hash => exact .kept _
  | setRole user role => exact keeps (by simp only [perform, setRole]; split <;> rfl)
  | setExpiry digest expiresAt => exact keeps (by simp only [perform, setExpiry]; split <;> rfl)
  | call c =>
    cases c with
    | insertReset digest user expiresAt =>
      cases h : m.resets.contains digest with
      | true => exact keeps (by simp only [perform, answer, insertReset_of_contains h])
      | false =>
        simp only [perform, answer, insertReset_of_fresh h]
        exact .issued now digest user expiresAt h
    | consumeReset digest =>
      rcases m.consumeReset_cases now digest with h | ⟨r, good⟩
      · exact keeps (by simp only [perform, answer, h])
      · simp only [perform, answer, consumeReset_of_redeemable good]
        exact .consumed now digest r good
    -- no other call touches the reset records
    | insertRefresh digest user expiresAt client =>
      exact keeps (by simp only [perform, answer, insertRefresh]; split <;> rfl)
    | rotate old new expiresAt client =>
      refine keeps ?_
      rcases m.rotate_cases now old new expiresAt client with
        ⟨e, h⟩ | ⟨r, -, -, h⟩ | ⟨r, account, -, -, h⟩ <;> simp only [perform, answer, h] <;> rfl
    | revoke digest replacedBy =>
      exact keeps (by simp only [perform, answer, revoke]; split <;> rfl)
    | revokeAll user => exact .kept _
    | findByEmail email => exact .kept _
    | findById user => exact .kept _
    | setPassword user hash =>
      exact keeps (by simp only [perform, answer, setPassword]; split <;> rfl)

/-! ## What becomes of one record -/

/-- A record that a step finds is there after the step, and it evolved. -/
theorem ResetEffect.evolves {m : Memory} {s : Step} {t : Table String ResetRecord}
    (h : m.ResetEffect s t) {k : String} {r : ResetRecord} (hk : m.resets.get? k = some r) :
    ∃ r', t.get? k = some r' ∧ r.Evolves r' := by
  cases h with
  | kept => exact ⟨r, hk, .refl r⟩
  | issued now digest user expiresAt fresh =>
    have hd : k ≠ digest := Table.ne_of_contains_eq_false hk fresh
    exact ⟨r, by simp [hd, hk], .refl r⟩
  | consumed now digest =>
    by_cases hd : k = digest
    · exact ⟨_, by simp [← hd, hk], r.evolves_used⟩
    · exact ⟨r, by simp [hd, hk], .refl r⟩

/-- A digest that had no record has one after a step only if the step issued it. -/
theorem ResetEffect.get?_of_none {m : Memory} {s : Step} {t : Table String ResetRecord}
    (h : m.ResetEffect s t) {k : String} {r : ResetRecord} (hk : m.resets.get? k = none)
    (hr : t.get? k = some r) :
    ∃ user expiresAt, s.operation = .call (.insertReset k user expiresAt) ∧
      r = m.issueReset s.now k user expiresAt := by
  cases h with
  | kept => simp [hk] at hr
  | issued now digest user expiresAt fresh =>
    by_cases hd : k = digest
    · subst hd
      exact ⟨user, expiresAt, rfl, by simpa [eq_comm] using hr⟩
    · simp [hd, hk] at hr
  | consumed => simp [hk] at hr

/-- Only presenting a token changes its record. -/
theorem ResetEffect.get?_of_not_presented {m : Memory} {s : Step} {t : Table String ResetRecord}
    (h : m.ResetEffect s t) {k : String} {r : ResetRecord} (hk : m.resets.get? k = some r)
    (hs : s.operation ≠ .call (.consumeReset k)) : t.get? k = some r := by
  cases h with
  | kept => exact hk
  | issued now digest user expiresAt fresh =>
    have hd : k ≠ digest := Table.ne_of_contains_eq_false hk fresh
    simp [hd, hk]
  | consumed now digest =>
    have hd : k ≠ digest := fun hd => hs (by rw [hd])
    simp [hd, hk]

/-- A reset record stays through any run, its flag at most set. -/
theorem reset_evolves_run {m : Memory} {k : String} {r : ResetRecord}
    (h : m.resets.get? k = some r) (steps : List Step) :
    ∃ r', (m.run steps).resets.get? k = some r' ∧ r.Evolves r' := by
  induction steps generalizing m r with
  | nil => exact ⟨r, h, .refl r⟩
  | cons s steps ih =>
    obtain ⟨r₁, h₁, e₁⟩ := (m.resetEffect_perform s).evolves h
    obtain ⟨r₂, h₂, e₂⟩ := ih h₁
    exact ⟨r₂, h₂, e₁.trans e₂⟩

/-- A reset record that no step presents stays exactly as it was. -/
theorem get?_run_of_not_presented {m : Memory} {k : String} {r : ResetRecord}
    (h : m.resets.get? k = some r) {steps : List Step}
    (hs : ∀ s ∈ steps, s.operation ≠ .call (.consumeReset k)) :
    (m.run steps).resets.get? k = some r := by
  induction steps generalizing m with
  | nil => exact h
  | cons s steps ih =>
    refine ih ?_ fun s' hs' => hs s' (List.mem_cons_of_mem s hs')
    exact (m.resetEffect_perform s).get?_of_not_presented h (hs s List.mem_cons_self)

/-- **A record comes from one insertion** of its digest, which succeeded, and it has the owner and
the expiry that were given there. -/
theorem exists_insertReset {m : Memory} {k : String} (hk : m.resets.get? k = none)
    {steps : List Step} {r : ResetRecord} (hr : (m.run steps).resets.get? k = some r) :
    ∃ first now rest,
      steps = first ++ ⟨now, .call (.insertReset k r.user r.expiresAt)⟩ :: rest ∧
      ((m.run first).insertReset now k r.user r.expiresAt).1 = .ok () := by
  induction steps generalizing m with
  | nil => simp [hk] at hr
  | cons s steps ih =>
    cases hk₁ : (m.perform s).resets.get? k with
    | none =>
      obtain ⟨first, now, rest, hsteps, hok⟩ := ih hk₁ hr
      exact ⟨s :: first, now, rest, by rw [hsteps, List.cons_append], hok⟩
    | some r₁ =>
      -- the digest is new here, and what follows keeps the owner and the expiry
      obtain ⟨user, expiresAt, hop, rfl⟩ := (m.resetEffect_perform s).get?_of_none hk hk₁
      obtain ⟨r', hr', e⟩ := reset_evolves_run hk₁ steps
      obtain rfl : r = r' := Option.some.inj (hr.symm.trans hr')
      have huser : r.user = user := e.user
      have hexp : r.expiresAt = expiresAt := e.expiresAt
      refine ⟨[], s.now, steps, by rw [huser, hexp, ← hop]; rfl, ?_⟩
      rw [run_nil, insertReset_of_fresh (Table.contains_eq_false_iff.2 hk)]

/-! ## A token is used at most once -/

/-- The reset token with the digest is known and used. -/
def Used (m : Memory) (digest : String) : Prop :=
  ∃ r, m.resets.get? digest = some r ∧ r.used = true

theorem used_iff {m : Memory} {digest : String} :
    m.Used digest ↔ (m.resets.get? digest).any (·.used) = true := by
  simp [Used, Option.any_eq_true]

instance (m : Memory) (digest : String) : Decidable (m.Used digest) :=
  decidable_of_iff _ used_iff.symm

/-- Once used, a reset token stays used through any run. -/
theorem used_run {m : Memory} {digest : String} (h : m.Used digest) (steps : List Step) :
    (m.run steps).Used digest := by
  obtain ⟨r, hr, hused⟩ := h
  obtain ⟨r', hr', e⟩ := reset_evolves_run hr steps
  exact ⟨r', hr', e.used hused⟩

/-- Tells whether an entry of a history presents the reset token with the digest and is accepted. -/
def consumes (digest : String) (e : Memory × Step) : Bool :=
  match e.2.operation with
  | .call (.consumeReset d) => decide (d = digest) && (e.1.consumeReset e.2.now d).1.isOk
  | _ => false

/-- A step that uses a token finds one that can be used. -/
theorem redeemable_of_consumes {m : Memory} {s : Step} {digest : String}
    (h : consumes digest (m, s) = true) :
    s.operation = .call (.consumeReset digest) ∧ ∃ r, m.Redeemable s.now digest r := by
  obtain ⟨now, op⟩ := s
  unfold consumes at h
  split at h
  · rename_i d hop
    obtain ⟨rfl, hok⟩ : d = digest ∧ _ := by simpa using h
    refine ⟨hop, ?_⟩
    rcases m.consumeReset_cases now d with hbad | good
    · rw [hbad] at hok
      exact Bool.noConfusion hok
    · exact good
  · exact Bool.noConfusion h

/-- **The token that is used** was unused before and is used afterwards. -/
theorem used_of_consumes {m : Memory} {s : Step} {digest : String}
    (h : consumes digest (m, s) = true) : ¬ m.Used digest ∧ (m.perform s).Used digest := by
  obtain ⟨hop, r, good⟩ := redeemable_of_consumes h
  constructor
  · rintro ⟨r', hr', hused⟩
    obtain rfl : r = r' := Option.some.inj (good.known.symm.trans hr')
    rw [good.unused] at hused
    exact Bool.noConfusion hused
  · have hafter : (m.perform s).resets =
        m.resets.modify digest fun r => { r with used := true } := by
      simp only [perform, hop, answer, consumeReset_of_redeemable good]
    exact ⟨{ r with used := true }, by simp [hafter, good.known], rfl⟩

theorem consumes_of_ok {m : Memory} {now : Instant} {digest : String} {user : Uuid}
    (h : (m.consumeReset now digest).1 = .ok user) :
    consumes digest (m, ⟨now, .call (.consumeReset digest)⟩) = true := by
  simp [consumes, h, Except.isOk, Except.toBool]

/-- In any run from any store at most one step uses up a given reset token. -/
theorem countP_consumes_le_one (m : Memory) (digest : String) (steps : List Step) :
    (m.history steps).countP (consumes digest) ≤ 1 :=
  countP_history_le_one (fun s h => used_run h [s]) (fun h => (used_of_consumes h).2)
    (fun h => (used_of_consumes h).1) m steps

/-! ## The life of a token -/

/-- What is known of a token that was issued: a record under its digest. -/
theorem get?_of_insertReset {m : Memory} {now : Instant} {digest : String} {user : Uuid}
    {expiresAt : Instant} (h : (m.insertReset now digest user expiresAt).1 = .ok ()) :
    (m.perform ⟨now, .call (.insertReset digest user expiresAt)⟩).resets.get? digest =
      some (m.issueReset now digest user expiresAt) := by
  simp [perform, answer, insertReset_of_fresh (fresh_of_insertReset h)]

/-- A token that was issued and not presented since is accepted until it expires. -/
theorem consumeReset_of_not_presented {m : Memory} {t : Instant} {digest : String} {user : Uuid}
    {expiresAt : Instant} (issued : (m.insertReset t digest user expiresAt).1 = .ok ())
    {rest : List Step} (hrest : ∀ s ∈ rest, s.operation ≠ .call (.consumeReset digest))
    {now : Instant} (hnow : now < expiresAt) :
    ((m.run (⟨t, .call (.insertReset digest user expiresAt)⟩ :: rest)).consumeReset now digest).1 =
      .ok user := by
  have hknown := get?_run_of_not_presented (get?_of_insertReset issued) hrest
  exact consumeReset_eq_ok_iff.2 ⟨_, ⟨hknown, rfl, hnow⟩, rfl⟩

/-- A token that was issued is accepted only in the name of the user it was issued to, and only
before it expires. -/
theorem owner_of_consumeReset {m : Memory} {t : Instant} {digest : String} {user : Uuid}
    {expiresAt : Instant} (issued : (m.insertReset t digest user expiresAt).1 = .ok ())
    {rest : List Step} {now : Instant} {owner : Uuid}
    (h : ((m.run (⟨t, .call (.insertReset digest user expiresAt)⟩ :: rest)).consumeReset
      now digest).1 = .ok owner) : owner = user ∧ now < expiresAt := by
  obtain ⟨r, hr, e⟩ := reset_evolves_run (get?_of_insertReset issued) rest
  obtain ⟨r', good, rfl⟩ := consumeReset_eq_ok_iff.1 h
  obtain rfl : r = r' := Option.some.inj (hr.symm.trans good.known)
  have huser : r.user = user := e.user
  have hexp : r.expiresAt = expiresAt := e.expiresAt
  exact ⟨huser, hexp ▸ good.unexpired⟩

/-- The digest of a token that was issued is taken for good. -/
theorem insertReset_again {m : Memory} {t : Instant} {digest : String} {user : Uuid}
    {expiresAt : Instant} (issued : (m.insertReset t digest user expiresAt).1 = .ok ())
    (rest : List Step) (now : Instant) (owner : Uuid) (expiry : Instant) :
    let after := m.run (⟨t, .call (.insertReset digest user expiresAt)⟩ :: rest)
    after.insertReset now digest owner expiry =
      (.error (.internal "duplicate password reset digest"), after) := by
  intro after
  obtain ⟨r, hr, -⟩ := reset_evolves_run (get?_of_insertReset issued) rest
  have hr : after.resets.get? digest = some r := hr
  exact insertReset_of_contains (by simp [Table.contains, hr]) now owner expiry

end Memory

end Gatehouse
