/-
  Where a refresh record comes from.

  The store starts without tokens and loses none, so a record that is there now was written by some
  step of the run, the first after which its digest is known (`exists_first`).  Only two kinds of
  step write a record, and both write it for a secret that the service has just drawn: a session is
  opened for a user, or a good token is replaced for its owner.  `Issues` collects what is known at
  that moment.

  From then on the record can only be closed.  So if it is open now, it is to the last field what it
  was when it was issued, and nothing has happened to it in between (`untouched`).
-/
import Gatehouse.Proofs.Service.Lineage
import Gatehouse.Proofs.Store.Revocation

namespace Gatehouse.Service

/-- `GivesTo w op user` — a token that the operation issues in the world `w` goes to the user: a
session is opened for the user, or an open token of the user is replaced. -/
def GivesTo (w : World Memory) (op : Operation) (user : Uuid) : Prop :=
  op.opens? = some user ∨
  ∃ token client parent, op = .refreshTokens token client ∧
    w.store.refresh.get? (digestToken token) = some parent ∧ parent.revoked = false ∧
    parent.user = user

/-- `s.Issues w now entropy op secret r` — served at this time with this source of random bytes, the
operation draws the secret and stores the record `r` for it. -/
structure Issues (s : Service) (w : World Memory) (now : Instant) (entropy : Entropy)
    (op : Operation) (secret : Secret) (r : RefreshRecord Nat) : Prop where
  drawn : ({ w with now, entropy } : World Memory).secret? Secret.refreshLength = some secret
  fresh : w.store.refresh.get? secret.digest = none
  stored : (s.perform w (.serve now entropy op)).store.refresh.get? secret.digest = some r
  owner : GivesTo w op r.user
  digest : r.digest = secret.digest
  createdAt : r.createdAt = now
  expiresAt : r.expiresAt = now + s.refreshLifetime
  unrevoked : r.revoked = false
  unused : r.lastUsedAt = none
  unreplaced : r.replacedBy = none

variable {s : Service}

/-- Only issuing a token brings a digest into the store. -/
theorem issues_of_get? {w : World Memory} {step : Step} {k : String} {r : RefreshRecord Nat}
    (h₀ : w.store.refresh.get? k = none) (h₁ : (s.perform w step).store.refresh.get? k = some r) :
    ∃ now entropy op secret, step = .serve now entropy op ∧ secret.digest = k ∧
      s.Issues w now entropy op secret r := by
  have hstored := h₁
  rw [perform_store] at h₁
  cases step with
  | register user passwordHash => simp [storeSteps, Memory.perform, Memory.insertUser, h₀] at h₁
  | setRole user role =>
    simp only [storeSteps, Memory.run_cons, Memory.run_nil, Memory.perform, Memory.setRole] at h₁
    split at h₁ <;> simp [h₀] at h₁
  | serve now entropy op =>
    rcases calls_program Memory.backend s op { w with now, entropy } with
      hcalls | ⟨call, hcalls, ha⟩
    · simp [storeSteps, hcalls, h₀] at h₁
    obtain ⟨t, n, effect, ht, -⟩ := w.store.refreshEffect_perform ⟨now, .call call⟩
    simp only [storeSteps, hcalls, List.map_cons, List.map_nil, Memory.run_cons, Memory.run_nil,
      ht] at h₁
    rcases effect.get?_of_none h₀ h₁ with
      ⟨user, expiresAt, client, hop, rfl⟩ |
      ⟨old, expiresAt, client, parent, account, good, hop, rfl⟩
    · obtain rfl : call = .insertRefresh k user expiresAt client := by simpa using hop
      cases ha with
      | createRefreshToken _ _ drawn expiry =>
        exact ⟨now, entropy, _, _, rfl, rfl, drawn, h₀, hstored, Or.inl rfl, rfl, rfl,
          (Instant.plus?_eq_some_iff.1 expiry).1, rfl, rfl, rfl⟩
      | issueSession _ _ _ drawn expiry =>
        exact ⟨now, entropy, _, _, rfl, rfl, drawn, h₀, hstored, Or.inl rfl, rfl, rfl,
          (Instant.plus?_eq_some_iff.1 expiry).1, rfl, rfl, rfl⟩
    · obtain rfl : call = .rotate old k expiresAt client := by simpa using hop
      cases ha with
      | refreshTokens token _ drawn expiry =>
        refine ⟨now, entropy, _, _, rfl, rfl, drawn, h₀, hstored, Or.inr ?_, rfl, rfl,
          (Instant.plus?_eq_some_iff.1 expiry).1, rfl, rfl, rfl⟩
        exact ⟨token, client, parent, rfl, good.known, good.unrevoked, rfl⟩

/-- **Every record has an origin.** -/
theorem exists_issues {w : World Memory} {steps : List Step} {k : String} {r : RefreshRecord Nat}
    (h₀ : w.store.refresh.get? k = none) (h₁ : (s.run w steps).store.refresh.get? k = some r) :
    ∃ before now entropy op after secret r₀, steps = before ++ .serve now entropy op :: after ∧
      secret.digest = k ∧ s.Issues (s.run w before) now entropy op secret r₀ := by
  obtain ⟨before, step, after, r₀, hsteps, hnone, hsome⟩ :=
    exists_first (fun v => v.store.refresh.get? k) h₀ h₁
  obtain ⟨now, entropy, op, secret, rfl, hk, hissues⟩ := issues_of_get? hnone hsome
  exact ⟨before, now, entropy, op, after, secret, r₀, hsteps, hk, hissues⟩

/-! ## Since it was issued -/

/-- `s.Untouched w steps digest r` — in a run from the world `w` the record under the digest is `r`
at all times, and no call to the store ends its token. -/
structure Untouched (s : Service) (w : World Memory) (steps : List Step) (digest : String)
    (r : RefreshRecord Nat) : Prop where
  same : ∀ first rest, steps = first ++ rest →
    (s.run w first).store.refresh.get? digest = some r
  unended : ∀ e ∈ w.store.history (s.storeRun w steps), ¬ Memory.Ends digest r.user e

/-- A record that was neither used nor revoked at one time, and is not revoked at a later one, is
the same record then. -/
theorem eq_of_unrevoked {w : World Memory} (h : Memory.Lineage w.store.refresh w.store.issued)
    {steps : List Step} {k : String} {r r' : RefreshRecord Nat}
    (hr : w.store.refresh.get? k = some r) (unrevoked : r.revoked = false)
    (hr' : (s.run w steps).store.refresh.get? k = some r') (unrevoked' : r'.revoked = false) :
    r' = r := by
  -- a link or a time of use would mean that the record is revoked
  obtain ⟨hlink, hused⟩ := h.unused_of_open hr unrevoked
  obtain ⟨hlink', hused'⟩ := (lineage_run (s := s) h steps).unused_of_open hr' unrevoked'
  have hexpiry : r'.expiresAt = r.expiresAt :=
    Memory.expiresAt_run (fun t ht => (s.plain_of_mem_storeRun ht).moves k) hr
      (s.run_store w steps ▸ hr')
  obtain ⟨r'', hr'', e⟩ := Memory.evolves_run hr (s.storeRun w steps)
  rw [← run_store] at hr''
  obtain rfl : r' = r'' := Option.some.inj (hr'.symm.trans hr'')
  obtain ⟨hid, huser, hdigest, hcreated, hip, hagent, -, -, -⟩ := e
  cases r
  cases r'
  simp_all

/-- **What is open now was not touched** since it was issued: any step that ends a token revokes its
record, and revocation is final. -/
theorem untouched {w : World Memory} (h : Memory.Lineage w.store.refresh w.store.issued)
    {steps : List Step} {digest : String} {r : RefreshRecord Nat}
    (hr : w.store.refresh.get? digest = some r) (unrevoked : r.revoked = false)
    (hopen : ¬ (s.run w steps).store.Revoked digest) : s.Untouched w steps digest r := by
  constructor
  · rintro first rest rfl
    obtain ⟨r', hr', -⟩ := Memory.evolves_run hr (s.storeRun w first)
    rw [← run_store] at hr'
    have unrevoked' : r'.revoked = false := by
      refine Bool.eq_false_iff.2 fun hrev => hopen ?_
      rw [run_append, run_store s (s.run w first)]
      exact Memory.revoked_run ⟨r', hr', hrev⟩ _
    rw [hr', eq_of_unrevoked h hr unrevoked hr' unrevoked']
  · rintro ⟨m, t⟩ he hends
    obtain ⟨before, after, hsteps, rfl⟩ := Memory.exists_of_mem_history he
    obtain ⟨r', hr', e⟩ := Memory.evolves_run hr before
    have hrev := Memory.revoked_of_ends hr' (e.user ▸ hends)
    refine hopen ?_
    rw [run_store, hsteps, Memory.run_append, Memory.run_cons]
    exact Memory.revoked_run hrev after

/-- **An open record is as it was issued.**  After a run from a store without tokens, a record that
is not revoked was issued by one of the steps, and nothing has touched it since. -/
theorem exists_untouched {w : World Memory} (h : w.store.refresh = ∅) {steps : List Step}
    {digest : String} {r : RefreshRecord Nat}
    (hr : (s.run w steps).store.refresh.get? digest = some r) (unrevoked : r.revoked = false) :
    ∃ before now entropy op after secret, steps = before ++ .serve now entropy op :: after ∧
      secret.digest = digest ∧ s.Issues (s.run w before) now entropy op secret r ∧
      s.Untouched (s.perform (s.run w before) (.serve now entropy op)) after digest r := by
  have hnone : w.store.refresh.get? digest = none := by rw [h, Table.get?_empty]
  obtain ⟨before, now, entropy, op, after, secret, r₀, rfl, rfl, hissues⟩ := exists_issues hnone hr
  rw [run_append, run_cons] at hr
  have hlineage : Memory.Lineage (s.run w (before ++ [.serve now entropy op])).store.refresh
      (s.run w (before ++ [.serve now entropy op])).store.issued :=
    lineage_run (by rw [h]; exact .empty) _
  rw [run_append] at hlineage
  have hopen : ¬ (s.run (s.perform (s.run w before) (.serve now entropy op)) after).store.Revoked
      secret.digest := by
    rintro ⟨r', hr', hrev⟩
    rw [hr] at hr'
    simp [← Option.some.inj hr', unrevoked] at hrev
  have huntouched := untouched hlineage hissues.stored hissues.unrevoked hopen
  -- so the record that is there now is the one that was issued
  obtain rfl : r = r₀ := Option.some.inj (hr.symm.trans (huntouched.same after [] (by simp)))
  exact ⟨before, now, entropy, op, after, secret, rfl, rfl, hissues, huntouched⟩

end Gatehouse.Service
