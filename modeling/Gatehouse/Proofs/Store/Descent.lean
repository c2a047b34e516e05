/-
  Where the open sessions of a user come from after all of them were closed.

  Closing the sessions of a user leaves no open record of the user.  A plain step brings an open
  record of the user only by issuing a token anew or by replacing an open one, so every record that
  is open later descends from a token that was issued in between (`exists_issue_of_open`).

  A chain that was formed stays: a record with a link is revoked (`LinksRevoked`), so it is not
  replaced again, and no plain step names another replacement for it.
-/
import Gatehouse.Proofs.Store.Failure
import Gatehouse.Proofs.Store.Lineage
import Mathlib.Data.List.Induction

namespace Gatehouse.Memory

open Relation

/-! ## Chains stay -/

/-- A record that names a replacement is revoked. -/
def LinksRevoked (m : Memory) : Prop :=
  ∀ k r, m.refresh.get? k = some r → r.replacedBy.isSome → r.revoked = true

theorem linksRevoked_empty : LinksRevoked {} := fun k r h => by cases h

theorem linksRevoked_perform {m : Memory} (h : m.LinksRevoked) (s : Step) :
    (m.perform s).LinksRevoked := by
  obtain ⟨t, n, effect, ht, -⟩ := m.refreshEffect_perform s
  -- what the step does to a record that was there, and to one that comes
  intro k r' hr' hlink
  rw [ht] at hr'
  cases effect with
  | kept => exact h k r' hr' hlink
  | issued now digest user expiresAt client fresh =>
    by_cases hk : k = digest
    · obtain rfl : m.issue now digest user expiresAt client = r' := by simpa [hk] using hr'
      simp [issue] at hlink
    · exact h k r' (by simpa [hk] using hr') hlink
  | replaced now old new expiresAt client parent account good fresh =>
    by_cases ho : k = old
    · have hne : old ≠ new := Table.ne_of_contains_eq_false good.known fresh
      obtain rfl : parent.replacedWith now new = r' := by simpa [ho, hne, good.known] using hr'
      rfl
    · by_cases hk : k = new
      · obtain rfl : m.issue now new parent.user expiresAt client = r' := by
          simpa [hk, hk ▸ ho] using hr'
        simp [issue] at hlink
      · exact h k r' (by simpa [ho, hk] using hr') hlink
  | contained now old new expiresAt client parent =>
    obtain ⟨r, hr, rfl⟩ : ∃ r, m.refresh.get? k = some r ∧ r.closedFor parent.user = r' := by
      simpa using hr'
    have same := r.sameLink_closedFor parent.user
    exact same.revoked (h k r hr (same.replacedBy ▸ hlink))
  | closed now user =>
    obtain ⟨r, hr, rfl⟩ : ∃ r, m.refresh.get? k = some r ∧ r.closedFor user = r' := by
      simpa using hr'
    have same := r.sameLink_closedFor user
    exact same.revoked (h k r hr (same.replacedBy ▸ hlink))
  | ended now digest replacedBy =>
    by_cases hk : k = digest
    · obtain ⟨r, -, rfl⟩ : ∃ r, m.refresh.get? digest = some r ∧ r.revokedWith replacedBy = r' := by
        simpa [hk] using hr'
      rfl
    · exact h k r' (by simpa [hk] using hr') hlink
  | moved now digest expiresAt =>
    by_cases hk : k = digest
    · obtain ⟨r, hr, rfl⟩ : ∃ r, m.refresh.get? digest = some r ∧
          ({ r with expiresAt } : RefreshRecord Nat) = r' := by simpa [hk] using hr'
      exact h digest r hr hlink
    · exact h k r' (by simpa [hk] using hr') hlink

theorem linksRevoked_run {m : Memory} (h : m.LinksRevoked) (steps : List Step) :
    (m.run steps).LinksRevoked := by
  induction steps generalizing m with
  | nil => exact h
  | cons s steps ih => exact ih (linksRevoked_perform h s)

/-- **A plain step keeps every link.** -/
theorem succeeds_perform {m : Memory} (h : m.LinksRevoked) {s : Step} (hs : s.Plain)
    {k new : String} (hlink : Succeeds m.refresh k new) : Succeeds (m.perform s).refresh k new := by
  obtain ⟨t, n, effect, ht, -⟩ := m.refreshEffect_perform s
  obtain ⟨r, hr, hnew⟩ := hlink
  rw [ht]
  cases effect with
  | kept => exact ⟨r, hr, hnew⟩
  | issued now digest user expiresAt client fresh =>
    have hk : k ≠ digest := Table.ne_of_contains_eq_false hr fresh
    exact ⟨r, by simp [hk, hr], hnew⟩
  | replaced now old new' expiresAt client parent account good fresh =>
    have hk : k ≠ new' := Table.ne_of_contains_eq_false hr fresh
    -- a good token has no link yet
    have ho : k ≠ old := by
      rintro rfl
      obtain rfl : r = parent := Option.some.inj (hr.symm.trans good.known)
      have hrev := h k r hr (by simp [hnew])
      rw [good.unrevoked] at hrev
      exact Bool.noConfusion hrev
    exact ⟨r, by simp [hk, ho, hr], hnew⟩
  | contained now old new' expiresAt client parent =>
    exact ⟨r.closedFor parent.user, by simp [hr],
      (r.sameLink_closedFor parent.user).replacedBy.trans hnew⟩
  | closed now user =>
    exact ⟨r.closedFor user, by simp [hr], (r.sameLink_closedFor user).replacedBy.trans hnew⟩
  | ended now digest replacedBy =>
    cases replacedBy with
    | some other => exact absurd rfl (hs.names digest other)
    | none =>
      by_cases hk : k = digest
      · exact ⟨r.revokedWith none, by simp [← hk, hr], hnew⟩
      · exact ⟨r, by simp [hk, hr], hnew⟩
  | moved now digest expiresAt => exact absurd rfl (hs.moves digest expiresAt)

/-! ## After the sessions were closed -/

/-- **Every session of a user that is open after all were closed** descends from a token that was
issued to the user since. -/
theorem exists_issue_of_open {m : Memory} (links : m.LinksRevoked) {user : Uuid}
    (closed : m.Closed user) {steps : List Step} (plain : ∀ s ∈ steps, s.Plain) {k : String}
    {r : RefreshRecord Nat} (hr : (m.run steps).refresh.get? k = some r) (howner : r.user = user)
    (hopen : r.revoked = false) :
    ∃ first now digest expiresAt client rest,
      steps = first ++ ⟨now, .call (.insertRefresh digest user expiresAt client)⟩ :: rest ∧
      ReflTransGen (Succeeds (m.run steps).refresh) digest k := by
  induction steps using List.reverseRecOn generalizing k r with
  | nil =>
    rw [closed k r hr howner] at hopen
    exact Bool.noConfusion hopen
  | append_singleton steps s ih =>
    have hplain : ∀ t ∈ steps, t.Plain := fun t ht => plain t (List.mem_append_left _ ht)
    have hs : s.Plain := plain s (List.mem_append_right _ (List.mem_singleton_self s))
    have hlinks := linksRevoked_run links steps
    have hrun : m.run (steps ++ [s]) = (m.run steps).perform s := by rw [run_append]; rfl
    rw [hrun] at hr ⊢
    -- a record that was open before has its chain already
    have further {j : String} {r₀ : RefreshRecord Nat}
        (hr₀ : (m.run steps).refresh.get? j = some r₀) (howner₀ : r₀.user = user)
        (hopen₀ : r₀.revoked = false) : ∃ first now digest expiresAt client rest,
          steps ++ [s] =
            first ++ ⟨now, .call (.insertRefresh digest user expiresAt client)⟩ :: rest ∧
          ReflTransGen (Succeeds ((m.run steps).perform s).refresh) digest j := by
      obtain ⟨first, now, digest, expiresAt, client, rest, hsteps, hchain⟩ :=
        ih hplain hr₀ howner₀ hopen₀
      refine ⟨first, now, digest, expiresAt, client, rest ++ [s], by rw [hsteps]; simp, ?_⟩
      exact ReflTransGen.mono (fun a b => succeeds_perform hlinks hs) digest j hchain
    obtain ⟨t, n, effect, ht, -⟩ := (m.run steps).refreshEffect_perform s
    cases hk : (m.run steps).refresh.get? k with
    | some r₀ =>
      obtain ⟨r', hr', e⟩ := evolves_perform hk s
      obtain rfl : r = r' := Option.some.inj (hr.symm.trans hr')
      refine further hk (e.user.symm.trans howner) (Bool.eq_false_iff.2 fun hrev => ?_)
      rw [e.revoked hrev] at hopen
      exact Bool.noConfusion hopen
    | none =>
      rcases effect.get?_of_none hk (ht ▸ hr) with
        ⟨owner, expiresAt, client, hop, rfl⟩ |
        ⟨old, expiresAt, client, parent, account, good, hop, rfl⟩
      · obtain rfl : owner = user := howner
        exact ⟨steps, s.now, k, expiresAt, client, [], by rw [← hop], .refl⟩
      · -- the record that was replaced was open, and now it is linked to this one
        obtain ⟨first, now, digest, expiresAt', client', rest, hsteps, hchain⟩ :=
          further good.known howner good.unrevoked
        refine ⟨first, now, digest, expiresAt', client', rest, hsteps, hchain.tail ?_⟩
        have fresh : (m.run steps).refresh.contains k = false := Table.contains_eq_false_iff.2 hk
        have hne : old ≠ k := Table.ne_of_contains_eq_false good.known fresh
        refine ⟨parent.replacedWith s.now k, ?_, rfl⟩
        simp [perform, hop, answer, rotate_of_good good fresh, replaced, hne, good.known]

end Gatehouse.Memory
