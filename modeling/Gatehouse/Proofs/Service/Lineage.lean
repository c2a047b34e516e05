/-
  Lineages of the refresh tokens that the service issues.

  A run of the service is a plain run of the store: no operation names a replacement of its own, and
  none moves an expiry.  So the records form chains, and each chain has one live end at most.

  The live ends are counted, too.  A user's open records grow by one when a session is opened for
  the user and the caller gets the token, and by nothing else: a token that comes in the place of
  another adds one record and revokes one.
-/
import Gatehouse.Proofs.Service.Run
import Gatehouse.Proofs.Store.Lineage

namespace Gatehouse.Service

variable {s : Service}

/-- Whatever the service does, its records form chains. -/
theorem lineage_run {w : World Memory} (h : Memory.Lineage w.store.refresh w.store.issued)
    (steps : List Step) :
    Memory.Lineage (s.run w steps).store.refresh (s.run w steps).store.issued := by
  rw [run_store]
  exact Memory.lineage_run h fun t ht => s.plain_of_mem_storeRun ht

/-! ## Counting the open records of a user -/

/-- Tells whether a step of a run opens a session for the user, and the caller gets its token. -/
def opened (s : Service) (user : Uuid) (e : World Memory × Step) : Bool :=
  match e.2 with
  | .serve now entropy op =>
    decide (op.opens? = some user) &&
      match ((s.program op).exec Memory.backend { e.1 with now, entropy }).1 with
      | some (.ok _) => true
      | _ => false
  | _ => false

theorem countOpen_perform_le (w : World Memory) (step : Step) (user : Uuid) :
    (s.perform w step).store.countOpen user ≤
      w.store.countOpen user + if s.opened user (w, step) then 1 else 0 := by
  rw [perform_store]
  cases step with
  | register account passwordHash =>
    rcases w.store.countOpen_perform ⟨w.now, .register account passwordHash⟩ user with
      h | ⟨-, _, _, _, -, hop⟩
    · exact Nat.le_add_right_of_le h
    · cases hop
  | setRole owner role =>
    rcases w.store.countOpen_perform ⟨w.now, .setRole owner role⟩ user with
      h | ⟨-, _, _, _, -, hop⟩
    · exact Nat.le_add_right_of_le h
    · cases hop
  | serve now entropy op =>
    rcases calls_program Memory.backend s op { w with now, entropy } with
      hcalls | ⟨call, hcalls, -⟩
    · simp [storeSteps, hcalls]
    · simp only [storeSteps, hcalls, List.map_cons, List.map_nil, Memory.run_cons, Memory.run_nil]
      rcases w.store.countOpen_perform ⟨now, .call call⟩ user with
        h | ⟨h, digest, expiresAt, client, fresh, hop⟩
      · exact Nat.le_add_right_of_le h
      · obtain rfl : call = .insertRefresh digest user expiresAt client := by simpa using hop
        have hok : (Memory.backend (.insertRefresh digest user expiresAt client) now w.store).1 =
            .ok () :=
          congrArg Prod.fst (Memory.insertRefresh_of_fresh fresh now user expiresAt client)
        obtain ⟨hopens, a, ha⟩ := opens_of_calls Memory.backend hcalls hok
        have hopened : s.opened user (w, .serve now entropy op) = true := by
          simp [opened, hopens, ha]
        exact Nat.le_of_eq (by rw [h, if_pos hopened])

theorem countOpen_run_le (w : World Memory) (steps : List Step) (user : Uuid) :
    (s.run w steps).store.countOpen user ≤
      w.store.countOpen user + (s.history w steps).countP (s.opened user) := by
  induction steps generalizing w with
  | nil => exact Nat.le_refl _
  | cons step steps ih =>
    have h₁ := countOpen_perform_le (s := s) w step user
    have h₂ := ih (s.perform w step)
    rw [run_cons, history, List.countP_cons]
    omega

/-! ## Chains with one live end -/

/-- **The records form chains with at most one live end.**  Whatever operations the service serves
after a start without tokens, and whatever random bytes it draws: a link names a record of the same
user, no two links name the same record, no chain comes back to where it was, and a record has a
link exactly when it was used, and then it is revoked.  So of the records that follow one record at
most one is open, and every other leads to it; and a user has no more open records than sessions
that were opened for the user. -/
theorem lineages_are_chains (s : Service) (w : World Memory) (accounts : Table Uuid Account)
    (steps : List Step) :
    let start : World Memory := { w with store := { accounts } }
    let m : Memory := (s.run start steps).store
    (∀ k r new, m.refresh.get? k = some r → r.replacedBy = some new →
      ∃ child, m.refresh.get? new = some child ∧ child.user = r.user) ∧
    (∀ j k r r' new, m.refresh.get? j = some r → m.refresh.get? k = some r' →
      r.replacedBy = some new → r'.replacedBy = some new → j = k) ∧
    (∀ k, ¬ Relation.TransGen (Memory.Succeeds m.refresh) k k) ∧
    (∀ k r, m.refresh.get? k = some r → (r.replacedBy.isSome ↔ r.lastUsedAt.isSome) ∧
      (r.replacedBy.isSome → r.revoked = true)) ∧
    (∀ k i j, Relation.ReflTransGen (Memory.Succeeds m.refresh) k i →
      Relation.ReflTransGen (Memory.Succeeds m.refresh) k j → Memory.Open m.refresh j →
      Relation.ReflTransGen (Memory.Succeeds m.refresh) i j ∧
        (Memory.Open m.refresh i → i = j)) ∧
    ∀ user, m.countOpen user ≤ (s.history start steps).countP (s.opened user) := by
  intro start m
  have h : Memory.Lineage m.refresh m.issued := lineage_run (w := start) .empty steps
  refine ⟨fun k r new hr hnew => ?_, fun j k r r' new => h.injective, h.not_transGen_self,
    fun k r hr => ⟨h.used_iff hr, h.revoked hr⟩, fun k i j hi hj hopen => ?_, fun user => ?_⟩
  · obtain ⟨child, hc, huser, -⟩ := h.link hr hnew
    exact ⟨child, hc, huser⟩
  · exact ⟨h.reflTransGen_of_open hi hj hopen, fun hopen' => h.eq_of_open hi hj hopen' hopen⟩
  · have hcount := countOpen_run_le (s := s) start steps user
    rwa [show start.store.countOpen user = 0 from rfl, Nat.zero_add] at hcount

end Gatehouse.Service
