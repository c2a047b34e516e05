/-
  The records as an audit trail.

  A store that loses a record, or rewrites one, can no longer tell a token that was used before from
  one that it never saw.  So the records only grow: every record stands under the digest of its own
  token, no later state is without it, and what was written when the token was issued is still
  written there.  This much follows from what becomes of one record (`Store/Run`, `Store/Reset`).

  The listing of a user says more, since it speaks of all the records at once and of their order.
  `issued?` reads off the answer of a call which record it issued.  A step leaves every record in
  its place and puts the record that it issues, if it issues one, behind the others
  (`values_perform`); so the table of a run is what the calls of the run issued, in their order
  (`values_run`).  Identifiers count the records as they are issued (`numbered_run`), so sorting by
  them gives the same order again, however the table is read out.
-/
import Gatehouse.Proofs.Store.Failure
import Gatehouse.Proofs.Store.Reset
import Mathlib.Data.List.Sort
import Mathlib.Order.Monotone.Basic

namespace Gatehouse.Memory

/-! ## Every record under its own digest -/

/-- Every refresh record and every reset record stands under the digest of its own token. -/
structure Filed (m : Memory) : Prop where
  refresh : ∀ {k r}, m.refresh.get? k = some r → r.digest = k
  resets : ∀ {k r}, m.resets.get? k = some r → r.digest = k

theorem filed_empty : Filed {} where
  refresh h := by cases h
  resets h := by cases h

/-- A record that a step issues is written under its digest, and no step rewrites the digest. -/
theorem filed_perform {m : Memory} (h : m.Filed) (s : Step) : (m.perform s).Filed where
  refresh {k r} hr := by
    obtain ⟨t, n, effect, ht, -⟩ := m.refreshEffect_perform s
    rw [ht] at hr
    cases hk : m.refresh.get? k with
    | none =>
      rcases effect.get?_of_none hk hr with ⟨_, _, _, _, rfl⟩ | ⟨_, _, _, _, _, _, _, rfl⟩ <;> rfl
    | some r₀ =>
      obtain ⟨r', hr', e⟩ := effect.evolves hk
      obtain rfl : r = r' := Option.some.inj (hr.symm.trans hr')
      exact e.digest.trans (h.refresh hk)
  resets {k r} hr := by
    have effect := m.resetEffect_perform s
    cases hk : m.resets.get? k with
    | none =>
      obtain ⟨_, _, _, rfl⟩ := effect.get?_of_none hk hr
      rfl
    | some r₀ =>
      obtain ⟨r', hr', e⟩ := effect.evolves hk
      obtain rfl : r = r' := Option.some.inj (hr.symm.trans hr')
      exact e.digest.trans (h.resets hk)

theorem filed_run {m : Memory} (h : m.Filed) (steps : List Step) : (m.run steps).Filed := by
  induction steps generalizing m with
  | nil => exact h
  | cons s steps ih => exact ih (filed_perform h s)

/-! ## What the calls issue -/

/-- The refresh record that a call issued, by what the call was answered: an insertion that succeeds
issues one to the user it names, and a rotation that succeeds and found no reuse issues one to the
user that its answer names. -/
def issued? : Memory × Step → Option (RefreshRecord Nat)
  | (m, ⟨now, .call (.insertRefresh digest user expiresAt client)⟩) =>
    match (m.insertRefresh now digest user expiresAt client).1 with
    | .ok _ => some (m.issue now digest user expiresAt client)
    | .error _ => none
  | (m, ⟨now, .call (.rotate old new expiresAt client)⟩) =>
    match (m.rotate now old new expiresAt client).1 with
    | .ok rotation =>
      if rotation.reused then none else some (m.issue now new rotation.user expiresAt client)
    | .error _ => none
  | _ => none

/-- The records that the calls of a run issued, in the order of the calls. -/
def issues (m : Memory) (steps : List Step) : List (RefreshRecord Nat) :=
  (m.history steps).filterMap issued?

theorem issues_cons (m : Memory) (s : Step) (steps : List Step) :
    m.issues (s :: steps) = (issued? (m, s)).toList ++ (m.perform s).issues steps := by
  rw [issues, history, List.filterMap_cons]
  cases issued? (m, s) <;> rfl

theorem forall₂_evolves_trans {l₁ l₂ l₃ : List (RefreshRecord Nat)}
    (h : List.Forall₂ RefreshRecord.Evolves l₁ l₂) (k : List.Forall₂ RefreshRecord.Evolves l₂ l₃) :
    List.Forall₂ RefreshRecord.Evolves l₁ l₃ := by
  induction h generalizing l₃ with
  | nil => exact k
  | cons e _ ih =>
    cases k with
    | cons e' k => exact .cons (e.trans e') (ih k)

theorem forall₂_evolves_refl (l : List (RefreshRecord Nat)) :
    List.Forall₂ RefreshRecord.Evolves l l :=
  List.forall₂_same.2 fun r _ => .refl r

/-- A record that is issued comes behind the others, and it takes the next number. -/
theorem values_of_issued?_eq_some {m : Memory} {s : Step} {r : RefreshRecord Nat}
    (h : issued? (m, s) = some r) :
    List.Forall₂ RefreshRecord.Evolves (m.refresh.values ++ [r]) (m.perform s).refresh.values ∧
      r.id = m.issued ∧ (m.perform s).issued = m.issued + 1 := by
  unfold issued? at h
  split at h
  · rename_i m now digest user expiresAt client heq
    obtain ⟨rfl, rfl⟩ := Prod.mk.inj heq
    cases fresh : m.refresh.contains digest with
    | true => simp [insertRefresh_of_contains fresh] at h
    | false =>
      obtain rfl : m.issue now digest user expiresAt client = r := by
        simpa [insertRefresh_of_fresh fresh] using h
      refine ⟨?_, rfl, ?_⟩
      · simp only [perform, answer, insertRefresh_of_fresh fresh,
          Table.values_insert_of_fresh fresh]
        exact forall₂_evolves_refl _
      · simp only [perform, answer, insertRefresh_of_fresh fresh]
  · rename_i m now old new expiresAt client heq
    obtain ⟨rfl, rfl⟩ := Prod.mk.inj heq
    split at h
    · rename_i rotation hok
      split at h
      · cases h
      · rename_i hreused
        obtain ⟨parent, account, good, fresh, rfl, hstore⟩ :=
          good_of_rotate hok (Bool.eq_false_iff.2 hreused)
        obtain rfl := Option.some.inj h
        refine ⟨?_, rfl, ?_⟩
        · -- the new record comes behind the others, and then the one it replaces is marked
          simp only [perform, answer, hstore, replaced]
          rw [← Table.values_insert_of_fresh fresh]
          exact Table.forall₂_values_modify _ _ .refl fun v => v.evolves_replacedWith now new
        · simp only [perform, answer, hstore, replaced]
    · cases h
  · cases h

/-- Any other step leaves every record in its place. -/
theorem values_of_issued?_eq_none {m : Memory} {s : Step} (h : issued? (m, s) = none) :
    List.Forall₂ RefreshRecord.Evolves m.refresh.values (m.perform s).refresh.values ∧
      m.issued ≤ (m.perform s).issued := by
  obtain ⟨t, n, effect, ht, hn⟩ := m.refreshEffect_perform s
  rw [ht, hn]
  cases effect with
  | kept _ _ le => exact ⟨forall₂_evolves_refl _, le⟩
  | issued now digest user expiresAt client fresh =>
    simp [issued?, insertRefresh_of_fresh fresh] at h
  | replaced now old new expiresAt client r account good fresh =>
    simp [issued?, rotate_of_good good fresh] at h
  | contained now old new expiresAt client r =>
    exact ⟨Table.forall₂_values_modifyAll _ fun v => v.evolves_closedFor r.user, Nat.le_refl _⟩
  | closed now user =>
    exact ⟨Table.forall₂_values_modifyAll _ fun v => v.evolves_closedFor user, Nat.le_refl _⟩
  | ended now digest replacedBy =>
    exact ⟨Table.forall₂_values_modify _ _ .refl fun v => v.evolves_revokedWith replacedBy,
      Nat.le_refl _⟩
  | moved now digest expiresAt =>
    exact ⟨Table.forall₂_values_modify _ _ .refl fun v => v.evolves_expiresAt expiresAt,
      Nat.le_refl _⟩

/-- **A step leaves every record in its place** and puts the one that it issues behind the
others. -/
theorem values_perform (m : Memory) (s : Step) :
    List.Forall₂ RefreshRecord.Evolves (m.refresh.values ++ (issued? (m, s)).toList)
      (m.perform s).refresh.values := by
  cases h : issued? (m, s) with
  | none =>
    rw [Option.toList_none, List.append_nil]
    exact (values_of_issued?_eq_none h).1
  | some r => exact (values_of_issued?_eq_some h).1

/-- **The table of a run** is what was there before, and behind it what the calls issued. -/
theorem values_run (m : Memory) (steps : List Step) :
    List.Forall₂ RefreshRecord.Evolves (m.refresh.values ++ m.issues steps)
      (m.run steps).refresh.values := by
  induction steps generalizing m with
  | nil =>
    have hnone : m.issues [] = [] := rfl
    rw [hnone, List.append_nil]
    exact forall₂_evolves_refl _
  | cons s steps ih =>
    rw [issues_cons, ← List.append_assoc]
    have first := List.rel_append (values_perform m s)
      (forall₂_evolves_refl ((m.perform s).issues steps))
    exact forall₂_evolves_trans first (ih (m.perform s))

/-! ## The order of issue -/

/-- The numbers of the records grow along the table, and the next number is above them all. -/
def Numbered (m : Memory) : Prop :=
  (m.refresh.values.map (·.id) ++ [m.issued]).Pairwise (· < ·)

theorem map_id_of_forall₂ {l l' : List (RefreshRecord Nat)}
    (h : List.Forall₂ RefreshRecord.Evolves l l') : l'.map (·.id) = l.map (·.id) := by
  induction h with
  | nil => rfl
  | cons e _ ih => rw [List.map_cons, List.map_cons, e.id, ih]

theorem numbered_perform {m : Memory} (h : m.Numbered) (s : Step) : (m.perform s).Numbered := by
  obtain ⟨increasing, -, below⟩ := List.pairwise_append.1 h
  have hbelow : ∀ i ∈ m.refresh.values.map (·.id), i < m.issued :=
    fun i hi => below i hi m.issued List.mem_cons_self
  unfold Numbered
  cases hs : issued? (m, s) with
  | none =>
    obtain ⟨hvalues, hle⟩ := values_of_issued?_eq_none hs
    rw [map_id_of_forall₂ hvalues]
    refine List.pairwise_append.2 ⟨increasing, List.pairwise_singleton _ _, ?_⟩
    intro i hi j hj
    have hj : j = (m.perform s).issued := List.mem_singleton.1 hj
    have := hbelow i hi
    omega
  | some r =>
    -- the new record takes the number that was next, and the number after it is next now
    obtain ⟨hvalues, hid, hissued⟩ := values_of_issued?_eq_some hs
    rw [map_id_of_forall₂ hvalues, List.map_append, List.map_cons, List.map_nil, hid]
    refine List.pairwise_append.2 ⟨h, List.pairwise_singleton _ _, ?_⟩
    intro i hi j hj
    have hj : j = (m.perform s).issued := List.mem_singleton.1 hj
    rcases List.mem_append.1 hi with hi | hi
    · have := hbelow i hi
      omega
    · have := List.mem_singleton.1 hi
      omega

theorem numbered_run {m : Memory} (h : m.Numbered) (steps : List Step) :
    (m.run steps).Numbered := by
  induction steps generalizing m with
  | nil => exact h
  | cons s steps ih => exact ih (numbered_perform h s)

theorem numbered_empty : Numbered {} := List.pairwise_singleton _ _

/-! ## The listing of a user -/

/-- The listing of a user is what the calls issued to the user, in their order. -/
theorem recordsOf_run (steps : List Step) (user : Uuid) :
    List.Forall₂ RefreshRecord.Evolves ((issues {} steps).filter (·.user = user))
      ((run {} steps).recordsOf user) := by
  have hall : List.Forall₂ RefreshRecord.Evolves (issues {} steps)
      (run {} steps).refresh.values := values_run {} steps
  refine List.rel_filter (fun r r' e => ?_) hall
  simp only [decide_eq_true_eq, e.user]

theorem recordsOf_increasing {m : Memory} (h : m.Numbered) (user : Uuid) :
    (m.recordsOf user).Pairwise fun r s => r.id < s.id := by
  have hids : m.refresh.values.Pairwise fun r s => r.id < s.id :=
    List.pairwise_map.1 (List.pairwise_append.1 h).1
  exact hids.sublist List.filter_sublist

/-- **However the table is read out**, sorting the records of a user by their names gives them in
the order of issue, if the names grow with the numbers. -/
theorem mergeSort_eq_recordsOf {κ : Type} [LinearOrder κ] {name : Nat → κ}
    (increasing : StrictMono name) {m : Memory} (h : m.Numbered) (user : Uuid)
    {l : List (RefreshRecord Nat)} (hl : l.Perm m.refresh.values) :
    (l.filter (·.user = user)).mergeSort (fun r s => name r.id ≤ name s.id) = m.recordsOf user := by
  have listed := recordsOf_increasing h user
  have hperm : ((l.filter (·.user = user)).mergeSort fun r s => name r.id ≤ name s.id).Perm
      (m.recordsOf user) :=
    (List.mergeSort_perm _ _).trans (hl.filter _)
  have sorted : ((l.filter (·.user = user)).mergeSort fun r s => name r.id ≤ name s.id).Pairwise
      fun r s => name r.id ≤ name s.id := by
    refine (List.pairwise_mergeSort ?_ ?_ _).imp of_decide_eq_true
    · intro r s t hrs hst
      exact decide_eq_true (le_trans (of_decide_eq_true hrs) (of_decide_eq_true hst))
    · intro r s
      simpa using le_total (name r.id) (name s.id)
  refine List.Perm.eq_of_pairwise ?_ sorted (listed.imp fun hlt => (increasing hlt).le) hperm
  -- no two records of the listing have the same number
  intro r s hr hs hrs hsr
  have hid : r.id = s.id := increasing.injective (le_antisymm hrs hsr)
  have hnodup : ((m.recordsOf user).map (·.id)).Nodup :=
    List.pairwise_map.2 (listed.imp Nat.ne_of_lt)
  exact List.inj_on_of_nodup_map hnodup (hperm.mem_iff.1 hr) hs hid

/-! ## The audit trail -/

/-- **The records are an append-only audit trail.**  In every state that a run from the empty store
reaches, every refresh record and every reset record stands under its own digest.  In every later
state it is still there and evolved, and its expiry is the same unless a step moved it.  The listing
of a user is what the calls so far issued to the user: one record for each, in the order of issue;
and if the names of the records grow with their numbers, this is the order in which any reading of
the table is brought by sorting it by name. -/
theorem records_are_an_audit_trail {κ : Type} [LinearOrder κ] {name : Nat → κ}
    (increasing : StrictMono name) (before after : List Step) :
    (∀ k r, (run {} before).refresh.get? k = some r →
      r.digest = k ∧ ∃ r', (run {} (before ++ after)).refresh.get? k = some r' ∧ r.Evolves r' ∧
        ((∀ s ∈ after, ∀ expiresAt, s.operation ≠ .setExpiry k expiresAt) →
          r'.expiresAt = r.expiresAt)) ∧
    (∀ k r, (run {} before).resets.get? k = some r →
      r.digest = k ∧ ∃ r', (run {} (before ++ after)).resets.get? k = some r' ∧ r.Evolves r') ∧
    ∀ user,
      List.Forall₂ RefreshRecord.Evolves ((issues {} before).filter (·.user = user))
        ((run {} before).recordsOf user) ∧
      ((run {} before).recordsOf user).Pairwise (fun r s => name r.id < name s.id) ∧
      ∀ l : List (RefreshRecord Nat), l.Perm (run {} before).refresh.values →
        (l.filter (·.user = user)).mergeSort (fun r s => name r.id ≤ name s.id) =
          (run {} before).recordsOf user := by
  have filed : (run {} before).Filed := filed_run filed_empty before
  have numbered : (run {} before).Numbered := numbered_run numbered_empty before
  rw [run_append]
  refine ⟨fun k r hr => ⟨filed.refresh hr, ?_⟩, fun k r hr => ⟨filed.resets hr, ?_⟩,
    fun user => ⟨recordsOf_run before user, ?_, fun l hl => ?_⟩⟩
  · obtain ⟨r', hr', e⟩ := evolves_run hr after
    exact ⟨r', hr', e, fun unmoved => expiresAt_run unmoved hr hr'⟩
  · exact reset_evolves_run hr after
  · exact (recordsOf_increasing numbered user).imp fun hlt => increasing hlt
  · exact mergeSort_eq_recordsOf increasing numbered user hl

/-- Two users, three tokens of the first of them, and a reset token: one token is replaced, and then
the replaced one is presented again, with its expiry moved in between. -/
theorem records_are_an_audit_trail_reuse :
    let client : ClientInfo := ⟨some "192.0.2.1", none⟩
    let user : Uuid := .ofNat 1
    let other : Uuid := .ofNat 2
    let before : List Step :=
      [⟨0, .register ⟨user, "a@example.org", none, "learner"⟩ ""⟩,
        ⟨0, .call (.insertRefresh "first" user 10 client)⟩,
        ⟨0, .call (.insertReset "forgotten" user 10)⟩,
        ⟨1, .call (.insertRefresh "theirs" other 10 client)⟩,
        ⟨1, .call (.insertRefresh "theirs" user 10 client)⟩,
        ⟨2, .call (.rotate "first" "second" 11 client)⟩]
    let after : List Step :=
      [⟨3, .setExpiry "first" 20⟩, ⟨4, .call (.rotate "first" "third" 30 client)⟩]
    ((issues {} before).filter (·.user = user)).map (·.digest) = ["first", "second"] ∧
      ((run {} before).recordsOf user).map (·.digest) = ["first", "second"] ∧
      ((run {} before).refresh.values.reverse.filter (·.user = user)).mergeSort
        (fun r s => 2 * r.id ≤ 2 * s.id) = (run {} before).recordsOf user ∧
      ∃ r', (run {} (before ++ after)).refresh.get? "second" = some r' ∧ r'.digest = "second" ∧
        r'.expiresAt = 11 := by
  intro client user other before after
  have increasing : StrictMono fun n : Nat => 2 * n := fun i j hij => by
    show 2 * i < 2 * j
    omega
  obtain ⟨refresh, -, listing⟩ := records_are_an_audit_trail increasing before after
  obtain ⟨-, -, sorting⟩ := listing user
  refine ⟨by decide, by decide, sorting _ (List.reverse_perm _), ?_⟩
  obtain ⟨r, hr, hexpiry⟩ : ∃ r, (run {} before).refresh.get? "second" = some r ∧
      r.expiresAt = 11 := ⟨_, rfl, rfl⟩
  obtain ⟨hdigest, r', hr', e, unmoved⟩ := refresh "second" r hr
  have hafter : ∀ s ∈ after, ∀ expiresAt, s.operation ≠ .setExpiry "second" expiresAt := by
    intro s hs expiresAt
    simp only [after, List.mem_cons, List.not_mem_nil, or_false] at hs
    rcases hs with rfl | rfl <;> simp
  exact ⟨r', hr', e.digest.trans hdigest, (unmoved hafter).trans hexpiry⟩

end Gatehouse.Memory
