/-
  Lineages of refresh tokens.

  A token that is replaced names the token that came in its place, so the records of the store form
  chains.  One kind of step could bend them, a revocation that names a replacement of its own; the
  service makes none such.  A `Plain` step keeps the `Lineage` of the records:

    * the record that a link names is there, belongs to the same user and was issued later;
    * no two links name the same record;
    * a record has a link exactly when it was used, and then it is revoked.

  The second point is why replacing checks that the new digest is new: no link names a digest that
  has no record.  From the first point no chain comes back to where it was, since the identifiers
  grow along it.  From the third an open record is the end of its chain, and as links are functional
  a chain has one end.
-/
import Gatehouse.Proofs.Store.Run
import Mathlib.Logic.Relation

namespace Gatehouse

/-- `r.SameLink r'` — a record changed from `r` to `r'` and has its owner, its place in the order of
issue, its link and its time of use as before. -/
structure RefreshRecord.SameLink {ι : Type} (r r' : RefreshRecord ι) : Prop where
  id : r'.id = r.id
  user : r'.user = r.user
  replacedBy : r'.replacedBy = r.replacedBy
  lastUsedAt : r'.lastUsedAt = r.lastUsedAt
  revoked : r.revoked = true → r'.revoked = true

namespace RefreshRecord

variable {ι : Type}

theorem SameLink.refl (r : RefreshRecord ι) : r.SameLink r := ⟨rfl, rfl, rfl, rfl, fun h => h⟩

theorem sameLink_closedFor (r : RefreshRecord ι) (user : Uuid) : r.SameLink (r.closedFor user) := by
  unfold closedFor
  split
  · exact ⟨rfl, rfl, rfl, rfl, fun _ => rfl⟩
  · exact SameLink.refl r

theorem sameLink_revokedWith_none (r : RefreshRecord ι) : r.SameLink (r.revokedWith none) :=
  ⟨rfl, rfl, rfl, rfl, fun _ => rfl⟩

end RefreshRecord

namespace Memory

/-- The records of a table, of which so many were issued, form chains. -/
structure Lineage (t : Table String (RefreshRecord Nat)) (issued : Nat) : Prop where
  id_lt : ∀ {k r}, t.get? k = some r → r.id < issued
  link : ∀ {k r new}, t.get? k = some r → r.replacedBy = some new →
    ∃ child, t.get? new = some child ∧ child.user = r.user ∧ r.id < child.id
  injective : ∀ {j k r r' new}, t.get? j = some r → t.get? k = some r' →
    r.replacedBy = some new → r'.replacedBy = some new → j = k
  used_iff : ∀ {k r}, t.get? k = some r → (r.replacedBy.isSome ↔ r.lastUsedAt.isSome)
  revoked : ∀ {k r}, t.get? k = some r → r.replacedBy.isSome → r.revoked = true

namespace Lineage

variable {t : Table String (RefreshRecord Nat)} {issued : Nat}

theorem empty : Lineage ∅ issued := by
  constructor <;> simp

/-! ## What keeps the lineage -/

/-- Changing records without touching their links keeps the lineage. -/
theorem modifyAll (h : Lineage t issued) {issued' : Nat} (le : issued ≤ issued')
    {t' : Table String (RefreshRecord Nat)} (f : String → RefreshRecord Nat → RefreshRecord Nat)
    (hf : ∀ k (r : RefreshRecord Nat), r.SameLink (f k r))
    (ht : ∀ k, t'.get? k = (t.get? k).map (f k)) :
    Lineage t' issued' := by
  -- every record of the new table is an old one that was changed
  have back {k : String} {r' : RefreshRecord Nat} (hr' : t'.get? k = some r') :
      ∃ r, t.get? k = some r ∧ r.SameLink r' := by
    rw [ht, Option.map_eq_some_iff] at hr'
    obtain ⟨r, hr, rfl⟩ := hr'
    exact ⟨r, hr, hf k r⟩
  constructor
  case id_lt =>
    intro k r' hr'
    obtain ⟨r, hr, same⟩ := back hr'
    have := h.id_lt hr
    have := same.id
    omega
  case link =>
    intro k r' new hr' hnew
    obtain ⟨r, hr, same⟩ := back hr'
    obtain ⟨child, hc, huser, hlt⟩ := h.link hr (same.replacedBy ▸ hnew)
    refine ⟨f new child, by rw [ht, hc]; rfl, ?_, ?_⟩
    · rw [(hf new child).user, same.user, huser]
    · rw [(hf new child).id, same.id]
      exact hlt
  case injective =>
    intro j k r₁ r₂ new h₁ h₂ hnew₁ hnew₂
    obtain ⟨_, hr₁, same₁⟩ := back h₁
    obtain ⟨_, hr₂, same₂⟩ := back h₂
    exact h.injective hr₁ hr₂ (same₁.replacedBy ▸ hnew₁) (same₂.replacedBy ▸ hnew₂)
  case used_iff =>
    intro k r' hr'
    obtain ⟨r, hr, same⟩ := back hr'
    rw [same.replacedBy, same.lastUsedAt]
    exact h.used_iff hr
  case revoked =>
    intro k r' hr' hlink
    obtain ⟨r, hr, same⟩ := back hr'
    exact same.revoked (h.revoked hr (same.replacedBy ▸ hlink))

/-- So does a record that comes without a link. -/
theorem insert (h : Lineage t issued) {k : String} (fresh : t.contains k = false)
    {r : RefreshRecord Nat} (hid : r.id = issued) (hlink : r.replacedBy = none)
    (hused : r.lastUsedAt = none) : Lineage (t.insert k r) (issued + 1) := by
  have cases {j : String} {r' : RefreshRecord Nat} (hj : (t.insert k r).get? j = some r') :
      (j = k ∧ r' = r) ∨ (j ≠ k ∧ t.get? j = some r') := by
    by_cases hjk : j = k
    · exact Or.inl ⟨hjk, by simpa [hjk, eq_comm] using hj⟩
    · exact Or.inr ⟨hjk, by simpa [hjk] using hj⟩
  constructor
  case id_lt =>
    intro j r' hj
    rcases cases hj with ⟨-, rfl⟩ | ⟨-, hj⟩
    · omega
    · exact Nat.lt_succ_of_lt (h.id_lt hj)
  case link =>
    intro j r' new hj hnew
    rcases cases hj with ⟨-, rfl⟩ | ⟨-, hj⟩
    · simp [hlink] at hnew
    · obtain ⟨child, hc, huser, hlt⟩ := h.link hj hnew
      have hne : new ≠ k := Table.ne_of_contains_eq_false hc fresh
      exact ⟨child, by simp [hne, hc], huser, hlt⟩
  case injective =>
    intro i j r₁ r₂ new h₁ h₂ hnew₁ hnew₂
    -- the new record has no link, so both links are old ones
    rcases cases h₁ with ⟨-, rfl⟩ | ⟨-, h₁⟩
    · simp [hlink] at hnew₁
    rcases cases h₂ with ⟨-, rfl⟩ | ⟨-, h₂⟩
    · simp [hlink] at hnew₂
    exact h.injective h₁ h₂ hnew₁ hnew₂
  case used_iff =>
    intro j r' hj
    rcases cases hj with ⟨-, rfl⟩ | ⟨-, hj⟩
    · simp [hlink, hused]
    · exact h.used_iff hj
  case revoked =>
    intro j r' hj hsome
    rcases cases hj with ⟨-, rfl⟩ | ⟨-, hj⟩
    · simp [hlink] at hsome
    · exact h.revoked hj hsome

/-- So does a link to a later record of the same user that no link names. -/
theorem replaceWith (h : Lineage t issued) {old new : String} {r child : RefreshRecord Nat}
    (hr : t.get? old = some r) (hc : t.get? new = some child) (huser : child.user = r.user)
    (hlt : r.id < child.id) (free : ∀ k r', t.get? k = some r' → r'.replacedBy ≠ some new)
    (now : Instant) : Lineage (t.modify old (·.replacedWith now new)) issued := by
  have cases {j : String} {r' : RefreshRecord Nat}
      (hj : (t.modify old (·.replacedWith now new)).get? j = some r') :
      (j = old ∧ r' = r.replacedWith now new) ∨ (j ≠ old ∧ t.get? j = some r') := by
    by_cases hjo : j = old
    · exact Or.inl ⟨hjo, by simpa [hjo, hr, eq_comm] using hj⟩
    · exact Or.inr ⟨hjo, by simpa [hjo] using hj⟩
  have forward {j : String} {r' : RefreshRecord Nat} (hj : t.get? j = some r') :
      ∃ r'', (t.modify old (·.replacedWith now new)).get? j = some r'' ∧ r''.user = r'.user ∧
        r''.id = r'.id := by
    by_cases hjo : j = old
    · exact ⟨r'.replacedWith now new, by simp [← hjo, hj], rfl, rfl⟩
    · exact ⟨r', by simp [hjo, hj], rfl, rfl⟩
  constructor
  case id_lt =>
    intro j r' hj
    rcases cases hj with ⟨-, rfl⟩ | ⟨-, hj⟩
    · have : r.id < issued := h.id_lt hr
      exact this
    · exact h.id_lt hj
  case link =>
    intro j r' new' hj hnew
    rcases cases hj with ⟨-, rfl⟩ | ⟨-, hj⟩
    · obtain rfl : new = new' := Option.some.inj hnew
      obtain ⟨child', hc', hu', hi'⟩ := forward hc
      exact ⟨child', hc', hu'.trans huser, hi' ▸ hlt⟩
    · obtain ⟨target, ht, hu, hi⟩ := h.link hj hnew
      obtain ⟨target', ht', hu', hi'⟩ := forward ht
      exact ⟨target', ht', hu'.trans hu, hi' ▸ hi⟩
  case injective =>
    intro i j r₁ r₂ new' h₁ h₂ hnew₁ hnew₂
    -- an old link with the target of the new one is what `free` excludes
    rcases cases h₁ with ⟨rfl, rfl⟩ | ⟨-, k₁⟩ <;> rcases cases h₂ with ⟨rfl, rfl⟩ | ⟨-, k₂⟩
    · rfl
    · exact absurd (hnew₂.trans hnew₁.symm) (free j r₂ k₂)
    · exact absurd (hnew₁.trans hnew₂.symm) (free i r₁ k₁)
    · exact h.injective k₁ k₂ hnew₁ hnew₂
  case used_iff =>
    intro j r' hj
    rcases cases hj with ⟨-, rfl⟩ | ⟨-, hj⟩
    · exact ⟨fun _ => rfl, fun _ => rfl⟩
    · exact h.used_iff hj
  case revoked =>
    intro j r' hj hsome
    rcases cases hj with ⟨-, rfl⟩ | ⟨-, hj⟩
    · rfl
    · exact h.revoked hj hsome

end Lineage

/-- **Every plain step keeps the lineage.** -/
theorem RefreshEffect.lineage {m : Memory} (h : Lineage m.refresh m.issued) {s : Step}
    (hs : s.Plain) {t : Table String (RefreshRecord Nat)} {n : Nat}
    (effect : m.RefreshEffect s t n) : Lineage t n := by
  cases effect with
  | kept s n le => exact h.modifyAll le (fun _ r => r) (fun _ r => .refl r) fun k => by simp
  | issued now digest user expiresAt client fresh => exact h.insert fresh rfl rfl rfl
  | replaced now old new expiresAt client r account good fresh =>
    have hne : old ≠ new := Table.ne_of_contains_eq_false good.known fresh
    -- the new record first, then the link to it
    refine (h.insert (r := m.issue now new r.user expiresAt client) fresh rfl rfl rfl).replaceWith
      (r := r) (by simp [hne, good.known]) (Table.get?_insert_self _ _ _) rfl
      (h.id_lt good.known) (fun k r' hk hlink => ?_) now
    by_cases hkn : k = new
    · obtain rfl : m.issue now new r.user expiresAt client = r' := by simpa [hkn] using hk
      simp [issue] at hlink
    · -- a link to `new` would need a record that is not there yet
      obtain ⟨child, hc, -, -⟩ := h.link (k := k) (r := r') (by simpa [hkn] using hk) hlink
      simp [Table.contains, hc] at fresh
  | contained now old new expiresAt client r known revoked =>
    exact h.modifyAll (Nat.le_refl _) (fun _ r' => r'.closedFor r.user)
      (fun _ r' => r'.sameLink_closedFor r.user) fun k => by simp
  | closed now user =>
    exact h.modifyAll (Nat.le_refl _) (fun _ r' => r'.closedFor user)
      (fun _ r' => r'.sameLink_closedFor user) fun k => by simp
  | ended now digest replacedBy =>
    cases replacedBy with
    | some new => exact absurd rfl (hs.names digest new)
    | none =>
      refine h.modifyAll (Nat.le_refl _)
        (fun k r => if k = digest then r.revokedWith none else r) (fun k r => ?_) fun k => ?_
      · split
        · exact r.sameLink_revokedWith_none
        · exact .refl r
      · by_cases hk : k = digest <;> simp [hk]
  | moved now digest expiresAt => exact absurd rfl (hs.moves digest expiresAt)

theorem lineage_run {m : Memory} (h : Lineage m.refresh m.issued) {steps : List Step}
    (hs : ∀ s ∈ steps, s.Plain) : Lineage (m.run steps).refresh (m.run steps).issued := by
  induction steps generalizing m with
  | nil => exact h
  | cons s steps ih =>
    obtain ⟨t, n, effect, ht, hn⟩ := m.refreshEffect_perform s
    refine ih ?_ fun s' hs' => hs s' (List.mem_cons_of_mem s hs')
    rw [ht, hn]
    exact effect.lineage h (hs s List.mem_cons_self)

/-! ## Chains -/

/-- The token with the first digest was replaced by the one with the second. -/
def Succeeds (t : Table String (RefreshRecord Nat)) (k new : String) : Prop :=
  ∃ r, t.get? k = some r ∧ r.replacedBy = some new

/-- The token with the digest is there and not revoked. -/
def Open (t : Table String (RefreshRecord Nat)) (k : String) : Prop :=
  ∃ r, t.get? k = some r ∧ r.revoked = false

namespace Lineage

variable {t : Table String (RefreshRecord Nat)} {issued : Nat}

theorem succeeds_rightUnique (t : Table String (RefreshRecord Nat)) :
    Relator.RightUnique (Succeeds t) := by
  rintro k a b ⟨r, hr, ha⟩ ⟨r', hr', hb⟩
  obtain rfl : r = r' := Option.some.inj (hr.symm.trans hr')
  exact Option.some.inj (ha.symm.trans hb)

/-- Along a chain the records belong to one user and were issued one after another. -/
theorem lt_of_transGen (h : Lineage t issued) {j k : String}
    (hjk : Relation.TransGen (Succeeds t) j k) {r : RefreshRecord Nat} (hr : t.get? j = some r) :
    ∃ r', t.get? k = some r' ∧ r'.user = r.user ∧ r.id < r'.id := by
  induction hjk with
  | single hs =>
    obtain ⟨r₁, hr₁, hlink⟩ := hs
    obtain rfl : r = r₁ := Option.some.inj (hr.symm.trans hr₁)
    exact h.link hr hlink
  | tail _ hs ih =>
    obtain ⟨r₁, hr₁, hu₁, hi₁⟩ := ih
    obtain ⟨r₂, hr₂, hlink⟩ := hs
    obtain rfl : r₁ = r₂ := Option.some.inj (hr₁.symm.trans hr₂)
    obtain ⟨r₃, hr₃, hu₃, hi₃⟩ := h.link hr₂ hlink
    exact ⟨r₃, hr₃, hu₃.trans hu₁, Nat.lt_trans hi₁ hi₃⟩

/-- No chain comes back to where it was. -/
theorem not_transGen_self (h : Lineage t issued) (k : String) :
    ¬ Relation.TransGen (Succeeds t) k k := by
  intro hk
  obtain ⟨_, ⟨r, hr, -⟩, -⟩ := Relation.TransGen.head'_iff.1 hk
  obtain ⟨r', hr', -, hlt⟩ := h.lt_of_transGen hk hr
  obtain rfl : r = r' := Option.some.inj (hr.symm.trans hr')
  exact Nat.lt_irrefl _ hlt

/-- An open record has no link, and was not used. -/
theorem unused_of_open (h : Lineage t issued) {k : String} {r : RefreshRecord Nat}
    (hr : t.get? k = some r) (hopen : r.revoked = false) :
    r.replacedBy = none ∧ r.lastUsedAt = none := by
  have hlink : ¬ r.replacedBy.isSome := fun hs => by simp [h.revoked hr hs] at hopen
  have hused : ¬ r.lastUsedAt.isSome := fun hs => hlink ((h.used_iff hr).2 hs)
  exact ⟨by simpa using hlink, by simpa using hused⟩

/-- An open record is the end of its chain. -/
theorem not_succeeds_of_open (h : Lineage t issued) {k : String} (hk : Open t k) (new : String) :
    ¬ Succeeds t k new := by
  obtain ⟨r, hr, hopen⟩ := hk
  rintro ⟨r', hr', hlink⟩
  obtain rfl : r = r' := Option.some.inj (hr.symm.trans hr')
  simp [(h.unused_of_open hr hopen).1] at hlink

/-- **An open record comes last**: every record of the chain leads to it. -/
theorem reflTransGen_of_open (h : Lineage t issued) {k i j : String}
    (hi : Relation.ReflTransGen (Succeeds t) k i) (hj : Relation.ReflTransGen (Succeeds t) k j)
    (hopen : Open t j) : Relation.ReflTransGen (Succeeds t) i j := by
  rcases Relation.ReflTransGen.total_of_right_unique (succeeds_rightUnique t) hi hj with hij | hji
  · exact hij
  · rcases Relation.ReflTransGen.cases_head hji with rfl | ⟨new, hs, -⟩
    · exact .refl
    · exact absurd hs (h.not_succeeds_of_open hopen new)

/-- A chain has at most one open record. -/
theorem eq_of_open (h : Lineage t issued) {k i j : String}
    (hi : Relation.ReflTransGen (Succeeds t) k i) (hj : Relation.ReflTransGen (Succeeds t) k j)
    (hopen : Open t i) (hopen' : Open t j) : i = j := by
  rcases Relation.ReflTransGen.cases_head (h.reflTransGen_of_open hi hj hopen') with
    rfl | ⟨new, hs, -⟩
  · rfl
  · exact absurd hs (h.not_succeeds_of_open hopen new)

end Lineage

/-! ## How many records of a user are open -/

/-- Tells whether a record belongs to a user and is not revoked. -/
def openFor (user : Uuid) (r : RefreshRecord Nat) : Bool := decide (r.user = user) && !r.revoked

theorem countOpen_eq (m : Memory) (user : Uuid) :
    m.countOpen user = m.refresh.values.countP (openFor user) := by
  rw [countOpen, recordsOf, List.countP_filter]
  refine List.countP_congr fun r _ => ?_
  rw [openFor, Bool.and_comm]

theorem openFor_issue (m : Memory) (now : Instant) (digest : String) (owner user : Uuid)
    (expiresAt : Instant) (client : ClientInfo) :
    openFor user (m.issue now digest owner expiresAt client) = decide (owner = user) :=
  Bool.and_true _

/-- A record that is open after a change was open before. -/
theorem openFor_of_evolves {user : Uuid} {r r' : RefreshRecord Nat} (e : r.Evolves r')
    (h : openFor user r' = true) : openFor user r = true := by
  simp only [openFor, Bool.and_eq_true, decide_eq_true_eq, Bool.not_eq_true'] at h ⊢
  refine ⟨e.user.symm.trans h.1, Bool.eq_false_iff.2 fun hr => ?_⟩
  simp [e.revoked hr] at h

/-- **Only issuing a token to a user anew raises the number of the user's open records**, and by
one.  A replacement revokes one record for the one that it adds. -/
theorem RefreshEffect.countP_openFor_le {m : Memory} {s : Step}
    {t : Table String (RefreshRecord Nat)} {n : Nat} (effect : m.RefreshEffect s t n)
    (user : Uuid) :
    t.values.countP (openFor user) ≤ m.refresh.values.countP (openFor user) ∨
    (t.values.countP (openFor user) = m.refresh.values.countP (openFor user) + 1 ∧
      ∃ digest expiresAt client, m.refresh.contains digest = false ∧
        s.operation = .call (.insertRefresh digest user expiresAt client)) := by
  cases effect with
  | kept => exact Or.inl (Nat.le_refl _)
  | issued now digest owner expiresAt client fresh =>
    rw [Table.countP_insert fresh, openFor_issue]
    by_cases howner : owner = user
    · subst howner
      exact Or.inr ⟨by simp, digest, expiresAt, client, fresh, rfl⟩
    · exact Or.inl (by simp [howner])
  | replaced now old new expiresAt client r account good fresh =>
    have hne : old ≠ new := Table.ne_of_contains_eq_false good.known fresh
    have hold :
        (m.refresh.insert new (m.issue now new r.user expiresAt client)).get? old = some r := by
      simp [hne, good.known]
    -- the owner gains the new record and loses the old one, and nobody else is concerned
    have hmod := Table.countP_modify hold (·.replacedWith now new) (openFor user)
    have hins := Table.countP_insert fresh (m.issue now new r.user expiresAt client) (openFor user)
    rw [openFor_issue] at hins
    have h₁ : openFor user r = decide (r.user = user) := by simp [openFor, good.unrevoked]
    have h₂ : openFor user (r.replacedWith now new) = false := by
      simp [openFor, RefreshRecord.replacedWith]
    rw [h₁, h₂] at hmod
    simp only [Bool.false_eq_true, if_false] at hmod
    exact Or.inl (by omega)
  | contained now old new expiresAt client r known revoked =>
    exact Or.inl (Table.countP_modifyAll_le _ fun r' =>
      openFor_of_evolves (r'.evolves_closedFor r.user))
  | closed now owner =>
    exact Or.inl (Table.countP_modifyAll_le _ fun r =>
      openFor_of_evolves (r.evolves_closedFor owner))
  | ended now digest replacedBy =>
    exact Or.inl (Table.countP_modify_le _ _ fun r =>
      openFor_of_evolves (r.evolves_revokedWith replacedBy))
  | moved now digest expiresAt =>
    exact Or.inl (Table.countP_modify_le _ _ fun r =>
      openFor_of_evolves (r.evolves_expiresAt expiresAt))

theorem countOpen_perform (m : Memory) (s : Step) (user : Uuid) :
    (m.perform s).countOpen user ≤ m.countOpen user ∨
    ((m.perform s).countOpen user = m.countOpen user + 1 ∧
      ∃ digest expiresAt client, m.refresh.contains digest = false ∧
        s.operation = .call (.insertRefresh digest user expiresAt client)) := by
  obtain ⟨t, n, effect, ht, -⟩ := m.refreshEffect_perform s
  rw [countOpen_eq, countOpen_eq, ht]
  exact effect.countP_openFor_le user

end Memory

end Gatehouse
