/-
  Users are isolated from each other.

  Whatever other users do, and whatever is done with their tokens, a user sees none of it: if all
  the steps that do not concern the user are taken out of a run, the others are answered as before,
  and the store ends up with the same account and the same records of the user.

  What a store holds of a user is the account, and under each digest the record of the user, if it
  is one of the user (`SameFor`).  The identifier of a record does not count, since identifiers
  count the records of everybody.  Two step lemmas carry the run.

  * A step that does not concern the user leaves what the store holds of the user as it was
    (`sameFor_perform_of_other`).
  * A step that concerns the user reads nothing else (`SameFor.perform`): two stores that hold the
    same of the user answer it alike, and hold the same of the user afterwards.

  There is one thing that users share, the digests that are taken.  A digest that two calls
  introduce is refused to the second of them, whoever it is for; so the digests of a run are
  supposed to be introduced once (`known_perform` is the invariant that this rests on).
-/
import Gatehouse.Proofs.Store.Account
import Gatehouse.Proofs.Store.Failure
import Gatehouse.Proofs.Store.Reset

namespace Gatehouse.Memory

/-! ## What an operation is answered -/

/-- What an operation gives if it succeeds. -/
def Operation.Reply : Operation → Type
  | .call c => c.Reply
  | .register _ _ => Unit
  | .setRole _ _ => Unit
  | .setExpiry _ _ => Unit

/-- What an operation is answered at a point in time. -/
def reply (m : Memory) (now : Instant) : (op : Operation) → Except AuthError op.Reply
  | .call c => (m.answer now c).1
  | .register _ _ => .ok ()
  | .setRole user role => (m.setRole user role).1
  | .setExpiry digest expiresAt => (m.setExpiry digest expiresAt).1

/-- The operation of an entry of a history, with what it is answered. -/
def answered (e : Memory × Step) : (operation : Operation) × Except AuthError operation.Reply :=
  ⟨e.2.operation, e.1.reply e.2.now e.2.operation⟩

/-! ## Which steps concern a user -/

/-- Tells whether an entry of a history concerns a user: it names the user, or it presents a digest
under which there is a record of the user at that moment.  Looking for an address concerns the user
unless the account that it finds is another's. -/
def concerns (user : Uuid) (e : Memory × Step) : Bool :=
  match e.2.operation with
  | .register u _ => u.id = user
  | .setRole u _ => u = user
  | .setExpiry digest _ => (e.1.refresh.get? digest).any (·.user = user)
  | .call (.insertRefresh _ u _ _) => u = user
  | .call (.rotate old _ _ _) => (e.1.refresh.get? old).any (·.user = user)
  | .call (.revoke digest _) => (e.1.refresh.get? digest).any (·.user = user)
  | .call (.revokeAll u) => u = user
  | .call (.insertReset _ u _) => u = user
  | .call (.consumeReset digest) => (e.1.resets.get? digest).any (·.user = user)
  | .call (.findByEmail email) => (e.1.findByEmail email).all (·.user.id = user)
  | .call (.findById u) => u = user
  | .call (.setPassword u _) => u = user

/-- The digest that a step introduces. -/
def introduced? (s : Step) : Option String :=
  match s.operation with
  | .call (.insertRefresh digest _ _ _) => some digest
  | .call (.rotate _ new _ _) => some new
  | .call (.insertReset digest _ _) => some digest
  | _ => none

/-! ## What a store holds of a user -/

/-- The record of a user under a digest, apart from its identifier. -/
def refreshOf (user : Uuid) (t : Table String (RefreshRecord Nat)) (k : String) :
    Option (RefreshRecord Unit) :=
  t.view (·.user = user) (·.withId ()) k

/-- The reset record of a user under a digest, apart from its identifier. -/
def resetOf (user : Uuid) (t : Table String ResetRecord) (k : String) : Option ResetRecord :=
  t.view (·.user = user) ({ · with id := 0 }) k

/-- `m.SameFor user m'` — two stores hold the same of a user: the account, and under each digest the
refresh record and the reset record of the user. -/
structure SameFor (user : Uuid) (m m' : Memory) : Prop where
  account : m'.accounts.get? user = m.accounts.get? user
  refresh : ∀ k, refreshOf user m'.refresh k = refreshOf user m.refresh k
  resets : ∀ k, resetOf user m'.resets k = resetOf user m.resets k

variable {user : Uuid} {m m' : Memory} {k : String}

theorem SameFor.refl (user : Uuid) (m : Memory) : SameFor user m m :=
  ⟨rfl, fun _ => rfl, fun _ => rfl⟩

theorem SameFor.symm (h : SameFor user m m') : SameFor user m' m :=
  ⟨h.account.symm, fun k => (h.refresh k).symm, fun k => (h.resets k).symm⟩

theorem SameFor.trans {m'' : Memory} (h : SameFor user m m') (h' : SameFor user m' m'') :
    SameFor user m m'' :=
  ⟨h'.account.trans h.account, fun k => (h'.refresh k).trans (h.refresh k),
    fun k => (h'.resets k).trans (h.resets k)⟩

/-- A record seen as the user's is the user's, and stands in the table with some id. -/
theorem exists_of_refreshOf {row : RefreshRecord Unit}
    (h : refreshOf user m.refresh k = some row) :
    row.user = user ∧ ∃ id, m.refresh.get? k = some (row.withId id) := by
  obtain ⟨r, hr, huser, rfl⟩ := Table.view_eq_some_iff.1 h
  exact ⟨of_decide_eq_true huser, r.id, hr⟩

/-- A reset record seen as the user's is the user's, and stands in the table with some id. -/
theorem exists_of_resetOf {row : ResetRecord} (h : resetOf user m.resets k = some row) :
    row.user = user ∧ ∃ id, m.resets.get? k = some { row with id } := by
  obtain ⟨r, hr, huser, rfl⟩ := Table.view_eq_some_iff.1 h
  exact ⟨of_decide_eq_true huser, r.id, hr⟩

/-! ## Steps that do not concern the user -/

/-- Closing the sessions of another user is not seen. -/
theorem refreshOf_closedFor {owner : Uuid} (h : owner ≠ user)
    (t : Table String (RefreshRecord Nat)) (k : String) :
    refreshOf user (t.modifyAll (·.closedFor owner)) k = refreshOf user t k := by
  refine Table.view_modifyAll_of_unpicked (fun r => by rw [RefreshRecord.user_closedFor])
    (fun r hr => ?_) t k
  have hne : r.user ≠ owner := fun he => h (he.symm.trans (of_decide_eq_true hr))
  exact RefreshRecord.closedFor_of_ne hne

/-- A step that does not concern the user leaves the user's account alone. -/
theorem account_perform_of_other {s : Step} (h : concerns user (m, s) = false) :
    (m.perform s).accounts.get? user = m.accounts.get? user := by
  obtain ⟨now, op⟩ := s
  cases op with
  | register u hash =>
    have hne : user ≠ u.id := fun he => of_decide_eq_false h he.symm
    simp [perform, insertUser, hne]
  | setRole u role =>
    have hne : user ≠ u := fun he => of_decide_eq_false h he.symm
    simp only [perform, setRole]
    split
    · simp [hne]
    · rfl
  | setExpiry digest expiresAt =>
    simp only [perform, setExpiry]
    split <;> rfl
  | call c =>
    by_cases hset : ∃ u hash, c = .setPassword u hash
    · obtain ⟨u, hash, rfl⟩ := hset
      have hne : user ≠ u := fun he => of_decide_eq_false h he.symm
      simp only [perform, answer, setPassword]
      split
      · simp [hne]
      · rfl
    · rw [perform, m.accounts_answer now fun u hash hc => hset ⟨u, hash, hc⟩]

/-- A step that does not concern the user leaves what the user sees of every digest alone. -/
theorem refresh_perform_of_other {s : Step} (h : concerns user (m, s) = false) (k : String) :
    refreshOf user (m.perform s).refresh k = refreshOf user m.refresh k := by
  obtain ⟨t, n, effect, ht, -⟩ := m.refreshEffect_perform s
  rw [ht]
  cases effect with
  | kept => rfl
  | issued now digest u expiresAt client fresh =>
    have hunpicked : decide (u = user) = false := h
    refine Table.view_insert_of_unpicked ?_ fresh k
    exact hunpicked
  | replaced now old new expiresAt client r account good fresh =>
    -- neither the record that is replaced nor the one that comes in its place is the user's
    have hunpicked : decide (r.user = user) = false := by simpa [concerns, good.known] using h
    have hinsert : refreshOf user
        (m.refresh.insert new (m.issue now new r.user expiresAt client)) k =
          refreshOf user m.refresh k := by
      refine Table.view_insert_of_unpicked ?_ fresh k
      exact hunpicked
    refine (Table.view_modify_of_unpicked ?_ ?_ k).trans hinsert
    · exact fun r => rfl
    · intro r' hr'
      have hne : old ≠ new := Table.ne_of_contains_eq_false good.known fresh
      obtain rfl : r = r' := by simpa [hne, good.known] using hr'
      exact hunpicked
  | contained now old new expiresAt client r known =>
    have hne : r.user ≠ user := by simpa [concerns, known] using h
    exact refreshOf_closedFor hne m.refresh k
  | closed now u => exact refreshOf_closedFor (of_decide_eq_false h) m.refresh k
  | ended now digest replacedBy =>
    refine Table.view_modify_of_unpicked ?_ ?_ k
    · exact fun r => rfl
    · intro r hr
      simpa [concerns, hr] using h
  | moved now digest expiresAt =>
    refine Table.view_modify_of_unpicked ?_ ?_ k
    · exact fun r => rfl
    · intro r hr
      simpa [concerns, hr] using h

/-- A step that does not concern the user leaves the user's reset records alone. -/
theorem resets_perform_of_other {s : Step} (h : concerns user (m, s) = false) (k : String) :
    resetOf user (m.perform s).resets k = resetOf user m.resets k := by
  have effect := m.resetEffect_perform s
  generalize (m.perform s).resets = t at effect
  cases effect with
  | kept => rfl
  | issued now digest u expiresAt fresh =>
    have hunpicked : decide (u = user) = false := h
    refine Table.view_insert_of_unpicked ?_ fresh k
    exact hunpicked
  | consumed now digest r good =>
    refine Table.view_modify_of_unpicked ?_ ?_ k
    · exact fun r => rfl
    · intro r hr
      simpa [concerns, hr] using h

/-- **A step that does not concern the user is not seen**: the store holds the same of the user. -/
theorem sameFor_perform_of_other {s : Step} (h : concerns user (m, s) = false) :
    SameFor user m (m.perform s) :=
  ⟨account_perform_of_other h, refresh_perform_of_other h, resets_perform_of_other h⟩

/-! ## Digests that are introduced once -/

/-- Every digest that is taken is one of those that were introduced. -/
structure Known (m : Memory) (digests : List String) : Prop where
  refresh : ∀ {k r}, m.refresh.get? k = some r → k ∈ digests
  resets : ∀ {k r}, m.resets.get? k = some r → k ∈ digests

/-- A step adds to the digests that are taken only the one that it introduces. -/
theorem known_perform {digests : List String} (h : m.Known digests) (s : Step) :
    (m.perform s).Known (digests ++ (introduced? s).toList) where
  refresh {k r} hr := by
    obtain ⟨t, n, effect, ht, -⟩ := m.refreshEffect_perform s
    rw [ht] at hr
    refine List.mem_append.2 ?_
    cases hk : m.refresh.get? k with
    | some r₀ => exact Or.inl (h.refresh hk)
    | none =>
      refine Or.inr ?_
      rcases effect.get?_of_none hk hr with ⟨_, _, _, hop, -⟩ | ⟨_, _, _, _, _, -, hop, -⟩ <;>
        simp [introduced?, hop]
  resets {k r} hr := by
    refine List.mem_append.2 ?_
    cases hk : m.resets.get? k with
    | some r₀ => exact Or.inl (h.resets hk)
    | none =>
      obtain ⟨_, _, hop, -⟩ := (m.resetEffect_perform s).get?_of_none hk hr
      exact Or.inr (by simp [introduced?, hop])

theorem known_empty : Known {} [] where
  refresh h := by cases h
  resets h := by cases h

theorem Known.mono {digests more : List String} (h : m.Known digests) :
    m.Known (digests ++ more) :=
  ⟨fun hr => List.mem_append_left more (h.refresh hr),
    fun hr => List.mem_append_left more (h.resets hr)⟩

/-- The digest that a step introduces, if it introduces one, is not taken. -/
structure Fresh (m : Memory) (s : Step) : Prop where
  refresh : ∀ {k}, introduced? s = some k → m.refresh.contains k = false
  resets : ∀ {k}, introduced? s = some k → m.resets.contains k = false

/-- A step whose new digest is not on the list introduces one that the store does not hold. -/
theorem Known.fresh {digests : List String} (h : m.Known digests) {s : Step}
    (hs : ∀ k, introduced? s = some k → k ∉ digests) : m.Fresh s where
  refresh {k} hk := by
    cases hr : m.refresh.get? k with
    | none => exact Table.contains_eq_false_iff.2 hr
    | some r => exact absurd (h.refresh hr) (hs k hk)
  resets {k} hk := by
    cases hr : m.resets.get? k with
    | none => exact Table.contains_eq_false_iff.2 hr
    | some r => exact absurd (h.resets hr) (hs k hk)

/-! ## Steps that concern the user -/

/-- An address that no other user is found under is looked for in the account of the user. -/
theorem findByEmail_of_concerns (keyed : m.Keyed) {email : String}
    (h : (m.findByEmail email).all (·.user.id = user) = true) :
    m.findByEmail email = (m.accounts.get? user).filter fun account =>
      Text.lowerCase account.user.email = Text.lowerCase (Text.trim email) := by
  cases hfound : m.findByEmail email with
  | some account =>
    have hid : account.user.id = user := by simpa [hfound] using h
    have haccount : m.accounts.get? user = some account :=
      hid ▸ get?_of_findByEmail keyed hfound
    obtain ⟨_, -, hemail⟩ := exists_of_findByEmail hfound
    rw [haccount, Option.filter_some, if_pos (decide_eq_true hemail)]
  | none =>
    cases haccount : m.accounts.get? user with
    | none => rfl
    | some account =>
      have hno := List.find?_eq_none.1 hfound account (Table.mem_values_of_get? haccount)
      rw [Option.filter_some, if_neg hno]

/-- A record of the user in one store has its counterpart in the other. -/
theorem SameFor.exists_records (h : SameFor user m m')
    (hk : (m.refresh.get? k).any (·.user = user) = true) :
    ∃ (row : RefreshRecord Unit) (id id' : Nat), row.user = user ∧
      m.refresh.get? k = some (row.withId id) ∧ m'.refresh.get? k = some (row.withId id') := by
  obtain ⟨row, hrow⟩ : ∃ row, refreshOf user m.refresh k = some row := by
    rw [← Option.isSome_iff_exists, refreshOf, Table.isSome_view]
    exact hk
  obtain ⟨huser, id, hid⟩ := exists_of_refreshOf hrow
  obtain ⟨-, id', hid'⟩ := exists_of_refreshOf ((h.refresh k).trans hrow)
  exact ⟨row, id, id', huser, hid, hid'⟩

theorem SameFor.exists_resets (h : SameFor user m m')
    (hk : (m.resets.get? k).any (·.user = user) = true) :
    ∃ (row : ResetRecord) (id id' : Nat), row.user = user ∧
      m.resets.get? k = some { row with id } ∧ m'.resets.get? k = some { row with id := id' } := by
  obtain ⟨row, hrow⟩ : ∃ row, resetOf user m.resets k = some row := by
    rw [← Option.isSome_iff_exists, resetOf, Table.isSome_view]
    exact hk
  obtain ⟨huser, id, hid⟩ := exists_of_resetOf hrow
  obtain ⟨-, id', hid'⟩ := exists_of_resetOf ((h.resets k).trans hrow)
  exact ⟨row, id, id', huser, hid, hid'⟩

/-! ### What a change makes of two stores that hold the same of the user -/

/-- Two stores that are the same for the user stay so when one record is changed in both, if the
change looks at no id. -/
theorem SameFor.modifyRefresh (h : SameFor user m m') (g : RefreshRecord Nat → RefreshRecord Nat)
    (g' : RefreshRecord Unit → RefreshRecord Unit) (huser : ∀ r, (g r).user = r.user)
    (hid : ∀ r, (g r).withId () = g' (r.withId ())) (digest : String) :
    SameFor user { m with refresh := m.refresh.modify digest g }
      { m' with refresh := m'.refresh.modify digest g } where
  account := h.account
  resets := h.resets
  refresh := Table.view_modify_congr g g' (fun r => by rw [huser]) hid h.refresh digest

theorem SameFor.revokeAll (h : SameFor user m m') (owner : Uuid) :
    SameFor user (m.revokeAll owner) (m'.revokeAll owner) where
  account := h.account
  resets := h.resets
  refresh := Table.view_modifyAll_congr (RefreshRecord.closedFor · owner) (·.closedFor owner)
    (fun r => by rw [RefreshRecord.user_closedFor])
    (fun r => (r.closedFor_withId () owner).symm) h.refresh

theorem SameFor.contain (h : SameFor user m m') :
    (m'.contain user).1 = (m.contain user).1 ∧
      SameFor user (m.contain user).2 (m'.contain user).2 := by
  rw [contain_fst, contain_fst, reuseAnswer, reuseAnswer, h.account]
  exact ⟨rfl, h.revokeAll user⟩

/-- The same token is issued under a digest. -/
theorem SameFor.issue (h : SameFor user m m') (now : Instant) (digest : String) (owner : Uuid)
    (expiresAt : Instant) (client : ClientInfo) :
    SameFor user
      { m with
        refresh := m.refresh.insert digest (m.issue now digest owner expiresAt client)
        issued := m.issued + 1 }
      { m' with
        refresh := m'.refresh.insert digest (m'.issue now digest owner expiresAt client)
        issued := m'.issued + 1 } where
  account := h.account
  resets := h.resets
  refresh := Table.view_insert_congr (by rfl) (by rfl) h.refresh digest

theorem SameFor.modifyAccount (h : SameFor user m m') (owner : Uuid) (g : Account → Account) :
    SameFor user { m with accounts := m.accounts.modify owner g }
      { m' with accounts := m'.accounts.modify owner g } where
  account := by simp only [Table.get?_modify, h.account]
  refresh := h.refresh
  resets := h.resets

/-! ### One step of two stores that hold the same of the user -/

/-- On a token of the user, rotation answers both stores alike and leaves them the same for the
user. -/
theorem SameFor.rotate (h : SameFor user m m') {now : Instant} {old new : String}
    {expiresAt : Instant} {client : ClientInfo}
    (hc : (m.refresh.get? old).any (·.user = user) = true)
    (fresh : m.refresh.contains new = false) (fresh' : m'.refresh.contains new = false) :
    (m'.rotate now old new expiresAt client).1 = (m.rotate now old new expiresAt client).1 ∧
      SameFor user (m.rotate now old new expiresAt client).2
        (m'.rotate now old new expiresAt client).2 := by
  obtain ⟨row, id, id', rfl, hr, hr'⟩ := h.exists_records hc
  cases hrev : row.revoked with
  | true =>
    rw [rotate_of_revoked hr hrev, rotate_of_revoked hr' hrev]
    exact h.contain
  | false =>
    cases hexp : expired row.expiresAt now with
    | true =>
      rw [rotate_of_expired hr hrev hexp, rotate_of_expired hr' hrev hexp]
      exact ⟨rfl, h⟩
    | false =>
      cases hacc : m.accounts.get? row.user with
      | none =>
        have hacc' : m'.accounts.get? row.user = none := h.account.trans hacc
        rw [rotate_of_unowned hr hrev hexp hacc, rotate_of_unowned hr' hrev hexp hacc']
        exact ⟨rfl, h⟩
      | some account =>
        have hacc' : m'.accounts.get? row.user = some account := h.account.trans hacc
        rw [rotate_of_good ⟨hr, hrev, hexp, hacc⟩ fresh,
          rotate_of_good ⟨hr', hrev, hexp, hacc'⟩ fresh']
        refine ⟨rfl, ?_⟩
        exact (h.issue now new row.user expiresAt client).modifyRefresh (·.replacedWith now new)
          (·.replacedWith now new) (fun r => rfl) (fun r => rfl) old

/-- A reset of the user is answered alike by both stores and leaves them the same for the user. -/
theorem SameFor.consumeReset (h : SameFor user m m') {now : Instant} {digest : String}
    (hc : (m.resets.get? digest).any (·.user = user) = true) :
    (m'.consumeReset now digest).1 = (m.consumeReset now digest).1 ∧
      SameFor user (m.consumeReset now digest).2 (m'.consumeReset now digest).2 := by
  obtain ⟨row, id, id', -, hr, hr'⟩ := h.exists_resets hc
  simp only [Memory.consumeReset, hr, hr']
  split
  · exact ⟨rfl, h⟩
  · refine ⟨rfl, h.account, h.refresh, ?_⟩
    exact Table.view_modify_congr (fun r => { r with used := true })
      (fun r => { r with used := true }) (fun r => rfl) (fun r => rfl) h.resets digest

/-- **A step that concerns the user reads nothing else**: two stores that hold the same of the user
answer it alike, and hold the same of the user afterwards. -/
theorem SameFor.perform (h : SameFor user m m') (keyed : m.Keyed) (keyed' : m'.Keyed) {s : Step}
    (hc : concerns user (m, s) = true) (hc' : concerns user (m', s) = true) (fresh : m.Fresh s)
    (fresh' : m'.Fresh s) :
    m'.reply s.now s.operation = m.reply s.now s.operation ∧
      SameFor user (m.perform s) (m'.perform s) := by
  obtain ⟨now, op⟩ := s
  cases op with
  | register u hash =>
    obtain rfl : u.id = user := of_decide_eq_true hc
    refine ⟨rfl, ?_, h.refresh, h.resets⟩
    simp [Memory.perform, insertUser]
  | setRole u role =>
    obtain rfl : u = user := of_decide_eq_true hc
    have hcontains : m'.accounts.contains u = m.accounts.contains u := congrArg _ h.account
    simp only [reply, Memory.perform, setRole, hcontains]
    split
    · exact ⟨rfl, h.modifyAccount _ _⟩
    · exact ⟨rfl, h⟩
  | setExpiry digest expiresAt =>
    obtain ⟨row, id, id', -, hr, hr'⟩ := h.exists_records hc
    simp only [reply, Memory.perform, setExpiry, Table.contains, hr, hr', Option.isSome_some,
      if_true]
    exact ⟨rfl, h.modifyRefresh (fun r => { r with expiresAt }) (fun r => { r with expiresAt })
      (fun r => rfl) (fun r => rfl) digest⟩
  | call c =>
    cases c with
    | insertRefresh digest u expiresAt client =>
      simp only [reply, Memory.perform, answer, insertRefresh_of_fresh (fresh.refresh rfl),
        insertRefresh_of_fresh (fresh'.refresh rfl)]
      exact ⟨rfl, h.issue now digest u expiresAt client⟩
    | rotate old new expiresAt client =>
      exact h.rotate hc (fresh.refresh rfl) (fresh'.refresh rfl)
    | revoke digest replacedBy =>
      obtain ⟨row, id, id', -, hr, hr'⟩ := h.exists_records hc
      simp only [reply, Memory.perform, answer, revoke, Table.contains, hr, hr', Option.isSome_some,
        if_true]
      exact ⟨rfl, h.modifyRefresh (·.revokedWith replacedBy) (·.revokedWith replacedBy)
        (fun r => rfl) (fun r => rfl) digest⟩
    | revokeAll u => exact ⟨rfl, h.revokeAll u⟩
    | insertReset digest u expiresAt =>
      simp only [reply, Memory.perform, answer, insertReset_of_fresh (fresh.resets rfl),
        insertReset_of_fresh (fresh'.resets rfl)]
      exact ⟨rfl, h.account, h.refresh, Table.view_insert_congr (by rfl) (by rfl) h.resets digest⟩
    | consumeReset digest => exact h.consumeReset hc
    | findByEmail email =>
      refine ⟨congrArg Except.ok ?_, h⟩
      rw [findByEmail_of_concerns keyed hc, findByEmail_of_concerns keyed' hc', h.account]
    | findById u =>
      obtain rfl : u = user := of_decide_eq_true hc
      refine ⟨?_, h⟩
      show Except.ok (m'.findById u) = Except.ok (m.findById u)
      rw [findById, findById, h.account]
    | setPassword u hash =>
      obtain rfl : u = user := of_decide_eq_true hc
      have hcontains : m'.accounts.contains u = m.accounts.contains u := congrArg _ h.account
      simp only [reply, Memory.perform, answer, setPassword, hcontains]
      split
      · exact ⟨rfl, h.modifyAccount _ _⟩
      · exact ⟨rfl, h⟩

/-! ## Runs -/

/-- Nobody but the user is registered. -/
def OnlyHas (m : Memory) (user : Uuid) : Prop :=
  ∀ k, m.accounts.contains k = true → k = user

/-- A store that holds one user's records alone still does after a step that concerns the user. -/
theorem onlyHas_perform (h : m.OnlyHas user) {s : Step} (hc : concerns user (m, s) = true) :
    (m.perform s).OnlyHas user := by
  intro k hk
  rcases contains_perform hk with hk | ⟨u, hash, hop, rfl⟩
  · exact h k hk
  · obtain ⟨now, op⟩ := s
    obtain rfl : op = .register u hash := hop
    exact of_decide_eq_true hc

/-- A step that concerns the user in one store does so in another that holds the same of the user,
if nobody else is registered there. -/
theorem SameFor.concerns (h : SameFor user m m') (keyed' : m'.Keyed) (only : m'.OnlyHas user)
    {s : Step} (hc : Memory.concerns user (m, s) = true) :
    Memory.concerns user (m', s) = true := by
  obtain ⟨now, op⟩ := s
  cases op with
  | register u hash => exact hc
  | setRole u role => exact hc
  | setExpiry digest expiresAt => exact (Table.any_get?_congr h.refresh digest).trans hc
  | call c =>
    cases c with
    | insertRefresh digest u expiresAt client => exact hc
    | rotate old new expiresAt client => exact (Table.any_get?_congr h.refresh old).trans hc
    | revoke digest replacedBy => exact (Table.any_get?_congr h.refresh digest).trans hc
    | revokeAll u => exact hc
    | insertReset digest u expiresAt => exact hc
    | consumeReset digest => exact (Table.any_get?_congr h.resets digest).trans hc
    | findByEmail email =>
      -- whoever is found is registered, so it is the user
      show (m'.findByEmail email).all (·.user.id = user) = true
      cases hfound : m'.findByEmail email with
      | none => rfl
      | some account =>
        have haccount := get?_of_findByEmail keyed' hfound
        exact decide_eq_true (only _ (by simp [Table.contains, haccount]))
    | findById u => exact hc
    | setPassword u hash => exact hc

/-- What stays true of a run and of the part of it that concerns the user: the second store holds
the same of the user as the first, and of the others nobody is registered there. -/
structure Mirrors (user : Uuid) (digests : List String) (m m' : Memory) : Prop where
  same : SameFor user m m'
  keyed : m.Keyed
  keyed' : m'.Keyed
  only : m'.OnlyHas user
  known : m.Known digests
  known' : m'.Known digests

/-- A step that does not concern the user is taken by the first store alone. -/
theorem Mirrors.pass {digests : List String} (h : Mirrors user digests m m') {s : Step}
    (hc : concerns user (m, s) = false) :
    Mirrors user (digests ++ (introduced? s).toList) (m.perform s) m' where
  same := (sameFor_perform_of_other hc).symm.trans h.same
  keyed := keyed_perform h.keyed s
  keyed' := h.keyed'
  only := h.only
  known := known_perform h.known s
  known' := h.known'.mono

/-- A step that concerns the user is taken by both, with the same answer. -/
theorem Mirrors.follow {digests : List String} (h : Mirrors user digests m m') {s : Step}
    (hc : concerns user (m, s) = true) (fresh : ∀ k, introduced? s = some k → k ∉ digests) :
    answered (m', s) = answered (m, s) ∧
      Mirrors user (digests ++ (introduced? s).toList) (m.perform s) (m'.perform s) := by
  have hc' : concerns user (m', s) = true := h.same.concerns h.keyed' h.only hc
  obtain ⟨hreply, hsame⟩ :=
    h.same.perform h.keyed h.keyed' hc hc' (h.known.fresh fresh) (h.known'.fresh fresh)
  refine ⟨by rw [answered, answered, hreply], ?_⟩
  exact {
    same := hsame
    keyed := keyed_perform h.keyed s
    keyed' := keyed_perform h.keyed' s
    only := onlyHas_perform h.only hc'
    known := known_perform h.known s
    known' := known_perform h.known' s }

/-- **The run without the steps of the others**, from two stores of which the second mirrors the
first. -/
theorem Mirrors.run {digests : List String} {steps : List Step} (h : Mirrors user digests m m')
    (once : (digests ++ steps.filterMap introduced?).Nodup) :
    (m'.history (((m.history steps).filter (concerns user)).map Prod.snd)).map answered =
        ((m.history steps).filter (concerns user)).map answered ∧
      SameFor user (m.run steps)
        (m'.run (((m.history steps).filter (concerns user)).map Prod.snd)) := by
  induction steps generalizing m m' digests with
  | nil => exact ⟨rfl, h.same⟩
  | cons s steps ih =>
    have hintroduced : (s :: steps).filterMap introduced? =
        (introduced? s).toList ++ steps.filterMap introduced? := by
      rw [List.filterMap_cons]
      cases introduced? s <;> rfl
    rw [hintroduced] at once
    have once' := once
    rw [← List.append_assoc] at once'
    cases hc : concerns user (m, s) with
    | false =>
      rw [history, List.filter_cons_of_neg (by simp [hc])]
      exact ih (h.pass hc) once'
    | true =>
      have fresh : ∀ k, introduced? s = some k → k ∉ digests := by
        intro k hk hmem
        have hdisjoint := (List.nodup_append.1 once).2.2 k hmem k
        exact hdisjoint (by simp [hk]) rfl
      obtain ⟨hanswer, hmirrors⟩ := h.follow hc fresh
      obtain ⟨hrest, hsame⟩ := ih hmirrors once'
      rw [history, List.filter_cons_of_pos hc]
      exact ⟨congrArg₂ List.cons hanswer hrest, hsame⟩

theorem mirrors_empty (user : Uuid) : Mirrors user [] {} {} where
  same := .refl user {}
  keyed := keyed_empty
  keyed' := keyed_empty
  only k hk := by cases hk
  known := known_empty
  known' := known_empty

/-- **Users are isolated from each other.**  If no two calls of a run introduce the same digest, and
all the steps that do not concern a user are taken out of it, then every step that is left is
answered as it was, and the store holds the same of the user in the end: the same account, and the
same refresh records and reset records under the same digests. -/
theorem users_are_isolated {steps : List Step} (once : (steps.filterMap introduced?).Nodup)
    (user : Uuid) :
    let kept := (history {} steps).filter (concerns user)
    (history {} (kept.map Prod.snd)).map answered = kept.map answered ∧
      SameFor user (run {} steps) (run {} (kept.map Prod.snd)) :=
  (mirrors_empty user).run once

/-- Two users with a session each.  A token of the second is used twice, which closes the sessions
of the second, and tokens that nobody has are presented. -/
def twoUsers : List Step :=
  let client : ClientInfo := ⟨none, none⟩
  let ada : Uuid := .ofNat 1
  let bob : Uuid := .ofNat 2
  [⟨0, .register ⟨ada, "ada@example.org", none, "learner"⟩ ""⟩,
    ⟨0, .register ⟨bob, "bob@example.org", none, "learner"⟩ ""⟩,
    ⟨1, .call (.insertRefresh "bob 1" bob 10 client)⟩,
    ⟨1, .call (.insertRefresh "ada 1" ada 10 client)⟩,
    ⟨2, .call (.rotate "bob 1" "bob 2" 20 client)⟩,
    ⟨3, .call (.rotate "unknown" "bob 3" 20 client)⟩,
    ⟨4, .call (.rotate "bob 1" "bob 4" 20 client)⟩,
    ⟨5, .call (.findByEmail "bob@example.org")⟩,
    ⟨6, .call (.rotate "ada 1" "ada 2" 20 client)⟩,
    ⟨7, .call (.revokeAll bob)⟩]

/-- The first user registers, gets a token and replaces it as if the second were not there.  Only
the identifiers of the records show that somebody was. -/
theorem users_are_isolated_reuse :
    let own := ((history {} twoUsers).filter (concerns (.ofNat 1))).map Prod.snd
    (twoUsers.filterMap introduced?).Nodup ∧ own.length = 3 ∧
      SameFor (.ofNat 1) (run {} twoUsers) (run {} own) ∧
      ((run {} twoUsers).recordsOf (.ofNat 1)).map (·.id) = [1, 3] ∧
      ((run {} own).recordsOf (.ofNat 1)).map (·.id) = [0, 1] := by
  intro own
  have once : (twoUsers.filterMap introduced?).Nodup := by decide
  exact ⟨once, by decide, (users_are_isolated once (.ofNat 1)).2, by decide, by decide⟩

end Gatehouse.Memory
