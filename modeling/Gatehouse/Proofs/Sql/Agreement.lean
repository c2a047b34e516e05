/-
  The store in memory and the store in a database do the same.

  The two keep their records differently and look things up in different orders: the one asks for
  the role before it writes and the other after, the one tests whether a record is there and the
  other counts the rows that it changed, and the one has nothing to undo where the other gives a
  transaction up.  Run one call at a time they cannot be told apart.

  The database is the one of `Sql/Tables`.  `Corresponds m t` says that the store in memory `m` and
  the tables `t` hold the same: the same accounts, and under every digest the same record, but for
  the identifier that was made for it.  A call keeps this and gives the same result in both
  (`agree_answer`), and so does a run of calls (`stores_agree`).

  A digest that is taken is refused by both, each in its own words.  That the owner of a token is a
  user is a constraint of the tables, so it holds in memory wherever the two correspond.
-/
import Gatehouse.Proofs.Sql.Execution
import Gatehouse.Proofs.Store.Account
import Gatehouse.Proofs.Store.Failure
import Gatehouse.Proofs.Store.Reset
import Gatehouse.Store.Memory

namespace Gatehouse

/-- The store after calls at given times, one by one. -/
def Backend.after {σ : Type} (backend : Backend σ) (s : σ) (calls : List (Instant × Call)) : σ :=
  calls.foldl (fun s c => (backend c.2 c.1 s).2.1) s

namespace Sql

/-- The record that a row shows, under another identifier. -/
def ResetRow.toRecord (r : ResetRow) (id : Nat) : ResetRecord :=
  { id, user := r.user, digest := r.digest, createdAt := r.createdAt, expiresAt := r.expiresAt
    used := r.used }

/-! ## When the two hold the same -/

/-- The store in memory and the tables hold the same, but for the identifiers of the records. -/
structure Corresponds (m : Memory) (t : Tables) : Prop where
  accounts : ∀ user, m.accounts.get? user = (t.users.find? user).map (·.account)
  refresh : ∀ digest, Option.Rel (fun r row => ∃ id, r = row.withId id) (m.refresh.get? digest)
    (t.refresh.find? digest)
  resets : ∀ digest, Option.Rel (fun r row => ∃ id, r = row.toRecord id) (m.resets.get? digest)
    (t.resets.find? digest)

/-- The same result, but that a digest which is taken may be refused in other words. -/
inductive SameResult (taken : Prop) {α : Type} :
    Except AuthError α → Except AuthError α → Prop where
  | same (r : Except AuthError α) : SameResult taken r r
  | refused (h : taken) (e e' : AuthError) : SameResult taken (.error e) (.error e')

/-- A store in memory and a database agree on a call: the same result, and they hold the same after
it. -/
structure Agree (taken : Prop) {α : Type} (memory : Memory.Outcome α) (result : Except AuthError α)
    (tables : Tables) : Prop where
  result : SameResult taken memory.1 result
  state : Corresponds memory.2 tables

variable {m : Memory}

section Tables

variable {t : Tables}

/-- There is a record under a digest in both or in neither. -/
theorem Corresponds.refresh_cases (h : Corresponds m t) (digest : String) :
    (m.refresh.get? digest = none ∧ t.refresh.find? digest = none) ∨
      ∃ row id, m.refresh.get? digest = some (row.withId id) ∧
        t.refresh.find? digest = some row := by
  have hrel := h.refresh digest
  generalize m.refresh.get? digest = x, t.refresh.find? digest = y at hrel
  cases hrel with
  | none => exact Or.inl ⟨rfl, rfl⟩
  | some hsame =>
    obtain ⟨id, rfl⟩ := hsame
    exact Or.inr ⟨_, id, rfl, rfl⟩

/-- Under one digest both stores hold no reset record, or the same one up to its id. -/
theorem Corresponds.resets_cases (h : Corresponds m t) (digest : String) :
    (m.resets.get? digest = none ∧ t.resets.find? digest = none) ∨
      ∃ row id, m.resets.get? digest = some (row.toRecord id) ∧
        t.resets.find? digest = some row := by
  have hrel := h.resets digest
  generalize m.resets.get? digest = x, t.resets.find? digest = y at hrel
  cases hrel with
  | none => exact Or.inl ⟨rfl, rfl⟩
  | some hsame =>
    obtain ⟨id, rfl⟩ := hsame
    exact Or.inr ⟨_, id, rfl, rfl⟩

/-- A user who is registered in memory has a row. -/
theorem Corresponds.exists_row (h : Corresponds m t) {user : Uuid}
    (registered : m.accounts.contains user = true) :
    ∃ u, t.users.find? user = some u ∧ m.accounts.get? user = some u.account := by
  obtain ⟨account, hget⟩ := Option.isSome_iff_exists.1 registered
  rw [h.accounts user] at hget
  obtain ⟨u, hu, rfl⟩ := Option.map_eq_some_iff.1 hget
  exact ⟨u, hu, by rw [h.accounts user, hu]; rfl⟩

/-- The owner of a refresh token is registered. -/
theorem Corresponds.exists_owner (h : Corresponds m t) {digest : String} {row : RefreshRecord Uuid}
    (hrow : t.refresh.find? digest = some row) :
    ∃ u, t.users.find? row.user = some u ∧ m.accounts.get? row.user = some u.account := by
  obtain ⟨u, hmem, howner⟩ := t.refreshOwner row (Rows.mem_of_find? hrow)
  have hfind : t.users.find? row.user = some u := by
    cases hu : t.users.find? row.user with
    | none => exact absurd (List.mem_map_of_mem hmem) (howner ▸ Rows.find?_eq_none_iff.1 hu)
    | some v =>
      have hid := Rows.key_of_find? hu
      rw [Rows.eq_of_key (Rows.mem_of_find? hu) hmem (hid.trans howner.symm)]
  exact ⟨u, hfind, by rw [h.accounts, hfind]; rfl⟩

/-- Records and rows that change alike go on corresponding. -/
theorem rel_map {α β : Type} {R : α → β → Prop} {f : α → α} {g : β → β}
    (hfg : ∀ a b, R a b → R (f a) (g b)) {x : Option α} {y : Option β} (h : Option.Rel R x y) :
    Option.Rel R (x.map f) (y.map g) := by
  cases h with
  | none => exact .none
  | some hab => exact .some (hfg _ _ hab)

/-- A choice between related options on both sides, made by one condition, keeps them related. -/
theorem rel_ite {α β : Type} {R : α → β → Prop} {p : Prop} [Decidable p] {x x' : Option α}
    {y y' : Option β} (h : Option.Rel R x y) (h' : Option.Rel R x' y') :
    Option.Rel R (if p then x else x') (if p then y else y') := by
  split
  · exact h
  · exact h'

end Tables

/-! ## Call by call -/

open Server Conversation

variable {d : Server} {setting : Setting} {now : Instant}

/-- The records of one table in memory and in the database change; the rest stays. -/
theorem Corresponds.withRefresh {t t' : Tables} (h : Corresponds m t) (husers : t'.users = t.users)
    (hresets : t'.resets = t.resets) {refresh : Table String (RefreshRecord Nat)} {issued : Nat}
    (hrefresh : ∀ digest, Option.Rel (fun r row => ∃ id, r = row.withId id) (refresh.get? digest)
      (t'.refresh.find? digest)) :
    Corresponds { m with refresh, issued } t' where
  accounts user := husers ▸ h.accounts user
  refresh := hrefresh
  resets digest := hresets ▸ h.resets digest

/-- A correspondence outlives a change of the reset tables that keeps their rows related. -/
theorem Corresponds.withResets {t t' : Tables} (h : Corresponds m t) (husers : t'.users = t.users)
    (hrefresh : t'.refresh = t.refresh) {resets : Table String ResetRecord} {issued : Nat}
    (hresets : ∀ digest, Option.Rel (fun r row => ∃ id, r = row.toRecord id) (resets.get? digest)
      (t'.resets.find? digest)) :
    Corresponds { m with resets, issued } t' where
  accounts user := husers ▸ h.accounts user
  refresh digest := hrefresh ▸ h.refresh digest
  resets := hresets

/-- The sessions of a user are closed in both. -/
theorem Corresponds.revokeAll (h : Corresponds m d.tables) (setting : Setting) (now : Instant)
    (user : Uuid) :
    Corresponds (m.revokeAll user) (execute setting now (.revokeUser user) d).2.tables where
  accounts := h.accounts
  refresh digest := by
    rw [find?_revokeUser]
    show Option.Rel _ ((m.refresh.modifyAll (·.closedFor user)).get? digest) _
    rw [Table.get?_modifyAll]
    refine rel_map ?_ (h.refresh digest)
    rintro _ row ⟨id, rfl⟩
    exact ⟨id, row.closedFor_withId id user⟩
  resets := h.resets

theorem contains_of_get? {κ ν : Type} [DecidableEq κ] {t : Table κ ν} {k : κ} {v : ν}
    (h : t.get? k = some v) : t.contains k = true := by
  rw [Table.contains, h]
  rfl

theorem agree_insertRefresh (h : Corresponds m d.tables) (digest : String) {user : Uuid}
    (registered : m.accounts.contains user = true) (expiresAt : Instant) (client : ClientInfo) :
    Agree (m.refresh.contains digest = true) (m.insertRefresh now digest user expiresAt client)
      ((exec (database setting now)
        (conversation (.insertRefresh digest user expiresAt client)) d).1.map Prod.fst)
      (exec (database setting now)
        (conversation (.insertRefresh digest user expiresAt client)) d).2.tables := by
  rw [exec_insertRefresh]
  obtain ⟨u, owner, -⟩ := h.exists_row registered
  rcases h.refresh_cases digest with ⟨hm, hd⟩ | ⟨row, id, hm, hd⟩
  · obtain ⟨t, hstored, husers, hresets, hfind⟩ := Tables.exists_insertRefresh
      (r := newRefresh setting now d digest user expiresAt client) hd owner
    rw [hstored, Memory.insertRefresh_of_fresh (Table.contains_eq_false_iff.2 hm)]
    refine ⟨.same _, h.withRefresh husers hresets fun k => ?_⟩
    rw [Table.get?_insert, hfind]
    exact rel_ite (.some ⟨m.issued, rfl⟩) (h.refresh k)
  · rw [Tables.insertRefresh_of_taken hd, Memory.insertRefresh_of_contains (contains_of_get? hm)]
    exact ⟨.refused (contains_of_get? hm) _ _, h⟩

theorem agree_insertReset (h : Corresponds m d.tables) (digest : String) {user : Uuid}
    (registered : m.accounts.contains user = true) (expiresAt : Instant) :
    Agree (m.resets.contains digest = true) (m.insertReset now digest user expiresAt)
      ((exec (database setting now)
        (conversation (.insertReset digest user expiresAt)) d).1.map Prod.fst)
      (exec (database setting now)
        (conversation (.insertReset digest user expiresAt)) d).2.tables := by
  rw [exec_insertReset]
  obtain ⟨u, owner, -⟩ := h.exists_row registered
  rcases h.resets_cases digest with ⟨hm, hd⟩ | ⟨row, id, hm, hd⟩
  · obtain ⟨t, hstored, husers, hrefresh, hfind⟩ := Tables.exists_insertReset
      (r := newReset setting now d digest user expiresAt) hd owner
    rw [hstored, Memory.insertReset_of_fresh (Table.contains_eq_false_iff.2 hm)]
    refine ⟨.same _, h.withResets husers hrefresh fun k => ?_⟩
    rw [Table.get?_insert, hfind]
    exact rel_ite (.some ⟨m.issued, rfl⟩) (h.resets k)
  · rw [Tables.insertReset_of_taken hd, Memory.insertReset_of_contains (contains_of_get? hm)]
    exact ⟨.refused (contains_of_get? hm) _ _, h⟩

/-- A change that is made to the value under a key changes nothing if there is none. -/
theorem ite_map_of_eq_none {α : Type} {p : Prop} [Decidable p] {x : Option α} {f : α → α}
    (h : p → x = none) : (if p then x.map f else x) = x := by
  split
  · next hp => rw [h hp, Option.map_none]
  · rfl

theorem agree_revoke (h : Corresponds m d.tables) (digest : String) (replacedBy : Option String) :
    Agree False (m.revoke digest replacedBy)
      ((exec (database setting now) (conversation (.revoke digest replacedBy)) d).1.map Prod.fst)
      (exec (database setting now) (conversation (.revoke digest replacedBy)) d).2.tables := by
  rw [exec_revoke]
  rcases h.refresh_cases digest with ⟨hm, hd⟩ | ⟨row, id, hm, hd⟩
  · rw [if_pos hd, Memory.revoke, if_neg (by simp [Table.contains, hm])]
    refine ⟨.same _, h.accounts, fun k => ?_, h.resets⟩
    rw [find?_revokeOne, ite_map_of_eq_none fun hk => hk ▸ hd]
    exact h.refresh k
  · rw [if_neg (by simp [hd]), Memory.revoke, if_pos (contains_of_get? hm)]
    refine ⟨.same _, h.accounts, fun k => ?_, h.resets⟩
    show Option.Rel _ ((m.refresh.modify digest (·.revokedWith replacedBy)).get? k) _
    rw [Table.get?_modify, find?_revokeOne]
    refine rel_ite (rel_map ?_ (h.refresh k)) (h.refresh k)
    rintro _ row ⟨id, rfl⟩
    exact ⟨id, rfl⟩

theorem agree_revokeAll (h : Corresponds m d.tables) (user : Uuid) :
    Agree False (m.answer now (.revokeAll user))
      ((exec (database setting now) (conversation (.revokeAll user)) d).1.map Prod.fst)
      (exec (database setting now) (conversation (.revokeAll user)) d).2.tables := by
  obtain ⟨n, hexec⟩ := exec_revokeAll setting now d user
  rw [hexec]
  exact ⟨.same _, h.revokeAll setting now user⟩

theorem agree_findById (h : Corresponds m d.tables) (user : Uuid) :
    Agree False (m.answer now (.findById user))
      ((exec (database setting now) (conversation (.findById user)) d).1.map Prod.fst)
      (exec (database setting now) (conversation (.findById user)) d).2.tables := by
  rw [exec_findById]
  refine ⟨?_, h⟩
  have hfound : m.findById user = (d.tables.users.find? user).map (·.account.user) := by
    rw [Memory.findById, h.accounts, Option.map_map]
    rfl
  show SameResult False (.ok (m.findById user)) (.ok _)
  rw [hfound]
  exact .same _

theorem agree_setPassword (h : Corresponds m d.tables) (user : Uuid) (hash : String) :
    Agree False (m.setPassword user hash)
      ((exec (database setting now) (conversation (.setPassword user hash)) d).1.map Prod.fst)
      (exec (database setting now) (conversation (.setPassword user hash)) d).2.tables := by
  rw [exec_setPassword]
  cases hd : d.tables.users.find? user with
  | none =>
    have hm : m.accounts.get? user = none := by rw [h.accounts, hd]; rfl
    rw [if_pos rfl, Memory.setPassword, if_neg (by simp [Table.contains, hm])]
    refine ⟨.same _, fun k => ?_, h.refresh, h.resets⟩
    rw [find?_setPassword, ite_map_of_eq_none fun hk => hk ▸ hd]
    exact h.accounts k
  | some u =>
    have hm : m.accounts.get? user = some u.account := by rw [h.accounts, hd]; rfl
    rw [if_neg (by simp), Memory.setPassword, if_pos (contains_of_get? hm)]
    refine ⟨.same _, fun k => ?_, h.refresh, h.resets⟩
    rw [Table.get?_modify, find?_setPassword, h.accounts]
    split
    · rw [Option.map_map, Option.map_map]
      rfl
    · rfl

theorem agree_consumeReset (h : Corresponds m d.tables) (digest : String) :
    Agree False (m.consumeReset now digest)
      ((exec (database setting now) (conversation (.consumeReset digest)) d).1.map Prod.fst)
      (exec (database setting now) (conversation (.consumeReset digest)) d).2.tables := by
  rw [exec_consumeReset]
  rcases h.resets_cases digest with ⟨hm, hd⟩ | ⟨row, id, hm, hd⟩
  · rw [hd, Memory.consumeReset, hm]
    exact ⟨.same _, h⟩
  rw [hd]
  by_cases hgood : row.used = false ∧ now < row.expiresAt
  · have good : m.Redeemable now digest (row.toRecord id) := ⟨hm, hgood.1, hgood.2⟩
    rw [Option.filter_some_pos (by simpa using hgood), Memory.consumeReset_of_redeemable good]
    refine ⟨.same _, h.accounts, h.refresh, fun k => ?_⟩
    show Option.Rel _ (Table.get? _ k)
      ((execute setting now (.markUsed digest) d.save).2.tables.resets.find? k)
    rw [Table.get?_modify, find?_markUsed]
    refine rel_ite (rel_map ?_ (h.resets k)) (h.resets k)
    rintro _ row ⟨id, rfl⟩
    exact ⟨id, rfl⟩
  · have bad : (row.used || expired row.expiresAt now) = true := by
      cases hused : row.used with
      | true => rfl
      | false => exact decide_eq_true (Int.not_lt.1 fun hlt => hgood ⟨hused, hlt⟩)
    have hrefused : m.consumeReset now digest = (.error .invalidOrExpiredToken, m) := by
      rw [Memory.consumeReset, hm]
      exact if_pos bad
    rw [Option.filter_some_neg (by simpa using hgood), hrefused]
    exact ⟨.same _, h⟩

theorem agree_rotate (h : Corresponds m d.tables) (old new : String) (expiresAt : Instant)
    (client : ClientInfo) :
    Agree (m.refresh.contains new = true) (m.rotate now old new expiresAt client)
      ((exec (database setting now)
        (conversation (.rotate old new expiresAt client)) d).1.map Prod.fst)
      (exec (database setting now)
        (conversation (.rotate old new expiresAt client)) d).2.tables := by
  rcases h.refresh_cases old with ⟨hm, hd⟩ | ⟨row, id, hm, hd⟩
  · rw [exec_rotate_of_refused setting now d old new expiresAt client (Or.inl hd), Memory.rotate,
      hm]
    exact ⟨.same _, h⟩
  obtain ⟨u, owner, registered⟩ := h.exists_owner hd
  cases hrevoked : row.revoked with
  | true =>
    obtain ⟨events, hexec⟩ :=
      exists_exec_rotate_of_revoked setting now d old new expiresAt client hd hrevoked owner
    have hmemory : m.rotate now old new expiresAt client =
        (.ok ⟨row.user, u.account.user.role, true⟩, m.revokeAll row.user) := by
      rw [Memory.rotate_of_revoked hm hrevoked]
      refine Prod.ext ?_ rfl
      rw [Memory.contain_fst, Memory.reuseAnswer, RefreshRecord.user_withId, registered]
    rw [hexec, hmemory]
    exact ⟨.same _, h.revokeAll setting now row.user⟩
  | false =>
    cases hexpired : expired row.expiresAt now with
    | true =>
      rw [exec_rotate_of_refused setting now d old new expiresAt client
        (Or.inr ⟨row, hd, hrevoked, hexpired⟩), Memory.rotate_of_expired hm hrevoked hexpired]
      exact ⟨.same _, h⟩
    | false =>
      have good : m.Good now old (row.withId id) u.account :=
        ⟨hm, hrevoked, hexpired, registered⟩
      rcases h.refresh_cases new with ⟨hm', hd'⟩ | ⟨row', id', hm', hd'⟩
      · obtain ⟨d', hexec, husers, hresets, hfind⟩ :=
          exists_exec_rotate_of_good setting now d old new expiresAt client hd hrevoked hexpired hd'
            owner
        rw [hexec, Memory.rotate_of_good good (Table.contains_eq_false_iff.2 hm')]
        refine ⟨.same _, h.withRefresh husers hresets fun k => ?_⟩
        rw [Table.get?_modify, Table.get?_insert, hfind]
        refine rel_ite (rel_map ?_ (rel_ite (.some ⟨m.issued, rfl⟩) (h.refresh k)))
          (rel_ite (.some ⟨m.issued, rfl⟩) (h.refresh k))
        rintro _ row ⟨id, rfl⟩
        exact ⟨id, rfl⟩
      · obtain ⟨e, d', hexec, htables⟩ :=
          exists_exec_rotate_of_taken setting now d old new expiresAt client hd hrevoked hexpired
            hd'
        have taken := contains_of_get? hm'
        rw [hexec, Memory.rotate_of_taken good taken]
        refine ⟨.refused taken _ _, ?_⟩
        exact htables ▸ h

/-! ## All calls, and runs of them -/

/-- The calls that the two stores answer alike, if the users who get tokens are registered. -/
def InContract (m : Memory) : Call → Prop
  | .insertRefresh _ user _ _ | .insertReset _ user _ => m.accounts.contains user = true
  | .findByEmail _ => False
  | _ => True

/-- The digest that the call would store is taken. -/
def Taken (m : Memory) : Call → Prop
  | .insertRefresh digest .. | .rotate _ digest .. => m.refresh.contains digest = true
  | .insertReset digest .. => m.resets.contains digest = true
  | _ => False

/-- **One call**: the two stores give the same result and go on corresponding. -/
theorem agree_answer (h : Corresponds m d.tables) {call : Call} (contract : InContract m call) :
    Agree (Taken m call) (m.answer now call)
      ((exec (database setting now) (conversation call) d).1.map Prod.fst)
      (exec (database setting now) (conversation call) d).2.tables := by
  cases call with
  | insertRefresh digest user expiresAt client =>
    exact agree_insertRefresh h digest contract expiresAt client
  | rotate old new expiresAt client => exact agree_rotate h old new expiresAt client
  | revoke digest replacedBy => exact agree_revoke h digest replacedBy
  | revokeAll user => exact agree_revokeAll h user
  | insertReset digest user expiresAt => exact agree_insertReset h digest contract expiresAt
  | consumeReset digest => exact agree_consumeReset h digest
  | findByEmail email => exact contract.elim
  | findById user => exact agree_findById h user
  | setPassword user hash => exact agree_setPassword h user hash

/-- The store in a database that does what the statements say. -/
def Server.backend (setting : Setting) : Backend (Store Server) := fun call now s =>
  Sql.backend (database setting now) call now s

/-- What the contract asks of a later call still holds after any call is answered. -/
theorem InContract.answer {call : Call} (h : InContract m call) (now : Instant) (c : Call) :
    InContract (m.answer now c).2 call := by
  cases call with
  | insertRefresh digest user expiresAt client => exact (m.contains_answer now c user).trans h
  | insertReset digest user expiresAt => exact (m.contains_answer now c user).trans h
  | findByEmail email => exact h
  | _ => exact trivial

/-- **The store in memory and the store in a database agree**, on every call of a run and on what
they hold after it. -/
theorem stores_agree (setting : Setting) {m : Memory} {s : Store Server}
    (h : Corresponds m s.state.tables) (calls : List (Instant × Call))
    (contract : ∀ c ∈ calls, InContract m c.2) :
    (∀ first now call rest, calls = first ++ (now, call) :: rest →
      SameResult (Taken (Memory.backend.after m first) call)
        (Memory.backend call now (Memory.backend.after m first)).1
        (Server.backend setting call now ((Server.backend setting).after s first)).1) ∧
    Corresponds (Memory.backend.after m calls)
      ((Server.backend setting).after s calls).state.tables := by
  induction calls generalizing m s with
  | nil => exact ⟨fun first now call rest hcalls => by simp at hcalls, h⟩
  | cons c calls ih =>
    obtain ⟨now, call⟩ := c
    have step : Agree (Taken m call) (m.answer now call)
        (Server.backend setting call now s).1
        (Server.backend setting call now s).2.1.state.tables := by
      unfold Server.backend
      rw [backend_fst, state_backend]
      exact agree_answer h (contract _ List.mem_cons_self)
    obtain ⟨hresults, hafter⟩ := ih step.state fun c hc =>
      (contract c (List.mem_cons_of_mem _ hc)).answer now call
    refine ⟨fun first t c rest hcalls => ?_, hafter⟩
    cases first with
    | nil =>
      obtain ⟨hc, -⟩ := List.cons.inj hcalls
      cases hc
      exact step.result
    | cons c' first =>
      obtain ⟨rfl, htail⟩ := List.cons.inj hcalls
      exact hresults first t c rest htail

/-- Where memory succeeds, the database gives the same value. -/
theorem SameResult.eq_ok {taken : Prop} {α : Type} {a : α} {r : Except AuthError α}
    (h : SameResult taken (.ok a) r) : r = .ok a := by
  cases h with
  | same r => rfl

/-- Somebody who is registered. -/
def learner : Account := ⟨⟨.ofNat 1, "a@example.org", none, "learner"⟩, "hash"⟩

/-- The store in memory with one user. -/
def oneUser : Memory := Memory.insertUser {} learner.user learner.passwordHash

/-- The tables with the same user. -/
def oneRow : Store Server where
  state := { tables := { users := ⟨[⟨learner, 0, 0⟩], by simp⟩, emails := by simp } }

theorem corresponds_oneUser : Corresponds oneUser oneRow.state.tables where
  accounts user := by
    show (Table.insert ∅ learner.user.id learner).get? user = _
    rw [Table.get?_insert]
    show _ = Option.map _ (List.find? _ [_])
    by_cases huser : user = learner.user.id
    · simp [huser]
    · simp [huser, Ne.symm huser]
  refresh _ := .none
  resets _ := .none

/-- A surrounding that folds ASCII letters and counts identifiers. -/
def plainSetting : Setting := ⟨String.toLower, .ofNat⟩

/-- A token is issued and replaced. -/
def replacement : List (Instant × Call) :=
  [(0, .insertRefresh "first" (.ofNat 1) 10 ⟨none, none⟩),
    (1, .rotate "first" "second" 20 ⟨none, none⟩)]

/-- Presenting the replaced token again is a reuse in the database as in memory. -/
theorem stores_agree_reuse :
    (Server.backend plainSetting (.rotate "first" "third" 30 ⟨none, none⟩) 2
      ((Server.backend plainSetting).after oneRow replacement)).1 =
        .ok ⟨.ofNat 1, "learner", true⟩ := by
  have contract : ∀ c ∈ replacement ++ [(2, .rotate "first" "third" 30 ⟨none, none⟩)],
      InContract oneUser c.2 := by
    intro c hc
    simp only [replacement, List.cons_append, List.nil_append, List.mem_cons, List.not_mem_nil,
      or_false] at hc
    rcases hc with rfl | rfl | rfl
    · rfl
    · exact trivial
    · exact trivial
  have hreuse := (stores_agree plainSetting corresponds_oneUser _ contract).1 replacement 2
    (.rotate "first" "third" 30 ⟨none, none⟩) [] rfl
  have hmemory : (Memory.backend (.rotate "first" "third" 30 ⟨none, none⟩) 2
      (Memory.backend.after oneUser replacement)).1 = .ok ⟨.ofNat 1, "learner", true⟩ := rfl
  rw [hmemory] at hreuse
  exact hreuse.eq_ok

end Sql

end Gatehouse
