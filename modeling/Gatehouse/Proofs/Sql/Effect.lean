/-
  What a statement does to one row.

  `Server` carries statements out on whole tables.  For calls that run side by side that is too
  much at once: a statement visits its rows one by one, and between two of them others may act.  So
  here a statement is taken apart.  A row stands at a `Place`, its table and its digest, and
  `Statement.effect` says what the statement leaves of the row that it finds there, if it picks it.

  `Server.versions_execute` puts the parts together again: carried out at all places at once, the
  effects of a statement are what the database with one connection does.
-/
import Gatehouse.Proofs.Sql.Execution

namespace Gatehouse.Sql

/-! ## Rows -/

/-- Where a row stands: in which table, and under which digest. -/
inductive Place where
  | refresh (digest : String)
  | reset (digest : String)
deriving DecidableEq

namespace Place

/-- The rows that may stand at a place. -/
abbrev Row : Place → Type
  | refresh _ => RefreshRecord Uuid
  | reset _ => ResetRow

/-- The token of the row was used up or revoked. -/
def spent : (p : Place) → p.Row → Bool
  | refresh _, r => r.revoked
  | reset _, r => r.used

/-- Whose token it is. -/
def owner : (p : Place) → p.Row → Uuid
  | refresh _, r => r.user
  | reset _, r => r.user

/-- A row may change from `r` to `r'`: it keeps its owner, and it is spent for good. -/
structure Later (p : Place) (r r' : p.Row) : Prop where
  owner : p.owner r' = p.owner r
  spent : p.spent r = true → p.spent r' = true

theorem Later.trans {p : Place} {r s t : p.Row} (h : p.Later r s) (k : p.Later s t) :
    p.Later r t where
  owner := k.owner.trans h.owner
  spent hr := k.spent (h.spent hr)

end Place

/-- The rows at all places. -/
abbrev Versions := (p : Place) → Option p.Row

/-- The rows of `own`, and those of `table` where `own` has none. -/
def Versions.over (own table : Versions) : Versions := fun p => (own p).or (table p)

theorem Versions.over_of_none {own table : Versions} {p : Place} (h : own p = none) :
    own.over table p = table p := by
  unfold Versions.over
  rw [h]
  rfl

theorem Versions.over_of_some {own table : Versions} {p : Place} {r : p.Row} (h : own p = some r) :
    own.over table p = some r := by
  unfold Versions.over
  rw [h]
  rfl

/-! ## What a statement does to one row -/

/-- What a statement takes from its surroundings: the time, and an identifier for a new row. -/
structure Stamp where
  now : Instant
  id : Uuid

namespace Statement

/-- The row that a statement leaves at a place, if it picks what it finds there. -/
def effect (stamp : Stamp) : Statement → (p : Place) → Option p.Row → Option p.Row
  | .insertRefresh user digest expiresAt client, .refresh d, none =>
    if d = digest then
      some { id := stamp.id, user, digest, createdAt := stamp.now, lastUsedAt := none, expiresAt
             revoked := false, replacedBy := none, ip := client.ip, userAgent := client.userAgent }
    else none
  | .lockRefresh digest, .refresh d, some r => if d = digest then some r else none
  | .revokeUser user, .refresh _, some r =>
    if r.user = user ∧ r.revoked = false then some { r with revoked := true } else none
  | .markReplaced old new, .refresh d, some r =>
    if d = old then some (r.replacedWith stamp.now new) else none
  | .revokeOne digest replacedBy, .refresh d, some r =>
    if d = digest then some (r.revokedWith replacedBy) else none
  | .insertReset user digest expiresAt, .reset d, none =>
    if d = digest then
      some { id := stamp.id, user, digest, createdAt := stamp.now, expiresAt, used := false }
    else none
  | .lockReset digest, .reset d, some r =>
    if d = digest ∧ r.used = false ∧ stamp.now < r.expiresAt then some r else none
  | .markUsed digest, .reset d, some r =>
    if d = digest then some { r with used := true } else none
  | _, _, _ => none

/-- The place at which a statement adds a row. -/
def inserts : Statement → Option Place
  | .insertRefresh _ digest _ _ => some (.refresh digest)
  | .insertReset _ digest _ => some (.reset digest)
  | _ => none

/-- The statement adds a row for a user at a place. -/
def Stores : Statement → Place → Uuid → Prop
  | .insertRefresh owner digest _ _, p, user => p = .refresh digest ∧ owner = user
  | .insertReset owner digest _, p, user => p = .reset digest ∧ owner = user
  | _, _, _ => False

/-- The statement changes nothing, it only keeps others from changing. -/
def Locks : Statement → Prop
  | .lockRefresh _ | .lockReset _ => True
  | _ => False

/-- The statement marks the token at a place as revoked or used, whatever its row is. -/
def Spends : Statement → Place → Prop
  | .markReplaced old _, p => p = .refresh old
  | .revokeOne digest _, p => p = .refresh digest
  | .markUsed digest, p => p = .reset digest
  | _, _ => False

variable {s : Statement} {stamp : Stamp} {p : Place} {r r' : p.Row}

/-- A row that was there is changed into a later version of itself. -/
theorem later_of_effect (h : s.effect stamp p (some r) = some r') : p.Later r r' := by
  cases p with
  | refresh d =>
    unfold effect at h
    cases s <;> simp only [Option.ite_none_right_eq_some, Option.some.injEq, reduceCtorEq] at h
    case lockRefresh => exact ⟨congrArg RefreshRecord.user h.2.symm, fun hr => h.2 ▸ hr⟩
    case revokeUser => exact ⟨h.2 ▸ rfl, fun _ => h.2 ▸ rfl⟩
    case markReplaced => exact ⟨h.2 ▸ rfl, fun _ => h.2 ▸ rfl⟩
    case revokeOne => exact ⟨h.2 ▸ rfl, fun _ => h.2 ▸ rfl⟩
  | reset d =>
    unfold effect at h
    cases s <;> simp only [Option.ite_none_right_eq_some, Option.some.injEq, reduceCtorEq] at h
    case lockReset => exact ⟨congrArg ResetRow.user h.2.symm, fun hr => h.2 ▸ hr⟩
    case markUsed => exact ⟨h.2 ▸ rfl, fun _ => h.2 ▸ rfl⟩

/-- A row that was not there is one that the statement adds. -/
theorem stores_of_effect (h : s.effect stamp p none = some r) : s.Stores p (p.owner r) := by
  cases p with
  | refresh d =>
    unfold effect at h
    cases s <;> simp only [Option.ite_none_right_eq_some, Option.some.injEq, reduceCtorEq] at h
    case insertRefresh => exact ⟨congrArg Place.refresh h.1, h.2 ▸ rfl⟩
  | reset d =>
    unfold effect at h
    cases s <;> simp only [Option.ite_none_right_eq_some, Option.some.injEq, reduceCtorEq] at h
    case insertReset => exact ⟨congrArg Place.reset h.1, h.2 ▸ rfl⟩

/-- A statement that only locks leaves the row that it finds. -/
theorem effect_of_locks {v : Option p.Row} (hs : s.Locks) (h : s.effect stamp p v = some r) :
    v = some r ∧ s.effect stamp p (some r) = some r := by
  cases v with
  | none => exact absurd (stores_of_effect h) (by cases s <;> simp_all [Locks, Stores])
  | some r₀ =>
    have hsame : r₀ = r := by
      unfold effect at h
      cases p <;> cases s <;> simp_all [Locks]
    subst hsame
    exact ⟨rfl, h⟩

/-- A statement that spends a token picks its row, and leaves it spent. -/
theorem exists_effect_of_spends (hs : s.Spends p) (stamp : Stamp) (r : p.Row) :
    ∃ r', s.effect stamp p (some r) = some r' ∧ p.spent r' = true := by
  cases s <;> simp only [Spends] at hs
  case markReplaced => subst hs; exact ⟨_, if_pos rfl, rfl⟩
  case revokeOne => subst hs; exact ⟨_, if_pos rfl, rfl⟩
  case markUsed => subst hs; exact ⟨_, if_pos rfl, rfl⟩

/-- Such a statement adds no row. -/
theorem inserts_of_spends (hs : s.Spends p) : s.inserts = none := by
  cases s <;> simp_all [Spends, inserts]

/-- Closing the sessions of a user revokes each of the user's tokens that is not revoked. -/
theorem effect_revokeUser {user : Uuid} {d : String} {r r' : RefreshRecord Uuid} :
    (revokeUser user).effect stamp (.refresh d) (some r) = some r' ↔
      (r.user = user ∧ r.revoked = false) ∧ { r with revoked := true } = r' := by
  unfold effect
  simp only [Option.ite_none_right_eq_some, Option.some.injEq]

end Statement

/-! ## The same in a database with one connection -/

/-- The rows of the tables, by their places. -/
def Tables.versions (t : Tables) : Versions
  | .refresh d => t.refresh.find? d
  | .reset d => t.resets.find? d

/-- A refresh record that could be added stands at a place that was empty. -/
theorem Tables.versions_of_insertRefresh {t t' : Tables} {r : RefreshRecord Uuid}
    (h : t.insertRefresh r = .ok t') :
    t.versions (.refresh r.digest) = none ∧ t'.resets = t.resets ∧
      ∀ d, t'.refresh.find? d = if d = r.digest then some r else t.refresh.find? d := by
  unfold Tables.insertRefresh at h
  split at h
  · next fresh =>
    split at h
    · next owner =>
      obtain rfl := Except.ok.inj h
      exact ⟨Rows.find?_eq_none_iff.2 fresh, rfl, t.refresh.find?_insert r fresh⟩
    · cases h
  · cases h

/-- The same for a reset record. -/
theorem Tables.versions_of_insertReset {t t' : Tables} {r : ResetRow}
    (h : t.insertReset r = .ok t') :
    t.versions (.reset r.digest) = none ∧ t'.refresh = t.refresh ∧
      ∀ d, t'.resets.find? d = if d = r.digest then some r else t.resets.find? d := by
  unfold Tables.insertReset at h
  split at h
  · next fresh =>
    split at h
    · next owner =>
      obtain rfl := Except.ok.inj h
      exact ⟨Rows.find?_eq_none_iff.2 fresh, rfl, t.resets.find?_insert r fresh⟩
    · cases h
  · cases h

/-- A new user changes no token. -/
theorem Tables.versions_of_insertUser {t t' : Tables} {u : UserRow} (h : t.insertUser u = .ok t') :
    t'.versions = t.versions := by
  unfold Tables.insertUser at h
  split at h
  · split at h
    · obtain rfl := Except.ok.inj h
      rfl
    · cases h
  · cases h

section Effects

variable (stamp : Stamp) (k : String)

theorem or_effect_revokeUser (user : Uuid) (v : Option (RefreshRecord Uuid)) :
    ((Statement.revokeUser user).effect stamp (.refresh k) v).or v = v.map (·.closedFor user) := by
  cases v with
  | none => rfl
  | some r =>
    obtain ⟨_, owner, _, _, _, _, revoked, _, _, _⟩ := r
    unfold Statement.effect
    by_cases howner : owner = user <;> cases revoked <;>
      simp [RefreshRecord.closedFor, howner]

theorem or_effect_markReplaced (old new : String) (v : Option (RefreshRecord Uuid)) :
    ((Statement.markReplaced old new).effect stamp (.refresh k) v).or v =
      if k = old then v.map (·.replacedWith stamp.now new) else v := by
  unfold Statement.effect
  cases v <;> by_cases hk : k = old <;> simp [hk]

theorem or_effect_revokeOne (digest : String) (replacedBy : Option String)
    (v : Option (RefreshRecord Uuid)) :
    ((Statement.revokeOne digest replacedBy).effect stamp (.refresh k) v).or v =
      if k = digest then v.map (·.revokedWith replacedBy) else v := by
  unfold Statement.effect
  cases v <;> by_cases hk : k = digest <;> simp [hk]

theorem or_effect_markUsed (digest : String) (v : Option ResetRow) :
    ((Statement.markUsed digest).effect stamp (.reset k) v).or v =
      if k = digest then v.map fun r => { r with used := true } else v := by
  unfold Statement.effect
  cases v <;> by_cases hk : k = digest <;> simp [hk]

/-- A new refresh record stands at its place, if that was empty. -/
theorem or_effect_insertRefresh (user : Uuid) (digest : String) (expiresAt : Instant)
    (client : ClientInfo) {v : Option (RefreshRecord Uuid)} (free : k = digest → v = none) :
    ((Statement.insertRefresh user digest expiresAt client).effect stamp (.refresh k) v).or v =
      if k = digest then
        some { id := stamp.id, user, digest, createdAt := stamp.now, lastUsedAt := none, expiresAt
               revoked := false, replacedBy := none, ip := client.ip
               userAgent := client.userAgent }
      else v := by
  unfold Statement.effect
  by_cases hk : k = digest
  · rw [free hk]
    simp [hk]
  · cases v <;> simp [hk]

/-- The same for a reset record. -/
theorem or_effect_insertReset (user : Uuid) (digest : String) (expiresAt : Instant)
    {v : Option ResetRow} (free : k = digest → v = none) :
    ((Statement.insertReset user digest expiresAt).effect stamp (.reset k) v).or v =
      if k = digest then
        some { id := stamp.id, user, digest, createdAt := stamp.now, expiresAt, used := false }
      else v := by
  unfold Statement.effect
  by_cases hk : k = digest
  · rw [free hk]
    simp [hk]
  · cases v <;> simp [hk]

/-- A statement that only locks leaves every row as it is. -/
theorem or_effect_of_locks {s : Statement} (hs : s.Locks) (p : Place) (v : Option p.Row) :
    (s.effect stamp p v).or v = v := by
  cases h : s.effect stamp p v with
  | none => rfl
  | some r => exact (Statement.effect_of_locks hs h).1.symm

end Effects

namespace Server

/-- What a statement leaves of the rows, if the database with one connection carries it out. -/
def versionsAfter (setting : Setting) (now : Instant) (s : Statement) (d : Server) : Versions :=
  Versions.over (fun p => s.effect ⟨now, setting.newId d.made⟩ p (d.tables.versions p))
    d.tables.versions

theorem tables_createUser (setting : Setting) (now : Instant) (d : Server) (email : String)
    (name : Option String) (hash role : String) :
    (execute setting now (.createUser email name hash role) d).2.tables =
      (d.inserted (d.tables.insertUser
        ⟨⟨⟨setting.newId d.made, email, name, role⟩, hash⟩, now, now⟩)).2.tables := by
  simp only [execute]
  generalize d.inserted _ = outcome
  obtain ⟨r, d'⟩ := outcome
  cases r <;> rfl

/-- A refresh record that goes in is all that changes of the rows. -/
theorem versions_insertRefresh {setting : Setting} {now : Instant} {d : Server} {user : Uuid}
    {digest : String} {expiresAt : Instant} {client : ClientInfo}
    {r : (Statement.insertRefresh user digest expiresAt client).Result}
    (h : (execute setting now (.insertRefresh user digest expiresAt client) d).1 = .ok r)
    (p : Place) :
    (execute setting now (.insertRefresh user digest expiresAt client) d).2.tables.versions p =
      versionsAfter setting now (.insertRefresh user digest expiresAt client) d p := by
  cases hr : d.tables.insertRefresh (newRefresh setting now d digest user expiresAt client) with
  | error e =>
    have hrefused := congrArg (fun r => (d.inserted r).1) hr
    cases hrefused.symm.trans h
  | ok t' =>
    obtain ⟨hnone, hresets, hfind⟩ := Tables.versions_of_insertRefresh hr
    have hafter := congrArg (fun r => (d.inserted r).2.tables) hr
    refine (congrArg (Tables.versions · p) hafter).trans ?_
    cases p with
    | refresh k =>
      have free : k = digest → d.tables.refresh.find? k = none := fun hk => hk ▸ hnone
      exact (hfind k).trans (or_effect_insertRefresh ⟨now, setting.newId d.made⟩ k user digest
        expiresAt client free).symm
    | reset k => exact congrArg (Rows.find? · k) hresets

/-- The same for a reset record. -/
theorem versions_insertReset {setting : Setting} {now : Instant} {d : Server} {user : Uuid}
    {digest : String} {expiresAt : Instant}
    {r : (Statement.insertReset user digest expiresAt).Result}
    (h : (execute setting now (.insertReset user digest expiresAt) d).1 = .ok r) (p : Place) :
    (execute setting now (.insertReset user digest expiresAt) d).2.tables.versions p =
      versionsAfter setting now (.insertReset user digest expiresAt) d p := by
  cases hr : d.tables.insertReset
      ⟨setting.newId d.made, user, digest, now, expiresAt, false⟩ with
  | error e =>
    have hrefused := congrArg (fun r => (d.inserted r).1) hr
    cases hrefused.symm.trans h
  | ok t' =>
    obtain ⟨hnone, hrefresh, hfind⟩ := Tables.versions_of_insertReset hr
    have hafter := congrArg (fun r => (d.inserted r).2.tables) hr
    refine (congrArg (Tables.versions · p) hafter).trans ?_
    cases p with
    | refresh k => exact congrArg (Rows.find? · k) hrefresh
    | reset k =>
      have free : k = digest → d.tables.resets.find? k = none := fun hk => hk ▸ hnone
      exact (hfind k).trans (or_effect_insertReset ⟨now, setting.newId d.made⟩ k user digest
        expiresAt free).symm

/-- A user who is created changes none of the rows, nor does one who is refused. -/
theorem versions_createUser (setting : Setting) (now : Instant) (d : Server) (email : String)
    (name : Option String) (hash role : String) (p : Place) :
    (execute setting now (.createUser email name hash role) d).2.tables.versions p =
      versionsAfter setting now (.createUser email name hash role) d p := by
  have hkept := tables_createUser setting now d email name hash role
  refine (congrFun (congrArg Tables.versions hkept) p).trans ?_
  cases hr : d.tables.insertUser
      ⟨⟨⟨setting.newId d.made, email, name, role⟩, hash⟩, now, now⟩ with
  | error e => cases p <;> rfl
  | ok t' =>
    have hsame := Tables.versions_of_insertUser hr
    refine (congrFun hsame p).trans ?_
    cases p <;> rfl

/-- **The effect of a statement on the rows is what the database with one connection does.** -/
theorem versions_execute {setting : Setting} {now : Instant} {s : Statement} {d : Server}
    {r : s.Result} (h : (execute setting now s d).1 = .ok r) (p : Place) :
    (execute setting now s d).2.tables.versions p = versionsAfter setting now s d p := by
  cases s with
  | findRefresh digest => cases p <;> rfl
  | lockRefresh digest =>
    exact (or_effect_of_locks _ (s := .lockRefresh digest) trivial p _).symm
  | lockReset digest => exact (or_effect_of_locks _ (s := .lockReset digest) trivial p _).symm
  | roleOf user => cases p <;> rfl
  | findByEmail email => cases p <;> rfl
  | findById user => cases p <;> rfl
  | setPassword user hash => cases p <;> rfl
  | revokeUser user =>
    cases p with
    | refresh k =>
      exact (find?_revokeUser setting now d user k).trans (or_effect_revokeUser _ k user _).symm
    | reset k => rfl
  | markReplaced old new =>
    cases p with
    | refresh k =>
      exact (find?_markReplaced setting now d old new k).trans
        (or_effect_markReplaced ⟨now, setting.newId d.made⟩ k old new _).symm
    | reset k => rfl
  | revokeOne digest replacedBy =>
    cases p with
    | refresh k =>
      exact (find?_revokeOne setting now d digest replacedBy k).trans
        (or_effect_revokeOne _ k digest replacedBy _).symm
    | reset k => rfl
  | markUsed digest =>
    cases p with
    | refresh k => rfl
    | reset k =>
      exact (find?_markUsed setting now d digest k).trans (or_effect_markUsed _ k digest _).symm
  | insertRefresh user digest expiresAt client => exact versions_insertRefresh h p
  | insertReset user digest expiresAt => exact versions_insertReset h p
  | createUser email name hash role =>
    exact versions_createUser setting now d email name hash role p

end Server

end Gatehouse.Sql
