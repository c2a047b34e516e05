/-
  A database that does what the statements say.

  `Sql.Database` is anything that answers.  Here is the one that the statements are written for:
  three tables, of users, refresh records and reset records, and for every statement what its text
  says.  The constraints of the tables are part of their type: a user has one row, an e-mail address
  one user and a digest one row, and the owner of a token is a user.  A statement that would break
  one of them is refused and changes nothing.

  A transaction that is given up puts the tables back as they were when it was opened.

  Two things are left to the surroundings (`Setting`): how the database folds the case of a text,
  and the identifiers that are made for new rows.  That no identifier is made twice is not checked;
  nothing depends on it.
-/
import Gatehouse.Sql.Script
import Mathlib.Data.List.Nodup

namespace Gatehouse.Sql

/-! ## Rows with a unique key -/

/-- Rows of which no two have the same key. -/
structure Rows {ρ κ : Type} (key : ρ → κ) where
  /-- The rows in the order in which they came. -/
  rows : List ρ := []
  /-- No key stands twice. -/
  unique : (rows.map key).Nodup := by exact List.nodup_nil

namespace Rows

variable {ρ κ : Type} {key : ρ → κ}

/-- A change that leaves keys alone, made to the rows that a condition picks. -/
theorem map_key_update (rows : List ρ) (p : ρ → Bool) {f : ρ → ρ} (hf : ∀ r, key (f r) = key r) :
    (rows.map fun r => if p r then f r else r).map key = rows.map key := by
  rw [List.map_map]
  refine List.map_congr_left fun r _ => ?_
  show key (if p r then f r else r) = key r
  split
  · exact hf r
  · rfl

/-- The rows that a condition picks. -/
def select (t : Rows key) (p : ρ → Bool) : List ρ := t.rows.filter p

/-- The number of rows that a condition picks. -/
def count (t : Rows key) (p : ρ → Bool) : Nat := t.rows.countP p

/-- Changes the rows that a condition picks. -/
def update (t : Rows key) (p : ρ → Bool) (f : ρ → ρ) (hf : ∀ r, key (f r) = key r) : Rows key where
  rows := t.rows.map fun r => if p r then f r else r
  unique := by
    rw [map_key_update t.rows p hf]
    exact t.unique

/-- Adds a row with a new key. -/
def insert (t : Rows key) (r : ρ) (fresh : key r ∉ t.rows.map key) : Rows key where
  rows := t.rows ++ [r]
  unique := by
    rw [List.map_append]
    exact t.unique.append (List.nodup_singleton _) (List.disjoint_singleton.2 fresh)

/-- Two rows with one key are one row. -/
theorem eq_of_key {t : Rows key} {r s : ρ} (hr : r ∈ t.rows) (hs : s ∈ t.rows)
    (h : key r = key s) : r = s :=
  List.inj_on_of_nodup_map t.unique hr hs h

variable [DecidableEq κ]

/-- The row with a key. -/
def find? (t : Rows key) (k : κ) : Option ρ := t.rows.find? fun r => key r = k

/-- Selecting by the key gives the row with the key first. -/
@[simp] theorem head?_select (t : Rows key) (k : κ) :
    (t.select fun r => key r = k).head? = t.find? k :=
  List.head?_filter

theorem key_of_find? {t : Rows key} {k : κ} {r : ρ} (h : t.find? k = some r) : key r = k := by
  simpa using List.find?_some h

theorem mem_of_find? {t : Rows key} {k : κ} {r : ρ} (h : t.find? k = some r) : r ∈ t.rows :=
  List.mem_of_find?_eq_some h

/-- Selecting by the key and a further condition gives the row with the key, if it meets the
condition. -/
theorem head?_select_and (t : Rows key) (k : κ) (q : ρ → Prop) [DecidablePred q] :
    (t.select fun r => key r = k ∧ q r).head? = (t.find? k).filter fun r => q r := by
  unfold select
  rw [List.head?_filter]
  cases h : t.find? k with
  | none =>
    refine List.find?_eq_none.2 fun r hr => ?_
    have hkey := List.find?_eq_none.1 h r hr
    simp_all
  | some r =>
    have hmem := mem_of_find? h
    have honly : ∀ s ∈ t.rows, key s = k → s = r := by
      intro s hs hkey
      exact eq_of_key hs hmem (hkey.trans (key_of_find? h).symm)
    by_cases hq : q r
    · have hsome : (t.rows.find? fun r => key r = k ∧ q r).isSome := by
        rw [List.find?_isSome]
        exact ⟨r, hmem, by simp [key_of_find? h, hq]⟩
      obtain ⟨s, hs⟩ := Option.isSome_iff_exists.1 hsome
      have hkey : key s = k ∧ q s := by simpa using List.find?_some hs
      rw [hs, honly s (List.mem_of_find?_eq_some hs) hkey.1]
      exact (if_pos (decide_eq_true hq)).symm
    · have hnone : (t.rows.find? fun r => key r = k ∧ q r) = none := by
        refine List.find?_eq_none.2 fun s hs hs' => ?_
        have hs' : key s = k ∧ q s := by simpa using hs'
        exact hq (honly s hs hs'.1 ▸ hs'.2)
      rw [hnone]
      exact (if_neg (by simp [hq])).symm

/-- There is no row with a key exactly when the key does not stand in the table. -/
theorem find?_eq_none_iff {t : Rows key} {k : κ} : t.find? k = none ↔ k ∉ t.rows.map key := by
  unfold find?
  rw [List.find?_eq_none]
  simp [eq_comm]

/-- No row is changed by its key exactly when there is none. -/
theorem count_eq_zero_iff {t : Rows key} {k : κ} :
    (t.count fun r => key r = k) = 0 ↔ t.find? k = none := by
  unfold count find?
  rw [List.countP_eq_zero, List.find?_eq_none]

theorem find?_update (t : Rows key) (p : ρ → Bool) (f : ρ → ρ) (hf : ∀ r, key (f r) = key r)
    (k : κ) :
    (t.update p f hf).find? k = (t.find? k).map fun r => if p r then f r else r := by
  unfold find? update
  rw [List.find?_map]
  refine congrArg (Option.map _) (congrArg (List.find? · t.rows) (funext fun r => ?_))
  show decide (key (if p r then f r else r) = k) = decide (key r = k)
  split
  · rw [hf]
  · rfl

/-- The same for a change to the row with a key. -/
theorem find?_update_key (t : Rows key) (k : κ) (f : ρ → ρ) (hf : ∀ r, key (f r) = key r) (j : κ) :
    (t.update (fun r => key r = k) f hf).find? j =
      if j = k then (t.find? j).map f else t.find? j := by
  rw [find?_update]
  cases h : t.find? j with
  | none => simp
  | some r =>
    obtain rfl := key_of_find? h
    by_cases hk : key r = k <;> simp [hk]

theorem find?_insert (t : Rows key) (r : ρ) (fresh : key r ∉ t.rows.map key) (k : κ) :
    (t.insert r fresh).find? k = if k = key r then some r else t.find? k := by
  have hnone : t.find? (key r) = none := find?_eq_none_iff.2 fresh
  unfold find? at hnone ⊢
  unfold insert
  rw [List.find?_append]
  by_cases hk : k = key r
  · subst hk
    simp [hnone]
  · simp [hk, Ne.symm hk]

end Rows

/-! ## The tables -/

/-- A row of the table of users. -/
structure UserRow where
  /-- The account. -/
  account : Account
  /-- When the user was registered. -/
  createdAt : Instant
  /-- When the row was changed last. -/
  updatedAt : Instant

/-- A row of the table of reset records. -/
structure ResetRow where
  /-- The identifier of the row. -/
  id : Uuid
  /-- The owner. -/
  user : Uuid
  /-- The digest of the token. -/
  digest : String
  /-- When the token was issued. -/
  createdAt : Instant
  /-- From when on the token is no longer good. -/
  expiresAt : Instant
  /-- Whether the token was used. -/
  used : Bool

/-- The tables, with their constraints. -/
structure Tables where
  /-- The users, by their identifiers. -/
  users : Rows (fun u : UserRow => u.account.user.id) := {}
  /-- The refresh records, by their digests. -/
  refresh : Rows (fun r : RefreshRecord Uuid => r.digest) := {}
  /-- The reset records, by their digests. -/
  resets : Rows (fun r : ResetRow => r.digest) := {}
  /-- No two users have one e-mail address. -/
  emails : (users.rows.map fun u => u.account.user.email).Nodup := by exact List.nodup_nil
  /-- The owner of a refresh token is a user. -/
  refreshOwner : ∀ r ∈ refresh.rows, ∃ u ∈ users.rows, u.account.user.id = r.user := by simp
  /-- The owner of a reset token is a user. -/
  resetOwner : ∀ r ∈ resets.rows, ∃ u ∈ users.rows, u.account.user.id = r.user := by simp

namespace Tables

/-- The refusal of a row whose key is taken. -/
def duplicate (index : String) : DatabaseError :=
  .refused ("duplicate key value violates unique constraint \"" ++ index ++ "\"")

/-- The refusal of a token of somebody who is not a user. -/
def unknownOwner (table : String) : DatabaseError :=
  .refused ("insert or update on table \"" ++ table ++ "\" violates foreign key constraint \"" ++
    table ++ "_user_id_fkey\"")

/-- Adds a refresh record. -/
def insertRefresh (t : Tables) (r : RefreshRecord Uuid) : Except DatabaseError Tables :=
  if fresh : r.digest ∉ t.refresh.rows.map (·.digest) then
    if owner : ∃ u ∈ t.users.rows, u.account.user.id = r.user then
      .ok { t with
        refresh := t.refresh.insert r fresh
        refreshOwner := List.forall_mem_append.2
          ⟨t.refreshOwner, List.forall_mem_singleton.2 owner⟩ }
    else .error (unknownOwner "refresh_tokens")
  else .error (duplicate "refresh_tokens_token_hash_idx")

/-- Adds a reset record. -/
def insertReset (t : Tables) (r : ResetRow) : Except DatabaseError Tables :=
  if fresh : r.digest ∉ t.resets.rows.map (·.digest) then
    if owner : ∃ u ∈ t.users.rows, u.account.user.id = r.user then
      .ok { t with
        resets := t.resets.insert r fresh
        resetOwner := List.forall_mem_append.2
          ⟨t.resetOwner, List.forall_mem_singleton.2 owner⟩ }
    else .error (unknownOwner "password_resets")
  else .error (duplicate "password_resets_token_hash_idx")

theorem exists_owner {t : Tables} {user : Uuid} {u : UserRow} (h : t.users.find? user = some u) :
    ∃ u ∈ t.users.rows, u.account.user.id = user := by
  have hid := Rows.key_of_find? h
  exact ⟨u, Rows.mem_of_find? h, hid⟩

theorem insertRefresh_of_taken {t : Tables} {r r' : RefreshRecord Uuid}
    (h : t.refresh.find? r.digest = some r') :
    t.insertRefresh r = .error (duplicate "refresh_tokens_token_hash_idx") := by
  refine dif_neg fun fresh => ?_
  rw [← Rows.find?_eq_none_iff, h] at fresh
  cases fresh

/-- A record with a new digest is added, if its owner is a user. -/
theorem exists_insertRefresh {t : Tables} {r : RefreshRecord Uuid} {u : UserRow}
    (fresh : t.refresh.find? r.digest = none) (owner : t.users.find? r.user = some u) :
    ∃ t', t.insertRefresh r = .ok t' ∧ t'.users = t.users ∧ t'.resets = t.resets ∧
      ∀ k, t'.refresh.find? k = if k = r.digest then some r else t.refresh.find? k := by
  rw [Rows.find?_eq_none_iff] at fresh
  have hmem : ∃ u ∈ t.users.rows, u.account.user.id = r.user := exists_owner owner
  refine ⟨_, (dif_pos fresh).trans (dif_pos hmem), rfl, rfl, fun k => ?_⟩
  exact t.refresh.find?_insert r fresh k

theorem insertReset_of_taken {t : Tables} {r r' : ResetRow}
    (h : t.resets.find? r.digest = some r') :
    t.insertReset r = .error (duplicate "password_resets_token_hash_idx") := by
  refine dif_neg fun fresh => ?_
  rw [← Rows.find?_eq_none_iff, h] at fresh
  cases fresh

/-- The same for reset records. -/
theorem exists_insertReset {t : Tables} {r : ResetRow} {u : UserRow}
    (fresh : t.resets.find? r.digest = none) (owner : t.users.find? r.user = some u) :
    ∃ t', t.insertReset r = .ok t' ∧ t'.users = t.users ∧ t'.refresh = t.refresh ∧
      ∀ k, t'.resets.find? k = if k = r.digest then some r else t.resets.find? k := by
  rw [Rows.find?_eq_none_iff] at fresh
  have hmem : ∃ u ∈ t.users.rows, u.account.user.id = r.user := exists_owner owner
  refine ⟨_, (dif_pos fresh).trans (dif_pos hmem), rfl, rfl, fun k => ?_⟩
  exact t.resets.find?_insert r fresh k

/-- Changes refresh records, but not their digests and owners. -/
def updateRefresh (t : Tables) (p : RefreshRecord Uuid → Bool)
    (f : RefreshRecord Uuid → RefreshRecord Uuid)
    (keeps : ∀ r, (f r).digest = r.digest ∧ (f r).user = r.user) : Tables :=
  { t with
    refresh := t.refresh.update p f fun r => (keeps r).1
    refreshOwner := by
      refine List.forall_mem_map.2 fun r hr => ?_
      split
      · rw [(keeps r).2]
        exact t.refreshOwner r hr
      · exact t.refreshOwner r hr }

/-- Changes reset records, but not their digests and owners. -/
def updateResets (t : Tables) (p : ResetRow → Bool) (f : ResetRow → ResetRow)
    (keeps : ∀ r, (f r).digest = r.digest ∧ (f r).user = r.user) : Tables :=
  { t with
    resets := t.resets.update p f fun r => (keeps r).1
    resetOwner := by
      refine List.forall_mem_map.2 fun r hr => ?_
      split
      · rw [(keeps r).2]
        exact t.resetOwner r hr
      · exact t.resetOwner r hr }

/-- Changes users, but not their identifiers and e-mail addresses. -/
def updateUsers (t : Tables) (p : UserRow → Bool) (f : UserRow → UserRow)
    (keeps : ∀ u, (f u).account.user = u.account.user) : Tables :=
  { t with
    users := t.users.update p f fun u => congrArg User.id (keeps u)
    emails := by
      show ((t.users.rows.map fun u => if p u then f u else u).map _).Nodup
      rw [Rows.map_key_update t.users.rows p fun u => congrArg User.email (keeps u)]
      exact t.emails
    refreshOwner := fun r hr => exists_update (t.refreshOwner r hr)
    resetOwner := fun r hr => exists_update (t.resetOwner r hr) }
where
  exists_update {owner : Uuid} (h : ∃ u ∈ t.users.rows, u.account.user.id = owner) :
      ∃ u ∈ t.users.rows.map fun u => if p u then f u else u, u.account.user.id = owner := by
    obtain ⟨u, hu, rfl⟩ := h
    refine ⟨_, List.mem_map_of_mem hu, ?_⟩
    split
    · rw [keeps]
    · rfl

/-- Adds a user. -/
def insertUser (t : Tables) (u : UserRow) : Except DatabaseError Tables :=
  if fresh : u.account.user.id ∉ t.users.rows.map fun u => u.account.user.id then
    if email : u.account.user.email ∉ t.users.rows.map fun u => u.account.user.email then
      .ok { t with
        users := t.users.insert u fresh
        emails := by
          show ((t.users.rows ++ [u]).map _).Nodup
          rw [List.map_append]
          exact t.emails.append (List.nodup_singleton _) (List.disjoint_singleton.2 email)
        refreshOwner := fun r hr => exists_insert (t.refreshOwner r hr)
        resetOwner := fun r hr => exists_insert (t.resetOwner r hr) }
    else .error (duplicate "users_email_key")
  else .error (duplicate "users_pkey")
where
  exists_insert {owner : Uuid} (h : ∃ v ∈ t.users.rows, v.account.user.id = owner) :
      ∃ v ∈ t.users.rows ++ [u], v.account.user.id = owner := by
    obtain ⟨v, hv, howner⟩ := h
    exact ⟨v, List.mem_append_left _ hv, howner⟩

end Tables

/-! ## Statements -/

/-- What a database leaves to its surroundings. -/
structure Setting where
  /-- The text in lower case. -/
  lower : String → String
  /-- The identifiers that are made, in order. -/
  newId : Nat → Uuid

/-- The state of a database. -/
structure Server where
  /-- The tables. -/
  tables : Tables := {}
  /-- The tables as they were when the open transaction was opened, if one is open. -/
  saved : Option Tables := none
  /-- The number of identifiers made so far. -/
  made : Nat := 0

namespace Server

/-- The outcome of a statement that adds a row under a new identifier. -/
def inserted (d : Server) : Except DatabaseError Tables → Except DatabaseError Nat × Server
  | .ok tables => (.ok 1, { d with tables, made := d.made + 1 })
  | .error e => (.error e, { d with made := d.made + 1 })

/-- Carries a statement out at a point in time. -/
def execute (setting : Setting) (now : Instant) :
    (s : Statement) → Server → Except DatabaseError s.Result × Server
  | .findRefresh digest, d => (.ok (d.tables.refresh.select fun r => r.digest = digest), d)
  | .insertRefresh user digest expiresAt client, d =>
    d.inserted (d.tables.insertRefresh
      { id := setting.newId d.made, user, digest, createdAt := now, lastUsedAt := none, expiresAt
        revoked := false, replacedBy := none, ip := client.ip, userAgent := client.userAgent })
  | .lockRefresh digest, d =>
    (.ok ((d.tables.refresh.select fun r => r.digest = digest).map fun r =>
      ⟨r.user, r.revoked, r.expiresAt ≤ now⟩), d)
  | .revokeUser user, d =>
    (.ok (d.tables.refresh.count fun r => r.user = user ∧ r.revoked = false), { d with
      tables := d.tables.updateRefresh (fun r => r.user = user ∧ r.revoked = false)
        (fun r => { r with revoked := true }) fun _ => ⟨rfl, rfl⟩ })
  | .roleOf user, d =>
    (.ok ((d.tables.users.select fun u => u.account.user.id = user).map (·.account.user.role)), d)
  | .markReplaced old new, d =>
    (.ok (d.tables.refresh.count fun r => r.digest = old), { d with
      tables := d.tables.updateRefresh (fun r => r.digest = old)
        (fun r => { r with revoked := true, replacedBy := some new, lastUsedAt := some now })
        fun _ => ⟨rfl, rfl⟩ })
  | .revokeOne digest replacedBy, d =>
    (.ok (d.tables.refresh.count fun r => r.digest = digest), { d with
      tables := d.tables.updateRefresh (fun r => r.digest = digest)
        (fun r => { r with revoked := true, replacedBy := replacedBy.or r.replacedBy })
        fun _ => ⟨rfl, rfl⟩ })
  | .insertReset user digest expiresAt, d =>
    d.inserted (d.tables.insertReset
      { id := setting.newId d.made, user, digest, createdAt := now, expiresAt, used := false })
  | .lockReset digest, d =>
    (.ok ((d.tables.resets.select fun r =>
      r.digest = digest ∧ r.used = false ∧ now < r.expiresAt).map (·.user)), d)
  | .markUsed digest, d =>
    (.ok (d.tables.resets.count fun r => r.digest = digest), { d with
      tables := d.tables.updateResets (fun r => r.digest = digest)
        (fun r => { r with used := true }) fun _ => ⟨rfl, rfl⟩ })
  | .findByEmail email, d =>
    (.ok ((d.tables.users.select fun u =>
      setting.lower u.account.user.email = setting.lower email).map (·.account)), d)
  | .findById user, d =>
    (.ok ((d.tables.users.select fun u => u.account.user.id = user).map (·.account)), d)
  | .createUser email name hash role, d =>
    let id := setting.newId d.made
    match d.inserted (d.tables.insertUser ⟨⟨⟨id, email, name, role⟩, hash⟩, now, now⟩) with
    | (.ok _, d) => (.ok [id], d)
    | (.error e, d) => (.error e, d)
  | .setPassword user hash, d =>
    (.ok (d.tables.users.count fun u => u.account.user.id = user), { d with
      tables := d.tables.updateUsers (fun u => u.account.user.id = user)
        (fun u => { u with account := { u.account with passwordHash := hash }, updatedAt := now })
        fun _ => rfl })

/-- Remembers the tables for the case that the transaction is given up. -/
def save (d : Server) : Server := { d with saved := some d.tables }

/-- Ends a transaction and keeps the tables. -/
def keep (d : Server) : Server := { d with saved := none }

/-- Ends a transaction and puts the tables back. -/
def restore (d : Server) : Server := { d with tables := d.saved.getD d.tables, saved := none }

/-- The database at a point in time.  It has a connection for everybody. -/
def database (setting : Setting) (now : Instant) : Database Server where
  acquire _ := .ok ()
  begin d := (.ok (), d.save)
  commit d := (.ok (), d.keep)
  rollback d := d.restore
  execute := execute setting now

end Server

end Gatehouse.Sql
