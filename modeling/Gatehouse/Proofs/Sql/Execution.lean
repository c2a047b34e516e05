/-
  What a conversation comes to.

  Of a run only the outcome and the state of the database matter here, not the messages.  `exec`
  goes through a conversation statement by statement (`exec_send_bind`), so that what a call of the
  store does to the tables is computed from what its statements do.

  Inside a transaction the tables change as they do outside.  If the conversation fails, they are
  put back (`exec_transaction`).
-/
import Gatehouse.Proofs.Sql.Tables
import Gatehouse.Proofs.Sql.Transcript
import Gatehouse.Proofs.Store.Run

namespace Gatehouse.Sql

variable {α β δ : Type}

/-- The value of a script, and the state of the database after it. -/
def Script.exec (db : Database δ) (p : Script α) (d : δ) : α × δ :=
  ((p.run db d).1, (p.run db d).2.1)

/-- The second part of a script starts from the state in which the first has left the database. -/
theorem Script.exec_bind (db : Database δ) (p : Script α) (f : α → Script β) (d : δ) :
    (p.bind f).exec db d = (f (p.exec db d).1).exec db (p.exec db d).2 := by
  induction p generalizing d with
  | done a => rfl
  | acquire next ih => exact ih _ d
  | begin next ih => exact ih _ _
  | commit next ih => exact ih _ _
  | rollback next ih => exact ih _
  | send s next ih => exact ih _ _

namespace Conversation

/-- The outcome of a conversation, and the state of the database after it. -/
def exec (db : Database δ) (c : Conversation α) (d : δ) : Except AuthError α × δ :=
  (ExceptT.run c).exec db d

variable (db : Database δ)

@[simp] theorem exec_pure (a : α) (d : δ) : exec db (pure a) d = (.ok a, d) := rfl

@[simp] theorem exec_throw (e : AuthError) (d : δ) :
    exec db (throw e : Conversation α) d = (.error e, d) := rfl

theorem exec_send (s : Statement) (d : δ) :
    exec db (send s) d = (ofAnswer (db.execute s d).1, (db.execute s d).2) := rfl

/-- The second part of a conversation is held only if the first has succeeded. -/
theorem exec_bind (c : Conversation α) (f : α → Conversation β) (d : δ) :
    exec db (c >>= f) d = match exec db c d with
      | (.ok a, d) => exec db (f a) d
      | (.error e, d) => (.error e, d) := by
  have h := Script.exec_bind db (ExceptT.run c) (ExceptT.bindCont f) d
  refine h.trans ?_
  unfold exec
  obtain ⟨r, d⟩ := (ExceptT.run c).exec db d
  cases r <;> rfl

/-- **A conversation goes on with what its first statement gives**, and ends with the first one that
fails. -/
theorem exec_send_bind (s : Statement) (f : s.Result → Conversation α) (d : δ) :
    exec db (send s >>= f) d = match db.execute s d with
      | (.ok v, d) => exec db (f v) d
      | (.error e, d) => (.error (.persistence e), d) := by
  rw [exec_bind, exec_send]
  obtain ⟨answer, d⟩ := db.execute s d
  cases answer <;> rfl

theorem exec_map (c : Conversation α) (f : α → β) (d : δ) :
    exec db (f <$> c) d = ((exec db c d).1.map f, (exec db c d).2) := by
  rw [← bind_pure_comp, exec_bind]
  obtain ⟨r, d⟩ := exec db c d
  cases r <;> rfl

end Conversation

/-! ## On the tables -/

namespace Server

open Conversation

variable (setting : Setting) (now : Instant)

/-- **A transaction keeps all or nothing.**  The tables are saved before its first statement; they
are kept as they are in the end if all has succeeded, and put back if not. -/
theorem exec_transaction (c : Conversation α) (d : Server) :
    exec (database setting now) (transaction c) d =
      match exec (database setting now) c d.save with
      | (.ok a, d) => (.ok a, d.keep)
      | (.error e, d) => (.error e, d.restore) := by
  have h := Script.exec_bind (database setting now) (ExceptT.run c) finish d.save
  refine h.trans ?_
  unfold exec
  obtain ⟨r, d⟩ := (ExceptT.run c).exec (database setting now) d.save
  cases r <;> rfl

variable {setting now}

/-- A transaction keeps what was done to the tables if it succeeds. -/
theorem exec_transaction_of_ok {c : Conversation α} {d d' : Server} {a : α}
    (h : exec (database setting now) c d.save = (.ok a, d')) :
    exec (database setting now) (transaction c) d = (.ok a, d'.keep) := by
  rw [exec_transaction, h]

/-- A transaction puts the tables back if it fails. -/
theorem exec_transaction_of_error {c : Conversation α} {d d' : Server} {e : AuthError}
    (h : exec (database setting now) c d.save = (.error e, d')) :
    exec (database setting now) (transaction c) d = (.error e, d'.restore) := by
  rw [exec_transaction, h]

variable (setting now)

/-! ## What the conversations do to the tables -/

variable (d : Server)

/-- The statement that revokes the tokens of a user closes each record for the user, and a record
that was revoked before is left as it was. -/
theorem find?_revokeUser (user : Uuid) (k : String) :
    (execute setting now (.revokeUser user) d).2.tables.refresh.find? k =
      (d.tables.refresh.find? k).map (·.closedFor user) := by
  refine (Rows.find?_update d.tables.refresh (fun r => r.user = user ∧ r.revoked = false)
    (fun r => { r with revoked := true }) (fun _ => rfl) k).trans ?_
  refine congrArg (Option.map · _) (funext fun r => ?_)
  -- a row that is revoked already stays as it is
  obtain ⟨_, owner, _, _, _, _, revoked, _, _, _⟩ := r
  by_cases howner : owner = user <;> cases revoked <;> simp [RefreshRecord.closedFor, howner]

/-- The statement that marks a token as replaced writes to its record only. -/
theorem find?_markReplaced (old new k : String) :
    (execute setting now (.markReplaced old new) d).2.tables.refresh.find? k =
      if k = old then (d.tables.refresh.find? k).map (·.replacedWith now new)
      else d.tables.refresh.find? k :=
  Rows.find?_update_key d.tables.refresh old (·.replacedWith now new) (fun _ => rfl) k

/-- The statement that revokes a token writes to its record only. -/
theorem find?_revokeOne (digest : String) (replacedBy : Option String) (k : String) :
    (execute setting now (.revokeOne digest replacedBy) d).2.tables.refresh.find? k =
      if k = digest then (d.tables.refresh.find? k).map (·.revokedWith replacedBy)
      else d.tables.refresh.find? k :=
  Rows.find?_update_key d.tables.refresh digest (·.revokedWith replacedBy) (fun _ => rfl) k

/-- The statement that marks a reset token as used writes to its record only. -/
theorem find?_markUsed (digest k : String) :
    (execute setting now (.markUsed digest) d).2.tables.resets.find? k =
      if k = digest then (d.tables.resets.find? k).map fun r => { r with used := true }
      else d.tables.resets.find? k :=
  Rows.find?_update_key d.tables.resets digest (fun r => { r with used := true }) (fun _ => rfl) k

/-- The statement that sets a password writes to the row of the user only. -/
theorem find?_setPassword (user : Uuid) (hash : String) (k : Uuid) :
    (execute setting now (.setPassword user hash) d).2.tables.users.find? k =
      if k = user then (d.tables.users.find? k).map fun u =>
        { u with account := { u.account with passwordHash := hash }, updatedAt := now }
      else d.tables.users.find? k :=
  Rows.find?_update_key d.tables.users user
    (fun u => { u with account := { u.account with passwordHash := hash }, updatedAt := now })
    (fun _ => rfl) k

/-- The row that an insertion adds. -/
def newRefresh (digest : String) (user : Uuid) (expiresAt : Instant) (client : ClientInfo) :
    RefreshRecord Uuid :=
  { id := setting.newId d.made, user, digest, createdAt := now, lastUsedAt := none, expiresAt
    revoked := false, replacedBy := none, ip := client.ip, userAgent := client.userAgent }

/-- To insert a record is to insert the new row, and an identifier is spent either way. -/
theorem execute_insertRefresh (user : Uuid) (digest : String) (expiresAt : Instant)
    (client : ClientInfo) :
    (database setting now).execute (.insertRefresh user digest expiresAt client) d =
      d.inserted (d.tables.insertRefresh
        (newRefresh setting now d digest user expiresAt client)) := rfl

/-- The role is that of the user, and a user who is not registered has no token that is good. -/
theorem exec_fetchRole (user : Uuid) :
    exec (database setting now) (fetchRole user) d =
      match d.tables.users.find? user with
      | some u => (.ok u.account.user.role, d)
      | none => (.error .invalidRefreshToken, d) := by
  unfold fetchRole
  rw [first?_bind, exec_send_bind]
  simp only [database, execute, List.head?_map, Rows.head?_select]
  cases d.tables.users.find? user <;> rfl

/-- A token that was used before is answered with the role of its owner, and the sessions of the
owner are closed. -/
theorem exec_containReuse {user : Uuid} {u : UserRow} (owner : d.tables.users.find? user = some u) :
    exec (database setting now) (containReuse user) d =
      (.ok (⟨user, u.account.user.role, true⟩,
        [.reuseContained user (d.tables.refresh.count fun r => r.user = user ∧ r.revoked = false)]),
        (execute setting now (.revokeUser user) d).2) := by
  unfold containReuse
  rw [exec_send_bind]
  show exec _ _ (execute setting now (.revokeUser user) d).2 = _
  rw [bind_pure_comp, exec_map, exec_fetchRole]
  have howner : (execute setting now (.revokeUser user) d).2.tables.users.find? user = some u :=
    owner
  rw [howner]
  rfl

variable (old new : String) (expiresAt : Instant) (client : ClientInfo)

/-- A new record whose digest is taken is refused. -/
theorem exec_replaceLocked_of_taken {r : RefreshRecord Uuid}
    (taken : d.tables.refresh.find? new = some r) (user : Uuid) :
    exec (database setting now) (replaceLocked user old new expiresAt client) d =
      (.error (.persistence (Tables.duplicate "refresh_tokens_token_hash_idx")),
        { d with made := d.made + 1 }) := by
  unfold replaceLocked
  rw [exec_send_bind]
  have hrefused := Tables.insertRefresh_of_taken (t := d.tables)
    (r := newRefresh setting now d new user expiresAt client) taken
  rw [execute_insertRefresh, hrefused]
  rfl

/-- The old record is marked, beside a new record with a new digest. -/
theorem exists_exec_replaceLocked {user : Uuid} {u : UserRow}
    (fresh : d.tables.refresh.find? new = none) (owner : d.tables.users.find? user = some u) :
    ∃ d', exec (database setting now) (replaceLocked user old new expiresAt client) d =
        (.ok (⟨user, u.account.user.role, false⟩, []), d') ∧
      d'.tables.users = d.tables.users ∧ d'.tables.resets = d.tables.resets ∧
      ∀ k, d'.tables.refresh.find? k =
        if k = old then
          (if k = new then some (newRefresh setting now d new user expiresAt client)
            else d.tables.refresh.find? k).map (·.replacedWith now new)
        else if k = new then some (newRefresh setting now d new user expiresAt client)
        else d.tables.refresh.find? k := by
  obtain ⟨t, hstored, husers, hresets, hfind⟩ := Tables.exists_insertRefresh
    (r := newRefresh setting now d new user expiresAt client) fresh owner
  unfold replaceLocked
  rw [exec_send_bind, execute_insertRefresh, hstored]
  let stored : Server := { d with tables := t, made := d.made + 1 }
  refine ⟨(execute setting now (.markReplaced old new) stored).2, ?_, husers, hresets,
    fun k => ?_⟩
  · show exec _ _ stored = _
    rw [exec_send_bind]
    show exec _ _ (execute setting now (.markReplaced old new) stored).2 = _
    rw [bind_pure_comp, exec_map, exec_fetchRole]
    -- the role is read last, and neither statement has touched the users
    have howner : (execute setting now (.markReplaced old new) stored).2.tables.users.find? user =
        some u :=
      (congrArg (Rows.find? · user) husers).trans owner
    rw [howner]
    rfl
  · rw [find?_markReplaced]
    show (if k = old then (t.refresh.find? k).map _ else t.refresh.find? k) = _
    rw [hfind]
    rfl

/-- Presenting a refresh token, by the record that is found. -/
theorem exec_rotateLocked :
    exec (database setting now) (rotateLocked old new expiresAt client) d =
      match d.tables.refresh.find? old with
      | none => (.error .invalidRefreshToken, d)
      | some r =>
        if r.revoked then exec (database setting now) (containReuse r.user) d
        else if expired r.expiresAt now then (.error .invalidRefreshToken, d)
        else exec (database setting now) (replaceLocked r.user old new expiresAt client) d := by
  unfold rotateLocked
  rw [first?_bind, exec_send_bind]
  simp only [database, execute, List.head?_map, Rows.head?_select]
  cases d.tables.refresh.find? old with
  | none => rfl
  | some r =>
    show exec (database setting now) (if r.revoked then containReuse r.user
        else if expired r.expiresAt now then throw .invalidRefreshToken
        else replaceLocked r.user old new expiresAt client) d =
      if r.revoked then exec (database setting now) (containReuse r.user) d
      else if expired r.expiresAt now then (.error .invalidRefreshToken, d)
      else exec (database setting now) (replaceLocked r.user old new expiresAt client) d
    split
    · rfl
    · split <;> rfl

/-- A reset token that is still good is used up, and others are refused. -/
theorem exec_consumeLocked (digest : String) :
    exec (database setting now) (consumeLocked digest) d =
      match (d.tables.resets.find? digest).filter fun r => r.used = false ∧ now < r.expiresAt with
      | none => (.error .invalidOrExpiredToken, d)
      | some r => (.ok r.user, (execute setting now (.markUsed digest) d).2) := by
  unfold consumeLocked
  rw [first?_bind, exec_send_bind]
  simp only [database, execute, List.head?_map]
  rw [Rows.head?_select_and]
  cases (d.tables.resets.find? digest).filter fun r => r.used = false ∧ now < r.expiresAt <;> rfl

/-- **A reset token is used up in a transaction**: if it is not good, the tables are as before. -/
theorem exec_consumeReset (digest : String) :
    exec (database setting now) (conversation (.consumeReset digest)) d =
      match (d.tables.resets.find? digest).filter fun r => r.used = false ∧ now < r.expiresAt with
      | none => (.error .invalidOrExpiredToken, d.save.restore)
      | some r => (.ok (r.user, []), (execute setting now (.markUsed digest) d.save).2.keep) := by
  have hmap : conversation (.consumeReset digest) =
    (fun user => (user, [])) <$> transaction (consumeLocked digest) := rfl
  have hbody := exec_consumeLocked setting now d.save digest
  change exec _ _ d.save =
    match (d.tables.resets.find? digest).filter _ with | none => _ | some r => _ at hbody
  rw [hmap, exec_map]
  cases hgood : (d.tables.resets.find? digest).filter fun r =>
      r.used = false ∧ now < r.expiresAt with
  | none =>
    rw [hgood] at hbody
    rw [exec_transaction_of_error hbody]
    rfl
  | some r =>
    rw [hgood] at hbody
    rw [exec_transaction_of_ok hbody]
    rfl

section Rotate

variable {r : RefreshRecord Uuid} {u : UserRow}

/-- A record that is revoked already is a reuse. -/
theorem exec_rotateLocked_of_revoked (known : d.tables.refresh.find? old = some r)
    (revoked : r.revoked = true) :
    exec (database setting now) (rotateLocked old new expiresAt client) d =
      exec (database setting now) (containReuse r.user) d := by
  rw [exec_rotateLocked, known]
  exact if_pos revoked

/-- A record that is neither revoked nor expired is replaced. -/
theorem exec_rotateLocked_of_good (known : d.tables.refresh.find? old = some r)
    (unrevoked : r.revoked = false) (unexpired : expired r.expiresAt now = false) :
    exec (database setting now) (rotateLocked old new expiresAt client) d =
      exec (database setting now) (replaceLocked r.user old new expiresAt client) d := by
  rw [exec_rotateLocked, known]
  simp only [unrevoked, unexpired, Bool.false_eq_true, if_false]

/-- A token that is not known, or no longer good, is refused. -/
theorem exec_rotate_of_refused (h : d.tables.refresh.find? old = none ∨
      ∃ r, d.tables.refresh.find? old = some r ∧ r.revoked = false ∧
        expired r.expiresAt now = true) :
    exec (database setting now) (conversation (.rotate old new expiresAt client)) d =
      (.error .invalidRefreshToken, d.save.restore) := by
  have hlocked := exec_rotateLocked setting now d.save old new expiresAt client
  refine exec_transaction_of_error (hlocked.trans ?_)
  show (match d.tables.refresh.find? old with | none => _ | some r => _) = _
  rcases h with hunknown | ⟨r, hknown, unrevoked, late⟩
  · rw [hunknown]
  · rw [hknown]
    simp only [unrevoked, late, Bool.false_eq_true, if_false, if_true]

/-- A token that was used before is answered with the reuse. -/
theorem exists_exec_rotate_of_revoked (known : d.tables.refresh.find? old = some r)
    (revoked : r.revoked = true) (owner : d.tables.users.find? r.user = some u) :
    ∃ events, exec (database setting now) (conversation (.rotate old new expiresAt client)) d =
      (.ok (⟨r.user, u.account.user.role, true⟩, events),
        (execute setting now (.revokeUser r.user) d.save).2.keep) := by
  have hclose := exec_containReuse setting now d.save owner
  have hlocked := exec_rotateLocked_of_revoked setting now d.save old new expiresAt client known
    revoked
  exact ⟨_, exec_transaction_of_ok (hlocked.trans hclose)⟩

/-- A new token whose digest is taken is refused. -/
theorem exists_exec_rotate_of_taken {r' : RefreshRecord Uuid}
    (known : d.tables.refresh.find? old = some r) (unrevoked : r.revoked = false)
    (unexpired : expired r.expiresAt now = false) (taken : d.tables.refresh.find? new = some r') :
    ∃ e d', exec (database setting now) (conversation (.rotate old new expiresAt client)) d =
      (.error e, d') ∧ d'.tables = d.tables := by
  have hrefused :=
    exec_replaceLocked_of_taken setting now d.save old new expiresAt client taken r.user
  have hlocked :=
    exec_rotateLocked_of_good setting now d.save old new expiresAt client known unrevoked unexpired
  exact ⟨_, _, exec_transaction_of_error (hlocked.trans hrefused), rfl⟩

/-- A token that is good is replaced. -/
theorem exists_exec_rotate_of_good (known : d.tables.refresh.find? old = some r)
    (unrevoked : r.revoked = false) (unexpired : expired r.expiresAt now = false)
    (fresh : d.tables.refresh.find? new = none) (owner : d.tables.users.find? r.user = some u) :
    ∃ d', exec (database setting now) (conversation (.rotate old new expiresAt client)) d =
        (.ok (⟨r.user, u.account.user.role, false⟩, []), d') ∧
      d'.tables.users = d.tables.users ∧ d'.tables.resets = d.tables.resets ∧
      ∀ k, d'.tables.refresh.find? k =
        if k = old then
          (if k = new then some (newRefresh setting now d new r.user expiresAt client)
            else d.tables.refresh.find? k).map (·.replacedWith now new)
        else if k = new then some (newRefresh setting now d new r.user expiresAt client)
        else d.tables.refresh.find? k := by
  obtain ⟨d', hreplaced, husers, hresets, hfind⟩ :=
    exists_exec_replaceLocked setting now d.save old new expiresAt client fresh owner
  have hlocked :=
    exec_rotateLocked_of_good setting now d.save old new expiresAt client known unrevoked unexpired
  exact ⟨d'.keep, exec_transaction_of_ok (hlocked.trans hreplaced), husers, hresets, hfind⟩

end Rotate

/-! ## The calls of one statement -/

/-- The row that the insertion of a reset token adds. -/
def newReset (digest : String) (user : Uuid) (expiresAt : Instant) : ResetRow :=
  { id := setting.newId d.made, user, digest, createdAt := now, expiresAt, used := false }

/-- A refresh token is issued unless the tables refuse its row. -/
theorem exec_insertRefresh (digest : String) (user : Uuid) :
    exec (database setting now) (conversation (.insertRefresh digest user expiresAt client)) d =
      match d.tables.insertRefresh (newRefresh setting now d digest user expiresAt client) with
      | .ok t => (.ok ((), []), { d with tables := t, made := d.made + 1 })
      | .error e => (.error (.persistence e), { d with made := d.made + 1 }) := by
  refine (exec_send_bind _ _ _ d).trans ?_
  rw [execute_insertRefresh]
  cases d.tables.insertRefresh (newRefresh setting now d digest user expiresAt client) <;> rfl

theorem exec_insertReset (digest : String) (user : Uuid) :
    exec (database setting now) (conversation (.insertReset digest user expiresAt)) d =
      match d.tables.insertReset (newReset setting now d digest user expiresAt) with
      | .ok t => (.ok ((), []), { d with tables := t, made := d.made + 1 })
      | .error e => (.error (.persistence e), { d with made := d.made + 1 }) := by
  refine (exec_send_bind _ _ _ d).trans ?_
  have hexec : (database setting now).execute (.insertReset user digest expiresAt) d =
    d.inserted (d.tables.insertReset (newReset setting now d digest user expiresAt)) := rfl
  rw [hexec]
  cases d.tables.insertReset (newReset setting now d digest user expiresAt) <;> rfl

/-- A token is revoked if it is known.  The statement is sent in any case, and finds nothing to do
if it is not. -/
theorem exec_revoke (digest : String) (replacedBy : Option String) :
    exec (database setting now) (conversation (.revoke digest replacedBy)) d =
      (if d.tables.refresh.find? digest = none then .error .invalidRefreshToken else .ok ((), []),
        (execute setting now (.revokeOne digest replacedBy) d).2) := by
  refine (exec_send_bind _ _ _ d).trans ?_
  show exec (database setting now) (if (d.tables.refresh.count fun r => r.digest = digest) = 0
    then throw .invalidRefreshToken else pure ((), [])) _ = _
  simp only [Rows.count_eq_zero_iff]
  split <;> rfl

/-- Closing the sessions of a user succeeds, however many there are. -/
theorem exec_revokeAll (user : Uuid) :
    ∃ n, exec (database setting now) (conversation (.revokeAll user)) d =
      (.ok ((), [.sessionsClosed user n]), (execute setting now (.revokeUser user) d).2) :=
  ⟨_, exec_send_bind _ _ _ d⟩

theorem exec_findById (user : Uuid) :
    exec (database setting now) (conversation (.findById user)) d =
      (.ok ((d.tables.users.find? user).map (·.account.user), []), d) := by
  show exec (database setting now) (first? (send (.findById user)) >>= fun account =>
    pure (account.map (·.user), [])) d = _
  rw [first?_bind, exec_send_bind]
  simp only [database, execute, List.head?_map, Rows.head?_select]
  cases d.tables.users.find? user <;> rfl

/-- A password is set if there is a user to set it for. -/
theorem exec_setPassword (user : Uuid) (hash : String) :
    exec (database setting now) (conversation (.setPassword user hash)) d =
      (if d.tables.users.find? user = none then .error (.persistence .rowNotFound)
        else .ok ((), []),
        (execute setting now (.setPassword user hash) d).2) := by
  refine (exec_send_bind _ _ _ d).trans ?_
  show exec (database setting now) (if (d.tables.users.count fun u => u.account.user.id = user) = 0
    then throw (.persistence .rowNotFound) else pure ((), [])) _ = _
  simp only [Rows.count_eq_zero_iff]
  split <;> rfl

end Server

end Gatehouse.Sql
