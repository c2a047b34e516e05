/-
  What the database store sends when it replaces a refresh token or uses up a reset token.

  Both calls read a record and then change it, in a transaction.  Whatever the database answers, one
  of five things happens, and `Transacted` lists them:

  1. no connection is to be had, and nothing is sent;
  2. the transaction cannot be opened, and nothing else is sent;
  3. something goes wrong inside, and the transaction is rolled back;
  4. all statements are carried out but the commit fails, and the transaction is rolled back;
  5. all statements are carried out, the commit succeeds, and with it the call.

  What goes on inside is read off the conversations, one constructor for each way through them
  (`RotateTalk`, `ConsumeTalk`).
-/
import Gatehouse.Proofs.Sql.Transcript

namespace Gatehouse.Sql

variable {α δ : Type} {es : List Answered}

/-! ## Transactions -/

/-- The transcripts of a call that runs in one transaction. -/
inductive Transacted : List Answered → Except AuthError α → Prop where
  /-- There was no connection. -/
  | unconnected (e : DatabaseError) : Transacted [] (.error (.persistence e))
  /-- The transaction could not be opened. -/
  | unopened (e : DatabaseError) : Transacted [.begin (.error e)] (.error (.persistence e))
  /-- Something went wrong before the end, so the commit was not tried. -/
  | givenUp {body : List Answered} (statements : ∀ x ∈ body, x.IsStatement) (e : AuthError) :
      Transacted (.begin (.ok ()) :: (body ++ [.rollback])) (.error e)
  /-- Every statement was carried out, but the commit failed. -/
  | refused {body : List Answered} (carriedOut : ∀ x ∈ body, x.Succeeded) (e : DatabaseError) :
      Transacted (.begin (.ok ()) :: (body ++ [.commit (.error e), .rollback]))
        (.error (.persistence e))
  /-- Every statement was carried out, and so was the commit. -/
  | committed {body : List Answered} (carriedOut : ∀ x ∈ body, x.Succeeded) (a : α) :
      Transacted (.begin (.ok ()) :: (body ++ [.commit (.ok ())])) (.ok a)

/-- Changing the value at the end changes nothing of what is sent. -/
theorem Transacted.map {β : Type} {r : Except AuthError α} (h : Transacted es r) (f : α → β) :
    Transacted es (r.map f) := by
  cases h with
  | unconnected e => exact .unconnected e
  | unopened e => exact .unopened e
  | givenUp statements e => exact .givenUp statements e
  | refused carriedOut e => exact .refused carriedOut e
  | committed carriedOut a => exact .committed carriedOut (f a)

theorem Answered.Succeeded.isStatement {x : Answered} (h : x.Succeeded) : x.IsStatement := by
  cases x with
  | statement s answer => exact trivial
  | _ => exact h.elim

/-- Statements alone hold no commit. -/
theorem commit_notMem_of_statements {body : List Answered} (h : ∀ x ∈ body, x.IsStatement)
    (answer : Except DatabaseError Unit) : Answered.commit answer ∉ body :=
  fun hmem => h _ hmem

/-- **The call succeeds exactly if the commit does.** -/
theorem Transacted.exists_ok_iff {r : Except AuthError α} (h : Transacted es r) :
    (∃ a, r = .ok a) ↔ .commit (.ok ()) ∈ es := by
  cases h with
  | unconnected e => simp
  | unopened e => simp
  | givenUp statements e => simp [commit_notMem_of_statements statements]
  | refused carriedOut e =>
    simp [commit_notMem_of_statements fun x hx => (carriedOut x hx).isStatement]
  | committed carriedOut a => simp

/-- **A transaction that was opened and not committed is rolled back.** -/
theorem Transacted.getLast?_eq {r : Except AuthError α} (h : Transacted es r)
    (opened : .begin (.ok ()) ∈ es) (uncommitted : .commit (.ok ()) ∉ es) :
    es.getLast? = some .rollback := by
  cases h with
  | unconnected e => simp at opened
  | unopened e => simp at opened
  | givenUp statements e => simp [List.getLast?_cons]
  | refused carriedOut e => simp [List.getLast?_cons]
  | committed carriedOut a => simp at uncommitted

namespace Conversation

/-- What a conversation in a transaction says: what it says by itself, and how it is finished. -/
theorem yields_transaction {body : Conversation α} {r : Except AuthError α}
    (h : (connected (transaction body)).Yields es r) :
    (∃ e, es = [] ∧ r = .error (.persistence e)) ∨
    (∃ e, es = [.begin (.error e)] ∧ r = .error (.persistence e)) ∨
    ∃ said, (∃ e, body.Yields said (.error e) ∧
        es = .begin (.ok ()) :: (said ++ [.rollback]) ∧ r = .error e) ∨
      ∃ a, body.Yields said (.ok a) ∧
        ((∃ e, es = .begin (.ok ()) :: (said ++ [.commit (.error e), .rollback]) ∧
            r = .error (.persistence e)) ∨
          es = .begin (.ok ()) :: (said ++ [.commit (.ok ())]) ∧ r = .ok a) := by
  obtain ⟨connection, h⟩ := h
  cases connection with
  | error e => exact Or.inl ⟨e, h.1, h.2⟩
  | ok u =>
    obtain ⟨answer, rest, rfl, h⟩ := h
    cases answer with
    | error e =>
      obtain ⟨rfl, rfl⟩ := h
      exact Or.inr (Or.inl ⟨e, rfl, rfl⟩)
    | ok v =>
      obtain ⟨said, outcome, rest, rfl, hbody, hfinish⟩ := Script.yields_bind h
      refine Or.inr (Or.inr ⟨said, ?_⟩)
      cases outcome with
      | error e =>
        obtain ⟨rest, rfl, rfl, rfl⟩ := hfinish
        exact Or.inl ⟨e, hbody, rfl, rfl⟩
      | ok a =>
        obtain ⟨answer, rest, rfl, hfinish⟩ := hfinish
        refine Or.inr ⟨a, hbody, ?_⟩
        cases answer with
        | error e =>
          obtain ⟨rest, rfl, rfl, rfl⟩ := hfinish
          exact Or.inl ⟨e, rfl, rfl⟩
        | ok w =>
          obtain ⟨rfl, rfl⟩ := hfinish
          exact Or.inr ⟨rfl, rfl⟩

/-- The conversation sends statements only, and it fails if one of them does. -/
structure Strict (body : Conversation α) : Prop where
  statements : ∀ {said r}, body.Yields said r → ∀ x ∈ said, x.IsStatement
  carriedOut : ∀ {said a}, body.Yields said (.ok a) → ∀ x ∈ said, x.Succeeded

variable {body : Conversation α} {r : Except AuthError α}

/-- A strict conversation is carried out in one transaction. -/
theorem Strict.transacted (strict : body.Strict) (h : (connected (transaction body)).Yields es r) :
    Transacted es r := by
  rcases yields_transaction h with ⟨e, rfl, rfl⟩ | ⟨e, rfl, rfl⟩ |
    ⟨said, ⟨e, hbody, rfl, rfl⟩ | ⟨a, hbody, ⟨e, rfl, rfl⟩ | ⟨rfl, rfl⟩⟩⟩
  · exact .unconnected e
  · exact .unopened e
  · exact .givenUp (strict.statements hbody) e
  · exact .refused (strict.carriedOut hbody) e
  · exact .committed (strict.carriedOut hbody) a

/-- A statement is sent only inside the transaction. -/
theorem exists_body_of_statement (h : (connected (transaction body)).Yields es r) {s : Statement}
    {answer : Except DatabaseError s.Result} (hs : .statement s answer ∈ es) :
    ∃ said r' tail, body.Yields said r' ∧ es = .begin (.ok ()) :: (said ++ tail) ∧
      .statement s answer ∈ said := by
  rcases yields_transaction h with ⟨e, rfl, rfl⟩ | ⟨e, rfl, rfl⟩ |
    ⟨said, ⟨e, hbody, rfl, rfl⟩ | ⟨a, hbody, ⟨e, rfl, rfl⟩ | ⟨rfl, rfl⟩⟩⟩
  · simp at hs
  · simp at hs
  · exact ⟨said, _, _, hbody, rfl, by simpa using hs⟩
  · exact ⟨said, _, _, hbody, rfl, by simpa using hs⟩
  · exact ⟨said, _, _, hbody, rfl, by simpa using hs⟩

/-- The commit is tried only after the conversation has come to its value. -/
theorem Strict.exists_body_of_commit (strict : body.Strict)
    (h : (connected (transaction body)).Yields es r) {answer : Except DatabaseError Unit}
    (hcommit : .commit answer ∈ es) :
    ∃ said a tail, body.Yields said (.ok a) ∧
      es = .begin (.ok ()) :: (said ++ .commit answer :: tail) := by
  rcases yields_transaction h with ⟨e, rfl, rfl⟩ | ⟨e, rfl, rfl⟩ |
    ⟨said, ⟨e, hbody, rfl, rfl⟩ | ⟨a, hbody, ⟨e, rfl, rfl⟩ | ⟨rfl, rfl⟩⟩⟩
  · simp at hcommit
  · simp at hcommit
  · simp [commit_notMem_of_statements (strict.statements hbody)] at hcommit
  · obtain rfl : answer = .error e := by
      simpa [commit_notMem_of_statements (strict.statements hbody)] using hcommit
    exact ⟨said, a, _, hbody, rfl⟩
  · obtain rfl : answer = .ok () := by
      simpa [commit_notMem_of_statements (strict.statements hbody)] using hcommit
    exact ⟨said, a, _, hbody, rfl⟩

/-- A value is given only after the commit has succeeded. -/
theorem exists_body_of_ok {a : α} (h : (connected (transaction body)).Yields es (.ok a)) :
    ∃ said, body.Yields said (.ok a) ∧ es = .begin (.ok ()) :: (said ++ [.commit (.ok ())]) := by
  rcases yields_transaction h with ⟨e, rfl, hr⟩ | ⟨e, rfl, hr⟩ |
    ⟨said, ⟨e, hbody, rfl, hr⟩ | ⟨a', hbody, ⟨e, rfl, hr⟩ | ⟨rfl, hr⟩⟩⟩ <;> cases hr
  exact ⟨said, hbody, rfl⟩

end Conversation

/-! ## Inside the transactions -/

/-- How the role of the owner is looked up. -/
inductive RoleTalk (user : Uuid) : List Answered → Except AuthError String → Prop where
  | refused (e : DatabaseError) :
      RoleTalk user [.statement (.roleOf user) (.error e)] (.error (.persistence e))
  | unknown : RoleTalk user [.statement (.roleOf user) (.ok [])] (.error .invalidRefreshToken)
  | found (role : String) (roles : List String) :
      RoleTalk user [.statement (.roleOf user) (.ok (role :: roles))] (.ok role)

/-- How a token that was used before is answered. -/
inductive ContainTalk (user : Uuid) :
    List Answered → Except AuthError (Rotation × List Event) → Prop where
  /-- The sessions of the owner cannot be closed. -/
  | unclosed (e : DatabaseError) :
      ContainTalk user [.statement (.revokeUser user) (.error e)] (.error (.persistence e))
  /-- The sessions of the owner are closed. -/
  | closed (n : Nat) {said : List Answered} {role : Except AuthError String} :
      RoleTalk user said role →
      ContainTalk user (.statement (.revokeUser user) (.ok n) :: said)
        (role.map fun role => (⟨user, role, true⟩, [.reuseContained user n]))

/-- How a token that is good is replaced. -/
inductive ReplaceTalk (user : Uuid) (old new : String) (expiresAt : Instant) (client : ClientInfo) :
    List Answered → Except AuthError (Rotation × List Event) → Prop where
  /-- The new record cannot be stored. -/
  | unstored (e : DatabaseError) :
      ReplaceTalk user old new expiresAt client
        [.statement (.insertRefresh user new expiresAt client) (.error e)] (.error (.persistence e))
  /-- The old record cannot be marked as replaced. -/
  | unmarked (n : Nat) (e : DatabaseError) :
      ReplaceTalk user old new expiresAt client
        [.statement (.insertRefresh user new expiresAt client) (.ok n),
          .statement (.markReplaced old new) (.error e)]
        (.error (.persistence e))
  /-- The old record is replaced by the new one. -/
  | replaced (n n' : Nat) {said : List Answered} {role : Except AuthError String} :
      RoleTalk user said role →
      ReplaceTalk user old new expiresAt client
        (.statement (.insertRefresh user new expiresAt client) (.ok n) ::
          .statement (.markReplaced old new) (.ok n') :: said)
        (role.map fun role => (⟨user, role, false⟩, []))

/-- How a refresh token is presented for a new one. -/
inductive RotateTalk (old new : String) (expiresAt : Instant) (client : ClientInfo) :
    List Answered → Except AuthError (Rotation × List Event) → Prop where
  /-- The record cannot be read. -/
  | unread (e : DatabaseError) :
      RotateTalk old new expiresAt client [.statement (.lockRefresh old) (.error e)]
        (.error (.persistence e))
  /-- There is no record. -/
  | unknown :
      RotateTalk old new expiresAt client [.statement (.lockRefresh old) (.ok [])]
        (.error .invalidRefreshToken)
  /-- The record is revoked. -/
  | reused (row : LockedRefresh) (rows : List LockedRefresh) {said : List Answered}
      {r : Except AuthError (Rotation × List Event)} :
      row.revoked = true → ContainTalk row.user said r →
      RotateTalk old new expiresAt client
        (.statement (.lockRefresh old) (.ok (row :: rows)) :: said) r
  /-- The record is not revoked, but it is no longer good. -/
  | expired (row : LockedRefresh) (rows : List LockedRefresh) :
      row.revoked = false → row.expired = true →
      RotateTalk old new expiresAt client [.statement (.lockRefresh old) (.ok (row :: rows))]
        (.error .invalidRefreshToken)
  /-- The record is good. -/
  | good (row : LockedRefresh) (rows : List LockedRefresh) {said : List Answered}
      {r : Except AuthError (Rotation × List Event)} :
      row.revoked = false → row.expired = false →
      ReplaceTalk row.user old new expiresAt client said r →
      RotateTalk old new expiresAt client
        (.statement (.lockRefresh old) (.ok (row :: rows)) :: said) r

/-- How a reset token is used up. -/
inductive ConsumeTalk (digest : String) : List Answered → Except AuthError Uuid → Prop where
  /-- The record cannot be read. -/
  | unread (e : DatabaseError) :
      ConsumeTalk digest [.statement (.lockReset digest) (.error e)] (.error (.persistence e))
  /-- There is no record that is still good. -/
  | unknown :
      ConsumeTalk digest [.statement (.lockReset digest) (.ok [])] (.error .invalidOrExpiredToken)
  /-- The record cannot be marked as used. -/
  | unmarked (user : Uuid) (users : List Uuid) (e : DatabaseError) :
      ConsumeTalk digest
        [.statement (.lockReset digest) (.ok (user :: users)),
          .statement (.markUsed digest) (.error e)]
        (.error (.persistence e))
  /-- The record is marked as used. -/
  | used (user : Uuid) (users : List Uuid) (n : Nat) :
      ConsumeTalk digest
        [.statement (.lockReset digest) (.ok (user :: users)),
          .statement (.markUsed digest) (.ok n)]
        (.ok user)

section Talks

variable {user : Uuid} {old new digest : String} {expiresAt : Instant} {client : ClientInfo}
  {r : Except AuthError (Rotation × List Event)} {role : Except AuthError String}

/-- What the reading of a role says to the database and comes to, in each of its outcomes. -/
theorem roleTalk (h : (fetchRole user).Yields es role) :
    RoleTalk user es role := by
  unfold fetchRole at h
  rw [Conversation.first?_bind] at h
  rcases Conversation.yields_send_bind h with ⟨e, rfl, rfl⟩ | ⟨rows, rest, rfl, hrest⟩
  · exact .refused e
  cases rows with
  | nil =>
    obtain ⟨rfl, rfl⟩ := Conversation.yields_throw hrest
    exact .unknown
  | cons role roles =>
    obtain ⟨rfl, rfl⟩ := Conversation.yields_pure hrest
    exact .found role roles

/-- What the containment of a reused token says to the database, in each of its outcomes. -/
theorem containTalk (h : (containReuse user).Yields es r) : ContainTalk user es r := by
  rcases Conversation.yields_send_bind h with ⟨e, rfl, rfl⟩ | ⟨n, said, rfl, hclosed⟩
  · exact .unclosed e
  · rw [bind_pure_comp] at hclosed
    obtain ⟨role, hrole, rfl⟩ := Conversation.yields_map hclosed
    exact .closed n (roleTalk hrole)

/-- What the replacement of a live token says to the database, in each of its outcomes. -/
theorem replaceTalk (h : (replaceLocked user old new expiresAt client).Yields es r) :
    ReplaceTalk user old new expiresAt client es r := by
  rcases Conversation.yields_send_bind h with ⟨e, rfl, rfl⟩ | ⟨n, rest, rfl, hstored⟩
  · exact .unstored e
  rcases Conversation.yields_send_bind hstored with ⟨e, rfl, rfl⟩ | ⟨n', said, rfl, hmarked⟩
  · exact .unmarked n e
  · rw [bind_pure_comp] at hmarked
    obtain ⟨role, hrole, rfl⟩ := Conversation.yields_map hmarked
    exact .replaced n n' (roleTalk hrole)

/-- What a rotation says to the database under its lock, in each of its outcomes. -/
theorem rotateTalk (h : (rotateLocked old new expiresAt client).Yields es r) :
    RotateTalk old new expiresAt client es r := by
  unfold rotateLocked at h
  rw [Conversation.first?_bind] at h
  rcases Conversation.yields_send_bind h with ⟨e, rfl, rfl⟩ | ⟨rows, said, rfl, hrow⟩
  · exact .unread e
  cases rows with
  | nil =>
    obtain ⟨rfl, rfl⟩ := Conversation.yields_throw hrow
    exact .unknown
  | cons row rows =>
    simp only [List.head?_cons] at hrow
    split at hrow
    · next hrevoked => exact .reused row rows hrevoked (containTalk hrow)
    · next hrevoked =>
      rw [Bool.not_eq_true] at hrevoked
      split at hrow
      · next hexpired =>
        obtain ⟨rfl, rfl⟩ := Conversation.yields_throw hrow
        exact .expired row rows hrevoked hexpired
      · next hexpired =>
        rw [Bool.not_eq_true] at hexpired
        exact .good row rows hrevoked hexpired (replaceTalk hrow)

/-- What the use of a reset token says to the database under its lock, in each of its outcomes. -/
theorem consumeTalk {r : Except AuthError Uuid} (h : (consumeLocked digest).Yields es r) :
    ConsumeTalk digest es r := by
  unfold consumeLocked at h
  rw [Conversation.first?_bind] at h
  rcases Conversation.yields_send_bind h with ⟨e, rfl, rfl⟩ | ⟨users, rest, rfl, huser⟩
  · exact .unread e
  cases users with
  | nil =>
    obtain ⟨rfl, rfl⟩ := Conversation.yields_throw huser
    exact .unknown
  | cons user users =>
    rcases Conversation.yields_send_bind huser with ⟨e, rfl, rfl⟩ | ⟨n, rest, rfl, hmarked⟩
    · exact .unmarked user users e
    · obtain ⟨rfl, rfl⟩ := Conversation.yields_pure hmarked
      exact .used user users n

/-! ## What is sent for which record -/

/-- The messages that may be sent once a record was locked that shows as `row`. -/
def Allowed (old new : String) (expiresAt : Instant) (client : ClientInfo) (row : LockedRefresh) :
    Answered → Prop
  | .statement (.roleOf user) _ => user = row.user
  | .statement (.revokeUser user) _ => row.revoked = true ∧ user = row.user
  | .statement (.insertRefresh user digest t c) _ =>
    (row.revoked = false ∧ row.expired = false) ∧ user = row.user ∧ digest = new ∧ t = expiresAt ∧
      c = client
  | .statement (.markReplaced digest replacedBy) _ =>
    (row.revoked = false ∧ row.expired = false) ∧ digest = old ∧ replacedBy = new
  | _ => False

/-- The statements that change records, all carried out, by the record that was locked. -/
inductive Work (old new : String) (expiresAt : Instant) (client : ClientInfo)
    (row : LockedRefresh) : List Answered → Prop where
  /-- A revoked record: the sessions of its owner are closed. -/
  | close (revoked : row.revoked = true) (n : Nat) :
      Work old new expiresAt client row [.statement (.revokeUser row.user) (.ok n)]
  /-- A good record: it is replaced by the new one. -/
  | replace (good : row.revoked = false ∧ row.expired = false) (n n' : Nat) :
      Work old new expiresAt client row
        [.statement (.insertRefresh row.user new expiresAt client) (.ok n),
          .statement (.markReplaced old new) (.ok n')]

variable {row : LockedRefresh}

/-- Every statement of the work that a commit confirms was answered with a success. -/
theorem Work.succeeded (h : Work old new expiresAt client row es) : ∀ x ∈ es, x.Succeeded := by
  cases h with
  | close revoked n => exact List.forall_mem_singleton.2 trivial
  | replace good n n' => exact List.forall_mem_cons.2 ⟨trivial, List.forall_mem_singleton.2 trivial⟩

theorem Allowed.isStatement {x : Answered} (h : Allowed old new expiresAt client row x) :
    x.IsStatement := by
  cases x with
  | statement s answer => exact trivial
  | _ => exact h.elim

theorem RoleTalk.allowed (h : RoleTalk row.user es role) :
    ∀ x ∈ es, Allowed old new expiresAt client row x := by
  cases h <;> exact List.forall_mem_singleton.2 rfl

theorem ContainTalk.allowed (hrevoked : row.revoked = true) (h : ContainTalk row.user es r) :
    ∀ x ∈ es, Allowed old new expiresAt client row x := by
  cases h with
  | unclosed e => exact List.forall_mem_singleton.2 ⟨hrevoked, rfl⟩
  | closed n hrole => exact List.forall_mem_cons.2 ⟨⟨hrevoked, rfl⟩, hrole.allowed⟩

theorem ReplaceTalk.allowed (hgood : row.revoked = false ∧ row.expired = false)
    (h : ReplaceTalk row.user old new expiresAt client es r) :
    ∀ x ∈ es, Allowed old new expiresAt client row x := by
  have hstore (answer : Except DatabaseError Nat) : Allowed old new expiresAt client row
      (.statement (.insertRefresh row.user new expiresAt client) answer) :=
    ⟨hgood, rfl, rfl, rfl, rfl⟩
  have hmark (answer : Except DatabaseError Nat) : Allowed old new expiresAt client row
      (.statement (.markReplaced old new) answer) :=
    ⟨hgood, rfl, rfl⟩
  cases h with
  | unstored e => exact List.forall_mem_singleton.2 (hstore _)
  | unmarked n e => exact List.forall_mem_cons.2 ⟨hstore _, List.forall_mem_singleton.2 (hmark _)⟩
  | replaced n n' hrole =>
    exact List.forall_mem_cons.2 ⟨hstore _, List.forall_mem_cons.2 ⟨hmark _, hrole.allowed⟩⟩

/-- The first statement locks the record; what follows is what the record allows. -/
theorem RotateTalk.exists_lock (h : RotateTalk old new expiresAt client es r) :
    ∃ answer rest, es = .statement (.lockRefresh old) answer :: rest ∧
      ∀ x ∈ rest, ∃ row rows, answer = .ok (row :: rows) ∧
        Allowed old new expiresAt client row x := by
  have nothing (answer : Except DatabaseError (List LockedRefresh)) :
      ∀ x ∈ ([] : List Answered), ∃ row rows, answer = .ok (row :: rows) ∧
        Allowed old new expiresAt client row x := by simp
  cases h with
  | unread e => exact ⟨_, _, rfl, nothing _⟩
  | unknown => exact ⟨_, _, rfl, nothing _⟩
  | expired row rows hrevoked hexpired => exact ⟨_, _, rfl, nothing _⟩
  | reused row rows hrevoked hsaid =>
    exact ⟨_, _, rfl, fun x hx => ⟨row, rows, rfl, hsaid.allowed hrevoked x hx⟩⟩
  | good row rows hrevoked hexpired hsaid =>
    exact ⟨_, _, rfl, fun x hx => ⟨row, rows, rfl, hsaid.allowed ⟨hrevoked, hexpired⟩ x hx⟩⟩

theorem RoleTalk.eq_of_ok {a : String} (h : RoleTalk user es (.ok a)) :
    ∃ roles, es = [.statement (.roleOf user) (.ok (a :: roles))] := by
  cases h with
  | found role roles => exact ⟨roles, rfl⟩

/-- A rotation is the outcome only after all the work for the record was carried out. -/
theorem RotateTalk.exists_work {rotation : Rotation} {events : List Event}
    (h : RotateTalk old new expiresAt client es (.ok (rotation, events))) :
    ∃ row rows work roles, Work old new expiresAt client row work ∧
      es = .statement (.lockRefresh old) (.ok (row :: rows)) ::
        (work ++ [.statement (.roleOf row.user) (.ok (rotation.role :: roles))]) ∧
      rotation.user = row.user ∧ rotation.reused = row.revoked := by
  generalize hr : Except.ok (rotation, events) = r at h
  cases h with
  | unread e => cases hr
  | unknown => cases hr
  | expired row rows hrevoked hexpired => cases hr
  | reused row rows hrevoked hsaid =>
    cases hsaid with
    | unclosed e => cases hr
    | @closed n said role hrole =>
      cases role with
      | error e => cases hr
      | ok role =>
        cases hr
        obtain ⟨roles, rfl⟩ := hrole.eq_of_ok
        exact ⟨row, rows, _, roles, .close hrevoked n, rfl, rfl, hrevoked.symm⟩
  | good row rows hrevoked hexpired hsaid =>
    cases hsaid with
    | unstored e => cases hr
    | unmarked n e => cases hr
    | @replaced n n' said role hrole =>
      cases role with
      | error e => cases hr
      | ok role =>
        cases hr
        obtain ⟨roles, rfl⟩ := hrole.eq_of_ok
        exact ⟨row, rows, _, roles, .replace ⟨hrevoked, hexpired⟩ n n', rfl, rfl, hrevoked.symm⟩

/-- What is done to replace a refresh token is strict. -/
theorem strict_rotateLocked (old new : String) (expiresAt : Instant) (client : ClientInfo) :
    (rotateLocked old new expiresAt client).Strict where
  statements {said r} h x hx := by
    obtain ⟨answer, rest, rfl, hrest⟩ := (rotateTalk h).exists_lock
    rcases List.mem_cons.1 hx with rfl | hx
    · exact trivial
    · obtain ⟨row, rows, -, hallowed⟩ := hrest x hx
      exact hallowed.isStatement
  carriedOut {said a} h x hx := by
    obtain ⟨row, rows, work, roles, hwork, rfl, -, -⟩ := (rotateTalk h).exists_work
    rcases List.mem_cons.1 hx with rfl | hx
    · exact trivial
    rcases List.mem_append.1 hx with hx | hx
    · exact hwork.succeeded x hx
    · obtain rfl := List.mem_singleton.1 hx
      exact trivial

theorem ConsumeTalk.eq_of_ok {user : Uuid} (h : ConsumeTalk digest es (.ok user)) :
    ∃ users n, es = [.statement (.lockReset digest) (.ok (user :: users)),
      .statement (.markUsed digest) (.ok n)] := by
  cases h with
  | used user users n => exact ⟨users, n, rfl⟩

/-- What is done to use up a reset token is strict. -/
theorem strict_consumeLocked (digest : String) : (consumeLocked digest).Strict where
  statements {said r} h := by
    cases consumeTalk h with
    | unread e => exact List.forall_mem_singleton.2 trivial
    | unknown => exact List.forall_mem_singleton.2 trivial
    | unmarked user users e =>
      exact List.forall_mem_cons.2 ⟨trivial, List.forall_mem_singleton.2 trivial⟩
    | used user users n =>
      exact List.forall_mem_cons.2 ⟨trivial, List.forall_mem_singleton.2 trivial⟩
  carriedOut {said a} h := by
    obtain ⟨users, n, rfl⟩ := (consumeTalk h).eq_of_ok
    exact List.forall_mem_cons.2 ⟨trivial, List.forall_mem_singleton.2 trivial⟩

end Talks

/-! ## The two calls -/

/-- The first statement of the transaction locked a record, which shows as `row`. -/
def Locked (old : String) (row : LockedRefresh) (es : List Answered) : Prop :=
  ∃ rows rest, es = .begin (.ok ()) :: .statement (.lockRefresh old) (.ok (row :: rows)) :: rest

/-- The row that a conversation locked under a digest is the only one. -/
theorem Locked.unique {old : String} {row row' : LockedRefresh} (h : Locked old row es)
    (h' : Locked old row' es) : row = row' := by
  obtain ⟨rows, rest, rfl⟩ := h
  obtain ⟨rows', rest', h'⟩ := h'
  have hanswer := (List.cons.inj (List.cons.inj h').2).1
  injection hanswer with hs hrows
  exact (List.cons.inj (Except.ok.inj hrows)).1

/-- What the transaction that replaces a refresh token does for which record, and what the call
gives then. -/
structure Rotates (old new : String) (expiresAt : Instant) (client : ClientInfo)
    (es : List Answered) (result : Except AuthError Rotation) : Prop where
  /-- A new record is stored only for the owner of a locked record that is good. -/
  stores : ∀ {user digest t c answer}, .statement (.insertRefresh user digest t c) answer ∈ es →
    ∃ row, Locked old row es ∧ row.revoked = false ∧ row.expired = false ∧ user = row.user
  /-- Sessions are closed only for the owner of a locked record that is revoked. -/
  closes : ∀ {user answer}, .statement (.revokeUser user) answer ∈ es →
    ∃ row, Locked old row es ∧ row.revoked = true ∧ user = row.user
  /-- No transaction does both. -/
  exclusive : ∀ {user digest t c answer user' answer'},
    .statement (.insertRefresh user digest t c) answer ∈ es →
    .statement (.revokeUser user') answer' ∉ es
  /-- The role is that of the owner of the locked record. -/
  reads : ∀ {user answer}, .statement (.roleOf user) answer ∈ es →
    ∃ row, Locked old row es ∧ user = row.user
  /-- The commit is tried only after all the work for the record, and after a role was found. -/
  commits : ∀ {answer}, .commit answer ∈ es → ∃ row rows work role roles tail,
    Work old new expiresAt client row work ∧
    es = .begin (.ok ()) :: .statement (.lockRefresh old) (.ok (row :: rows)) ::
      (work ++ .statement (.roleOf row.user) (.ok (role :: roles)) :: .commit answer :: tail)
  /-- The call gives the owner, the role that was found, and whether the record was revoked. -/
  gives : ∀ {rotation}, result = .ok rotation → ∃ row rows work roles,
    Work old new expiresAt client row work ∧
    es = .begin (.ok ()) :: .statement (.lockRefresh old) (.ok (row :: rows)) ::
      (work ++ [.statement (.roleOf row.user) (.ok (rotation.role :: roles)), .commit (.ok ())]) ∧
    rotation.user = row.user ∧ rotation.reused = row.revoked

/-- What the transaction that uses up a reset token does, and what the call gives then. -/
structure Consumes (digest : String) (es : List Answered) (result : Except AuthError Uuid) :
    Prop where
  /-- The commit is tried only after the record was found good and was marked as used. -/
  commits : ∀ {answer}, .commit answer ∈ es → ∃ user users n tail,
    es = .begin (.ok ()) :: .statement (.lockReset digest) (.ok (user :: users)) ::
      .statement (.markUsed digest) (.ok n) :: .commit answer :: tail
  /-- The call gives the owner of the record. -/
  gives : ∀ {user}, result = .ok user → ∃ users n,
    es = [.begin (.ok ()), .statement (.lockReset digest) (.ok (user :: users)),
      .statement (.markUsed digest) (.ok n), .commit (.ok ())]

section Calls

variable {old new digest : String} {expiresAt : Instant} {client : ClientInfo}

/-- A rotation first locks its row, and then says only what that row allows. -/
theorem exists_allowed {r : Except AuthError (Rotation × List Event)}
    (h : (Conversation.connected (Conversation.transaction
      (rotateLocked old new expiresAt client))).Yields es r)
    {s : Statement} {answer : Except DatabaseError s.Result} (hs : .statement s answer ∈ es)
    (hlock : s ≠ .lockRefresh old) :
    ∃ row, Locked old row es ∧ Allowed old new expiresAt client row (.statement s answer) := by
  obtain ⟨said, r', tail, hbody, rfl, hsaid⟩ := Conversation.exists_body_of_statement h hs
  obtain ⟨found, rest, rfl, hrest⟩ := (rotateTalk hbody).exists_lock
  rcases List.mem_cons.1 hsaid with heq | hmem
  · cases heq
    exact absurd rfl hlock
  · obtain ⟨row, rows, rfl, hallowed⟩ := hrest _ hmem
    exact ⟨row, ⟨rows, _, rfl⟩, hallowed⟩

theorem rotates {r : Except AuthError (Rotation × List Event)}
    (h : (Conversation.connected (Conversation.transaction
      (rotateLocked old new expiresAt client))).Yields es r) :
    Rotates old new expiresAt client es (r.map Prod.fst) where
  stores hs := by
    obtain ⟨row, hlocked, hgood, howner, -⟩ := exists_allowed h hs (by simp)
    exact ⟨row, hlocked, hgood.1, hgood.2, howner⟩
  closes hs := by
    obtain ⟨row, hlocked, hrevoked, howner⟩ := exists_allowed h hs (by simp)
    exact ⟨row, hlocked, hrevoked, howner⟩
  exclusive hs hs' := by
    obtain ⟨row, hlocked, hgood, -⟩ := exists_allowed h hs (by simp)
    obtain ⟨row', hlocked', hrevoked, -⟩ := exists_allowed h hs' (by simp)
    obtain rfl := hlocked.unique hlocked'
    exact Bool.noConfusion (hgood.1.symm.trans hrevoked)
  reads hs := by
    obtain ⟨row, hlocked, howner⟩ := exists_allowed h hs (by simp)
    exact ⟨row, hlocked, howner⟩
  commits hcommit := by
    obtain ⟨said, ⟨rotation, events⟩, tail, hbody, rfl⟩ :=
      (strict_rotateLocked old new expiresAt client).exists_body_of_commit h hcommit
    obtain ⟨row, rows, work, roles, hwork, rfl, -, -⟩ := (rotateTalk hbody).exists_work
    exact ⟨row, rows, work, rotation.role, roles, tail, hwork, by simp⟩
  gives {rotation} hr := by
    cases r with
    | error e => cases hr
    | ok result =>
      obtain ⟨rotation, events⟩ := result
      cases hr
      obtain ⟨said, hbody, rfl⟩ := Conversation.exists_body_of_ok h
      obtain ⟨row, rows, work, roles, hwork, rfl, howner, hreused⟩ :=
        (rotateTalk hbody).exists_work
      exact ⟨row, rows, work, roles, hwork, by simp, howner, hreused⟩

theorem consumes {r : Except AuthError Uuid}
    (h : (Conversation.connected (Conversation.transaction (consumeLocked digest))).Yields es r) :
    Consumes digest es r where
  commits hcommit := by
    obtain ⟨said, user, tail, hbody, rfl⟩ :=
      (strict_consumeLocked digest).exists_body_of_commit h hcommit
    obtain ⟨users, n, rfl⟩ := (consumeTalk hbody).eq_of_ok
    exact ⟨user, users, n, tail, rfl⟩
  gives hr := by
    subst hr
    obtain ⟨said, hbody, rfl⟩ := Conversation.exists_body_of_ok h
    obtain ⟨users, n, rfl⟩ := (consumeTalk hbody).eq_of_ok
    exact ⟨users, n, rfl⟩

end Calls

/-- **Replacing a refresh token and using up a reset token is done in one transaction, whatever the
database answers.**  All statements stand inside it.  The commit is tried once at most, after every
statement that the record asks for was carried out, and nothing but the rollback of a commit that
failed comes after it; the call succeeds exactly if the commit does. -/
theorem one_transaction (db : Database δ) (now : Instant) (s : Store δ) :
    (∀ old new expiresAt client,
      (backend db (.rotate old new expiresAt client) now s).2.1.sent =
        s.sent ++ (exchanged db (.rotate old new expiresAt client) s.state).map Answered.message ∧
      Transacted (exchanged db (.rotate old new expiresAt client) s.state)
        (backend db (.rotate old new expiresAt client) now s).1 ∧
      Rotates old new expiresAt client (exchanged db (.rotate old new expiresAt client) s.state)
        (backend db (.rotate old new expiresAt client) now s).1) ∧
    ∀ digest,
      (backend db (.consumeReset digest) now s).2.1.sent =
        s.sent ++ (exchanged db (.consumeReset digest) s.state).map Answered.message ∧
      Transacted (exchanged db (.consumeReset digest) s.state)
        (backend db (.consumeReset digest) now s).1 ∧
      Consumes digest (exchanged db (.consumeReset digest) s.state)
        (backend db (.consumeReset digest) now s).1 := by
  refine ⟨fun old new expiresAt client => ?_, fun digest => ?_⟩
  · have talk : (Conversation.connected (Conversation.transaction
        (rotateLocked old new expiresAt client))).Yields _ _ :=
      Script.yields_transcript db _ s.state
    refine ⟨sent_backend db _ now s, ?_, ?_⟩
    · rw [backend_fst]
      exact ((strict_rotateLocked old new expiresAt client).transacted talk).map Prod.fst
    · rw [backend_fst]
      exact rotates talk
  · have talk : (Conversation.connected (conversation (.consumeReset digest))).Yields _ _ :=
      Script.yields_transcript db _ s.state
    obtain ⟨r, hr, hresult⟩ := Conversation.yields_connected_map talk
    have hfst : (backend db (.consumeReset digest) now s).1 = r := by
      rw [backend_fst]
      refine (congrArg (Except.map Prod.fst) hresult).trans ?_
      cases r <;> rfl
    rw [hfst]
    exact ⟨sent_backend db _ now s, (strict_consumeLocked digest).transacted hr, consumes hr⟩

/-- A database that finds one good reset token and refuses every commit. -/
def refusingCommits : Database Unit where
  acquire _ := .ok ()
  begin _ := (.ok (), ())
  commit _ := (.error (.refused "could not write to the log"), ())
  rollback _ := ()
  execute
    | .lockReset _, _ => (.ok [.ofNat 1], ())
    | .markUsed _, _ => (.ok 1, ())
    | _, _ => (.error (.refused "no such table"), ())

/-- A commit that fails is not the last message: the transaction is still to be given up. -/
theorem commit_not_always_last :
    ¬ ∀ digest,
      Message.commit ∈ (backend refusingCommits (.consumeReset digest) 0 ⟨(), []⟩).2.1.sent →
      (backend refusingCommits (.consumeReset digest) 0 ⟨(), []⟩).2.1.sent.getLast? =
        some .commit := by
  intro last
  exact absurd (last "digest" (by decide)) (by decide)

end Gatehouse.Sql
