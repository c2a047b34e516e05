/-
  Closing all sessions of a user while others go on.

  To close the sessions of a user, the store revokes in one statement every refresh token of the
  user that is not revoked.  The statement sees the records that are committed when it starts, and
  it waits for those that others hold.  A rotation that is under way then has locked the record of
  the old token and may have added the record of a new one, which the statement does not see.  If
  the rotation is committed before the statement is done, then the old token is revoked, and the new
  one stays.

  That is the only way.  The proof follows the statement through the records of the user that are in
  the table and not revoked (`Covered`): while it is under way, each of them is still to be visited,
  or was revoked by its transaction; after that, each was revoked by its transaction; and after the
  commit there are none.  No commit of another session breaks this, unless it adds a record for the
  user.  Only a rotation does so, and it holds the record of the old token, which is not revoked in
  the table (`Sound.exists_unrevoked`).  So the statement is still waiting for that record, or it
  was not started yet.
-/
import Gatehouse.Proofs.Sql.Exclusion

namespace Gatehouse.Sql

variable {ι : Type} {jobs : ι → Job} {roles : Uuid → Option String}

/-! ## What is to be closed -/

/-- The user has a refresh token with the digest that is not revoked. -/
def Versions.Unrevoked (table : Versions) (user : Uuid) (digest : String) : Prop :=
  ∃ r, table (.refresh digest) = some r ∧ r.user = user ∧ r.revoked = false

/-- All refresh tokens of the user are revoked. -/
def Versions.Closed (table : Versions) (user : Uuid) : Prop :=
  ∀ digest r, table (.refresh digest) = some r → r.user = user → r.revoked = true

theorem Versions.closed_iff {table : Versions} {user : Uuid} :
    table.Closed user ↔ ∀ digest, ¬ table.Unrevoked user digest := by
  constructor
  · rintro h digest ⟨r, htable, howner, hrevoked⟩
    simp [h digest r htable howner] at hrevoked
  · intro h digest r htable howner
    cases hrevoked : r.revoked with
    | true => rfl
    | false => exact absurd ⟨r, htable, howner, hrevoked⟩ (h digest)

/-- The job has been told that all refresh tokens of the user are revoked. -/
def Job.Closes (user : Uuid) : (job : Job) → job.Reply → Prop
  | .call (.rotate ..), reply => reply.1.user = user ∧ reply.1.reused = true
  | .call (.revokeAll user'), _ => user' = user
  | _, _ => False

/-- The job is a call that ends refresh tokens: it rotates one, revokes one, or closes the sessions
of a user. -/
def Job.EndsTokens (job : Job) : Prop :=
  (∃ old new expiresAt client, job = .call (.rotate old new expiresAt client)) ∨
    (∃ digest replacedBy, job = .call (.revoke digest replacedBy)) ∨
    ∃ user, job = .call (.revokeAll user)

/-- The transaction has revoked the refresh tokens of the user. -/
def RevokesUser (log : List Answered) (user : Uuid) : Prop :=
  ∃ n, .statement (.revokeUser user) (.ok n) ∈ log

/-! ## Who adds a record -/

/-- What a job says that adds a refresh record for a user: either it is asked to, or it has locked a
record of the user that was not revoked, and it revokes nothing else. -/
theorem Job.Keeps.of_insertRefresh {job : Job} {log : List Answered} (h : job.Keeps log)
    {user : Uuid} {digest : String} {expiresAt : Instant} {client : ClientInfo} {n : Nat}
    (hmem : .statement (.insertRefresh user digest expiresAt client) (.ok n) ∈ log) :
    job = .call (.insertRefresh digest user expiresAt client) ∨
      (∃ x rest old, log = x :: rest ∧ x.Finds (.refresh old) user) ∧
        ∀ user', ¬ RevokesUser log user' := by
  have alone (hs : ∃ s r, job.statement? = some s ∧ log = [.statement s (.ok r)]) :
      job.statement? = some (.insertRefresh user digest expiresAt client) := by
    obtain ⟨s, r, hjob, rfl⟩ := hs
    obtain ⟨rfl, -⟩ : Statement.insertRefresh user digest expiresAt client = s ∧ _ := by
      simpa using hmem
    exact hjob
  cases job with
  | call c =>
    cases c with
    | rotate old new expiresAt' client' =>
      obtain ⟨⟨rotation, events⟩, hyields⟩ := h
      cases rotated hyields with
      | contained rows revoked n role roles => simp at hmem
      | @replaced row rows unrevoked n n' role roles =>
        obtain rfl : user = row.user := by simp_all
        refine Or.inr ⟨⟨_, _, old, rfl, rfl, unrevoked, rfl⟩, fun user' => ?_⟩
        rintro ⟨m, hm⟩
        simp at hm
    | consumeReset digest' =>
      obtain ⟨user', hyields⟩ := h
      obtain ⟨users, n', rfl⟩ := (consumeTalk hyields).eq_of_ok
      simp at hmem
    | insertRefresh digest' user' expiresAt' client' =>
      have hjob := Option.some.inj (alone h)
      injection hjob with huser hdigest hexpires hclient
      subst huser hdigest hexpires hclient
      exact Or.inl rfl
    | _ => cases alone h
  | findRefresh digest' => cases alone h
  | createUser email name hash role => cases alone h

/-- A job that has been told so has committed a transaction that revokes the user's tokens. -/
theorem Job.Stage.exists_revokesUser {job : Job} {kept : List Answered → Prop}
    {σ : Session (Except AuthError job.Reply)} (stage : job.Stage kept σ) {reply : job.Reply}
    (hdone : σ.script = .done (.ok reply)) {user : Uuid} (h : job.Closes user reply) :
    ∃ log, kept log ∧ RevokesUser log user := by
  cases job with
  | call c =>
    cases c with
    | rotate old new expiresAt client =>
      obtain ⟨rfl, hreused⟩ := h
      rcases InTransaction.of_done stage hdone with
        ⟨e, he⟩ | ⟨⟨rotation, events⟩, log, hr, hlog, hy⟩
      · cases he
      · cases hr
        refine ⟨log, hlog, ?_⟩
        cases rotated hy with
        | contained rows revoked n role roles => exact ⟨n, by simp⟩
        | replaced rows unrevoked n n' role roles => cases hreused
    | revokeAll user' =>
      obtain rfl : user' = user := h
      obtain ⟨s, hs, hstage⟩ := stage
      obtain rfl := Option.some.inj hs
      obtain ⟨n, hn⟩ := hstage.exists_kept hdone
      exact ⟨_, hn, n, List.mem_singleton_self _⟩
    | _ => exact h.elim
  | findRefresh digest' => exact h.elim
  | createUser email name hash role => exact h.elim

/-! ## The statement and its session -/

namespace Session

variable {α : Type} {table : Versions} {free : Place → Prop} {user : Uuid} {σ σ' : Session α}

/-- The session has dealt with the unrevoked refresh tokens of the user in the table, or is about
to, if it revokes all of them. -/
structure Covers (table : Versions) (user : Uuid) (σ : Session α) : Prop where
  /-- The statement still has to visit the record, or its session has revoked it. -/
  underWay : ∀ {q}, σ.UnderWay (.revokeUser user) q → ∀ {digest}, table.Unrevoked user digest →
    .refresh digest ∈ q.left ∨ σ.HoldsSpent (.refresh digest)
  /-- The statement was carried out, and the session has revoked the record. -/
  done : σ.failed = false → RevokesUser σ.log user → ∀ {digest}, table.Unrevoked user digest →
    σ.HoldsSpent (.refresh digest)

/-- Others may change the table, if they leave no more unrevoked tokens of the user. -/
theorem Covers.frame {table' : Versions} (covers : σ.Covers table user)
    (fewer : ∀ {digest}, table'.Unrevoked user digest → table.Unrevoked user digest) :
    σ.Covers table' user where
  underWay h _ hdigest := covers.underWay h (fewer hdigest)
  done hsound h _ hdigest := covers.done hsound h (fewer hdigest)

theorem covers_of_idle (hsearch : σ.search = none) (hlog : σ.failed = false → σ.log = []) :
    σ.Covers table user where
  underWay h := by simp [UnderWay, hsearch] at h
  done hsound h := by simp [RevokesUser, hlog hsound] at h

/-- An unrevoked token of the user in the table was revoked by the session, or the statement picks
its record. -/
theorem Good.spent_or_picks (good : σ.Good table) {digest : String}
    (h : table.Unrevoked user digest) (stamp : Stamp) :
    σ.HoldsSpent (.refresh digest) ∨ ∃ r r', σ.held.over table (.refresh digest) = some r ∧
      (Statement.revokeUser user).effect stamp (.refresh digest) (some r) = some r' := by
  obtain ⟨r, htable, howner, hrevoked⟩ := h
  cases hheld : σ.held (.refresh digest) with
  | none =>
    have hover := (Versions.over_of_none hheld).trans htable
    exact Or.inr ⟨r, _, hover, Statement.effect_revokeUser.2 ⟨⟨howner, hrevoked⟩, rfl⟩⟩
  | some r' =>
    have howner' : r'.user = user := (good.later htable hheld).owner.trans howner
    cases hrevoked' : r'.revoked with
    | true => exact Or.inl ⟨r', hheld, hrevoked'⟩
    | false =>
      exact Or.inr ⟨r', _, Versions.over_of_some hheld,
        Statement.effect_revokeUser.2 ⟨⟨howner', hrevoked'⟩, rfl⟩⟩

/-- A record that the statement takes is one that its session has revoked. -/
theorem holdsSpent_taken_self {stamp : Stamp} {digest : String} {left picked : List Place}
    {r : RefreshRecord Uuid}
    (picks : (Statement.revokeUser user).effect stamp (.refresh digest)
      (σ.held.over table (.refresh digest)) = some r) :
    (σ.taken stamp (.refresh digest) left picked r).HoldsSpent (.refresh digest) := by
  refine ⟨r, held_taken_self, ?_⟩
  cases hover : σ.held.over table (.refresh digest) with
  | none =>
    rw [hover] at picks
    exact (Statement.stores_of_effect picks).elim
  | some r₀ =>
    rw [hover, Statement.effect_revokeUser] at picks
    exact picks.2 ▸ rfl

/-- **A move of a session that commits nothing.** -/
theorem Covers.move (covers : σ.Covers table user) (good : σ.Good table)
    (h : Moves (readCommitted roles) table free σ σ' none) : σ'.Covers table user := by
  cases h with
  | acquire h closed answer => exact covers_of_idle rfl fun _ => rfl
  | begin h closed answer => exact covers_of_idle rfl fun _ => rfl
  | refuse h void => exact covers_of_idle rfl fun _ => rfl
  | rollback h => exact covers_of_idle rfl fun _ => rfl
  | @start s next h idle sound stamp left found =>
    refine ⟨fun hs digest hdigest => ?_, covers.done⟩
    obtain ⟨rfl, rfl⟩ := hs.eq h rfl
    rcases good.spent_or_picks hdigest stamp with hspent | hpicks
    · exact Or.inr hspent
    · exact Or.inl ((found.2 _).2 hpicks)
  | @take s next h stamp p left picked searching unheld r picks =>
    refine ⟨fun hs digest hdigest => ?_, fun hsound hlog digest hdigest =>
      (covers.done hsound hlog hdigest).taken picks⟩
    obtain ⟨rfl, rfl⟩ := hs.eq h rfl
    rcases covers.underWay ⟨⟨next, h⟩, searching⟩ hdigest with hleft | hspent
    · rcases List.mem_cons.1 hleft with rfl | hleft
      · exact Or.inr (holdsSpent_taken_self picks)
      · exact Or.inl hleft
    · exact Or.inr (hspent.taken picks)
  | @skip s next h stamp p left picked searching unheld seeks passes =>
    refine ⟨fun hs digest hdigest => ?_, covers.done⟩
    obtain ⟨rfl, rfl⟩ := hs.eq h rfl
    rcases covers.underWay ⟨⟨next, h⟩, searching⟩ hdigest with hleft | hspent
    · rcases List.mem_cons.1 hleft with rfl | hleft
      · rcases good.spent_or_picks hdigest stamp with hspent | ⟨r, r', hover, heffect⟩
        · exact Or.inr hspent
        · rw [hover, heffect] at passes
          cases passes
      · exact Or.inl hleft
    · exact Or.inr hspent
  | @answer s next h opened stamp picked searched r gives =>
    refine ⟨fun hs => by simp [UnderWay] at hs, fun hsound hlog digest hdigest => ?_⟩
    obtain ⟨n, hmem⟩ := hlog
    rcases List.mem_append.1 hmem with hmem | hmem
    · exact covers.done hsound ⟨n, hmem⟩ hdigest
    · obtain ⟨rfl, -⟩ : Statement.revokeUser user = s ∧ _ := by simpa using hmem
      rcases covers.underWay ⟨⟨next, h⟩, searched⟩ hdigest with hleft | hspent
      · simp at hleft
      · exact hspent
  | @fail s next h e =>
    refine covers_of_idle rfl fun hsound => ?_
    have hclosed : σ.opened = false := hsound
    exact if_neg (by simp [hclosed])

/-- **A session that commits that it has revoked the user's tokens** has revoked all of them that
are not revoked in the table. -/
theorem Covers.spent_of_commit (covers : σ.Covers table user) {kept : Kept}
    (h : Moves (readCommitted roles) table free σ σ' (some kept)) (hlog : RevokesUser kept.log user)
    {digest : String} (hdigest : table.Unrevoked user digest) :
    σ.HoldsSpent (.refresh digest) := by
  cases h with
  | commit h opened sound answer => exact covers.done sound hlog hdigest
  | @alone s next h closed stamp picked searched r gives answer told =>
    obtain ⟨n, hmem⟩ := hlog
    obtain ⟨rfl, -⟩ : Statement.revokeUser user = s ∧ _ := by simpa using hmem
    rcases covers.underWay ⟨⟨next, h⟩, searched⟩ hdigest with hleft | hspent
    · simp at hleft
    · exact hspent

end Session

/-! ## All sessions -/

namespace Shared

variable {w : Shared jobs} {i m : ι} {user : Uuid}

/-- The session is about to add the record of a refresh token for the user. -/
def Adds (w : Shared jobs) (i : ι) (user : Uuid) (digest : String) : Prop :=
  w.table (.refresh digest) = none ∧
    ∃ r, (w.sessions i).held (.refresh digest) = some r ∧ r.user = user ∧ r.revoked = false

/-- A session closes the sessions of the user, while another one is about to add a record for the
user and to commit it. -/
def Overlap (w : Shared jobs) (m i : ι) (user : Uuid) (digest : String) : Prop :=
  i ≠ m ∧ (∃ q, (w.sessions m).UnderWay (.revokeUser user) q) ∧ w.Adds i user digest

/-- The session `i` has committed a record for the user while `m` was closing the user's
sessions. -/
def Escaped (passed : List (Shared jobs)) (w : Shared jobs) (m i : ι) (user : Uuid) : Prop :=
  ∃ w' ∈ passed, (∃ digest, w'.Overlap m i user digest) ∧
    ∃ c ∈ w.commits, c.session = i ∧ c.before = w'.table ∧ c.writes = (w'.sessions i).held

theorem Escaped.snoc {passed : List (Shared jobs)} {w' : Shared jobs}
    (h : Escaped passed w m i user) (hcommits : ∀ c ∈ w.commits, c ∈ w'.commits) :
    Escaped (passed ++ [w]) w' m i user := by
  obtain ⟨v, hv, hoverlap, c, hc, hkept⟩ := h
  exact ⟨v, List.mem_append_left _ hv, hoverlap, c, hcommits c hc, hkept⟩

variable [DecidableEq ι] {iso : Isolation} {σ : Session (Except AuthError (jobs i).Reply)}
  {kept : Kept}

/-- A refresh record of a user that is not revoked after a commit was there before, or it is
added. -/
theorem Sound.unrevoked_or_adds (sound : w.Sound)
    (moves : Moves iso w.table (w.Free i) (w.sessions i) σ (some kept)) {digest : String}
    (h : (w.after i σ (some kept)).table.Unrevoked user digest) :
    w.table.Unrevoked user digest ∧
        (∀ r, (w.sessions i).held (.refresh digest) = some r → r.revoked = false) ∨
      w.Adds i user digest := by
  obtain ⟨r, htable, howner, hrevoked⟩ := h
  have hover : (w.sessions i).held.over w.table (.refresh digest) = some r := by
    rw [← moves.writes_eq]
    exact htable
  cases hheld : (w.sessions i).held (.refresh digest) with
  | none =>
    rw [Versions.over_of_none hheld] at hover
    exact Or.inl ⟨⟨r, hover, howner, hrevoked⟩, fun r' hr' => by cases hr'⟩
  | some r' =>
    rw [Versions.over_of_some hheld] at hover
    obtain rfl := Option.some.inj hover
    cases hbefore : w.table (.refresh digest) with
    | none => exact Or.inr ⟨hbefore, r', hheld, howner, hrevoked⟩
    | some r₀ =>
      have hlater := (sound.good i).later hbefore hheld
      refine Or.inl ⟨⟨r₀, hbefore, hlater.owner.symm.trans howner, ?_⟩, fun r hr => ?_⟩
      · cases hr₀ : r₀.revoked with
        | false => rfl
        | true =>
          have hspent : r'.revoked = true := hlater.spent hr₀
          simp [hrevoked] at hspent
      · obtain rfl := Option.some.inj hr
        exact hrevoked

/-- A commit that adds a refresh record for the user, which nobody was asked to add, is that of a
rotation.  It holds a record of the user that is not revoked in the table, and it revokes no
others. -/
theorem Sound.exists_unrevoked (sound : w.Sound)
    (moves : Moves iso w.table (w.Free i) (w.sessions i) σ (some kept))
    (noIssue : ∀ i digest expiresAt client,
      jobs i ≠ .call (.insertRefresh digest user expiresAt client))
    {digest : String} (hadds : w.Adds i user digest) :
    (∃ old, w.table.Unrevoked user old ∧ ∃ r, (w.sessions i).held (.refresh old) = some r) ∧
      ∀ user', ¬ RevokesUser kept.log user' := by
  obtain ⟨hnone, r, hheld, rfl, hrevoked⟩ := hadds
  have fits := moves.fits (sound.good i)
  have keeps : (jobs i).Keeps kept.log :=
    ((sound.stage i).move moves fun h => logged_after_self (w := w) (σ := σ) h).2 rfl
  rw [← moves.writes_eq] at hheld ⊢
  obtain ⟨s, n, hmem, hstores⟩ := fits.stored hnone hheld
  cases s with
  | insertRefresh user digest' expiresAt client =>
    obtain ⟨-, rfl⟩ := hstores
    rcases keeps.of_insertRefresh hmem with hjob | ⟨⟨x, rest, old, hlog, hfinds⟩, hnot⟩
    · exact absurd hjob (noIssue i _ _ _)
    · obtain ⟨r₀, r₁, htable, hspent, howner, hwrites⟩ := fits.locked hlog hfinds
      exact ⟨⟨old, ⟨r₀, htable, howner, hspent⟩, r₁, hwrites⟩, hnot⟩
  | insertReset user digest' expiresAt => cases hstores.1
  | _ => exact hstores.elim

/-- What a session that closes the sessions of the user has reached. -/
structure Covered (w : Shared jobs) (m : ι) (user : Uuid) : Prop where
  /-- What it still has to do. -/
  covers : (w.sessions m).Covers w.table user
  /-- What it has done. -/
  closed : ∀ c ∈ w.commits, c.session = m → RevokesUser c.log user → w.table.Closed user

section Move

variable (sound : w.Sound) (covered : w.Covered m user)
include sound covered

/-- Others may commit what adds no record for the user. -/
theorem Covered.commit_of_not_adds (hi : i ≠ m)
    (moves : Moves iso w.table (w.Free i) (w.sessions i) σ (some kept))
    (hadds : ∀ digest, ¬ w.Adds i user digest) : (w.after i σ (some kept)).Covered m user := by
  have fewer {digest : String} (h : (w.after i σ (some kept)).table.Unrevoked user digest) :
      w.table.Unrevoked user digest :=
    ((sound.unrevoked_or_adds moves h).resolve_right (hadds digest)).1
  refine ⟨?_, fun c hc hsession hlog => ?_⟩
  · rw [sessions_after_of_ne w i σ (some kept) hi.symm]
    exact covered.covers.frame fewer
  · rcases List.mem_append.1 hc with hc | hc
    · have hclosed := covered.closed c hc hsession hlog
      rw [Versions.closed_iff] at hclosed ⊢
      exact fun digest h => hclosed digest (fewer h)
    · obtain rfl := List.mem_singleton.1 hc
      exact absurd hsession hi

/-- Others commit what adds a record for the user only before the statement has begun, or while it
is under way. -/
theorem Covered.commit_of_adds (hi : i ≠ m)
    (moves : Moves iso w.table (w.Free i) (w.sessions i) σ (some kept))
    (noIssue : ∀ i digest expiresAt client,
      jobs i ≠ .call (.insertRefresh digest user expiresAt client))
    {digest : String} (hadds : w.Adds i user digest) :
    (w.after i σ (some kept)).Covered m user ∨ w.Overlap m i user digest := by
  obtain ⟨⟨old, hold, r, hheld⟩, -⟩ := sound.exists_unrevoked moves noIssue hadds
  -- the session has not revoked the old record, since another one holds it
  have unspent : ¬ (w.sessions m).HoldsSpent (.refresh old) := by
    rintro ⟨r', hr', -⟩
    simp [sound.apart hi hheld] at hr'
  by_cases hway : ∃ q, (w.sessions m).UnderWay (.revokeUser user) q
  · exact Or.inr ⟨hi, hway, hadds⟩
  · refine Or.inl ⟨?_, fun c hc hsession hlog => ?_⟩
    · rw [sessions_after_of_ne w i σ (some kept) hi.symm]
      exact ⟨fun h => absurd ⟨_, h⟩ hway, fun hsound hlog =>
        absurd (covered.covers.done hsound hlog hold) unspent⟩
    · rcases List.mem_append.1 hc with hc | hc
      · have hclosed := covered.closed c hc hsession hlog
        exact absurd hold (Versions.closed_iff.1 hclosed old)
      · obtain rfl := List.mem_singleton.1 hc
        exact absurd hsession hi

/-- The session itself commits. -/
theorem Covered.commit_self {σ : Session (Except AuthError (jobs m).Reply)}
    (moves : Moves (readCommitted roles) w.table (w.Free m) (w.sessions m) σ (some kept))
    (noIssue : ∀ i digest expiresAt client,
      jobs i ≠ .call (.insertRefresh digest user expiresAt client)) :
    (w.after m σ (some kept)).Covered m user := by
  refine ⟨?_, fun c hc hsession hlog => ?_⟩
  · rw [sessions_after_self]
    cases moves with
    | commit h opened sound answer => exact Session.covers_of_idle rfl fun _ => rfl
    | alone h closed searched gives told => exact Session.covers_of_idle rfl fun _ => rfl
  · rw [Versions.closed_iff]
    intro digest hdigest
    rcases List.mem_append.1 hc with hc | hc
    · -- the tokens were closed before, so the session has none to add or to leave
      have hclosed := Versions.closed_iff.1 (covered.closed c hc hsession hlog)
      rcases sound.unrevoked_or_adds moves hdigest with ⟨hbefore, -⟩ | hadds
      · exact hclosed digest hbefore
      · obtain ⟨⟨old, hold, -⟩, -⟩ := sound.exists_unrevoked moves noIssue hadds
        exact hclosed old hold
    · obtain rfl := List.mem_singleton.1 hc
      rcases sound.unrevoked_or_adds moves hdigest with ⟨hbefore, hheld⟩ | hadds
      · obtain ⟨r, hr, hspent⟩ := covered.covers.spent_of_commit moves hlog hbefore
        have hunspent := hheld r hr
        exact Bool.noConfusion (hspent.symm.trans hunspent)
      · obtain ⟨-, hnot⟩ := sound.exists_unrevoked moves noIssue hadds
        exact hnot user hlog

/-- **A move keeps what the session has reached,** unless it commits a record for the user that the
statement has not seen. -/
theorem Covered.move {new : Option Kept}
    (moves : Moves (readCommitted roles) w.table (w.Free i) (w.sessions i) σ new)
    (noIssue : ∀ i digest expiresAt client,
      jobs i ≠ .call (.insertRefresh digest user expiresAt client)) :
    (w.after i σ new).Covered m user ∨ (∃ kept, new = some kept) ∧
      ∃ digest, w.Overlap m i user digest := by
  by_cases hi : i = m
  · subst hi
    cases new with
    | none =>
      refine Or.inl ⟨?_, covered.closed⟩
      rw [sessions_after_self]
      exact covered.covers.move (sound.good i) moves
    | some kept => exact Or.inl (covered.commit_self sound moves noIssue)
  · cases new with
    | none =>
      refine Or.inl ⟨?_, covered.closed⟩
      rw [sessions_after_of_ne w i σ none (Ne.symm hi)]
      exact covered.covers
    | some kept =>
      by_cases hadds : ∃ digest, w.Adds i user digest
      · obtain ⟨digest, hadds⟩ := hadds
        exact (covered.commit_of_adds sound hi moves noIssue hadds).imp_right fun h =>
          ⟨⟨kept, rfl⟩, digest, h⟩
      · exact Or.inl (covered.commit_of_not_adds sound hi moves (not_exists.1 hadds))

end Move

variable {table : Versions} {passed : List (Shared jobs)}

/-- In every run, a session has reached what it should, or a record has escaped it. -/
theorem Run.covered_or_escaped (run : Run (readCommitted roles) (start table jobs) passed w)
    (noIssue : ∀ i digest expiresAt client,
      jobs i ≠ .call (.insertRefresh digest user expiresAt client)) (m : ι) :
    w.Covered m user ∨ ∃ i, Escaped passed w m i user := by
  induction run with
  | nil =>
    have nothing (c : Commit ι) (hc : c ∈ (start table jobs).commits) : False := by
      simp [start] at hc
    exact Or.inl ⟨Session.covers_of_idle rfl fun _ => rfl, fun c hc => (nothing c hc).elim⟩
  | @snoc passed w w' run step ih =>
    cases step with
    | @move i σ new moves =>
      have hcommits (c : Commit ι) (hc : c ∈ w.commits) : c ∈ (w.after i σ new).commits := by
        cases new with
        | none => exact hc
        | some kept => exact List.mem_append_left _ hc
      rcases ih with covered | ⟨i', hescaped⟩
      · rcases covered.move run.sound moves noIssue with hcovered | ⟨⟨kept, rfl⟩, hoverlap⟩
        · exact Or.inl hcovered
        · refine Or.inr ⟨i, w, ?_, hoverlap, ⟨i, kept.log, w.table, kept.writes⟩, ?_, rfl, rfl,
            moves.writes_eq⟩
          · exact List.mem_append_right _ (List.mem_singleton_self _)
          · exact List.mem_append_right _ (List.mem_singleton_self _)
      · exact Or.inr ⟨i', hescaped.snoc hcommits⟩

/-- **Closing all sessions of a user is complete, or another session has overlapped.**  Once a call
is told that the refresh tokens of the user are revoked, they all are, and stay so; unless a
rotation has committed a record for the user while the statement that revokes them was under way. -/
theorem closed_or_escaped (run : Run (readCommitted roles) (start table jobs) passed w)
    (noIssue : ∀ i digest expiresAt client,
      jobs i ≠ .call (.insertRefresh digest user expiresAt client)) {m : ι}
    (told : w.Gave m (Job.Closes user)) :
    w.table.Closed user ∨ ∃ i, Escaped passed w m i user := by
  rcases run.covered_or_escaped noIssue m with covered | hescaped
  · obtain ⟨reply, hdone, hkind⟩ := told
    obtain ⟨log, ⟨c, hc, hsession, rfl⟩, hlog⟩ :=
      (run.sound.stage m).exists_revokesUser hdone hkind
    exact Or.inl (covered.closed c hc hsession hlog)
  · exact Or.inr hescaped

/-! ## A record that escapes -/

/-- The sessions of the user are closed. -/
abbrev closingAll : Job := .call (.revokeAll someone)

/-- There is one row in the table of the example. -/
theorem eq_of_oneToken {q : Place} {r : q.Row} (h : oneToken q = some r) : q = .refresh "a" := by
  by_contra hq
  have hnone : oneToken q = none := Function.update_of_ne hq ..
  simp [hnone] at h

/-- What the statement finds that closes the sessions, at the beginning and as long as nothing was
committed. -/
theorem found_closingAll : exampleLevel.Found oneToken (fun _ => none) exampleStamp
    (.revokeUser someone) [.refresh "a"] :=
  finds_singleton (r := goodRow) rfl rfl fun _ _ _ h _ => eq_of_oneToken h

/-- All sessions of the user are closed before a token is presented. -/
theorem closed_or_escaped_first : ∃ passed w,
    Run exampleLevel (start oneToken (two closingAll presenting)) passed w ∧
      w.Gave true (Job.Closes someone) ∧
      (w.table.Closed someone ∨ ∃ i, Escaped passed w true i someone) := by
  have hstart : Run exampleLevel (start oneToken (two closingAll presenting)) []
      ⟨oneToken, both { script := closingAll.script } { script := presenting.script }, []⟩ :=
    start_two ▸ Run.nil
  have hacquired := hstart.first (.acquire rfl rfl (.ok ()))
  have hlooked := hacquired.first (.start rfl rfl rfl found_closingAll)
  have hpicks : (Statement.revokeUser someone).effect exampleStamp (.refresh "a")
      (Versions.over (fun _ => none) oneToken (.refresh "a")) =
        some { goodRow with revoked := true } := rfl
  have htaken := hlooked.first (.take rfl rfl (by rfl) hpicks)
  have hdone := htaken.first (.alone rfl rfl rfl (by rfl) (Or.inl rfl))
  have noIssue (b : Bool) (digest : String) (expiresAt : Instant) (client : ClientInfo) :
      two closingAll presenting b ≠ .call (.insertRefresh digest someone expiresAt client) := by
    cases b <;> simp [two]
  exact ⟨_, _, hdone, ⟨_, rfl, rfl⟩, closed_or_escaped hdone noIssue ⟨_, rfl, rfl⟩⟩

/-- **A record may escape**, though every record stands under its digest, and nobody does anything
but rotate tokens, revoke them and close sessions.  The sessions of a user are closed while a token
of the user is being replaced: the statement waits for the old record, and it does not see the new
one. -/
theorem closing_not_always_complete :
    ¬ ∀ (ι : Type) [DecidableEq ι] (jobs : ι → Job) (roles : Uuid → Option String)
      (table : Versions) (passed : List (Shared jobs)) (w : Shared jobs) (user : Uuid),
      Run (readCommitted roles) (start table jobs) passed w → (roles user).isSome = true →
      (∀ digest r, table (.refresh digest) = some r → r.digest = digest) →
      (∀ i, (jobs i).EndsTokens) →
      (∃ m, w.Gave m (Job.Closes user)) → (∀ i, ∃ r, (w.sessions i).script = .done r) →
      w.table.Closed user := by
  intro complete
  have hstart : Run exampleLevel (start oneToken (two presenting closingAll)) []
      ⟨oneToken, both { script := presenting.script } { script := closingAll.script }, []⟩ :=
    start_two ▸ Run.nil
  obtain ⟨_, hadding⟩ := hstart.rotation_adds fun _ => rfl
  have hacquired := hadding.second (.acquire rfl rfl (.ok ()))
  have hlooked := hacquired.second (.start rfl rfl rfl found_closingAll)
  obtain ⟨_, log, hcommitted⟩ := hlooked.rotation_commits fun _ => rfl
  -- the statement may visit the old record now, which is revoked
  have hpasses : (Statement.revokeUser someone).effect exampleStamp (.refresh "a")
      (Versions.over (fun _ => none) (withBoth.over oneToken) (.refresh "a")) = none := rfl
  have hskipped := hcommitted.second (.skip rfl rfl (by rfl) rfl hpasses)
  have hdone := hskipped.second (.alone rfl rfl rfl (by rfl) (Or.inl rfl))
  have filed (digest : String) (r : RefreshRecord Uuid) (hr : oneToken (.refresh digest) = some r) :
      r.digest = digest := by
    cases eq_of_oneToken hr
    have hgood : oneToken (.refresh "a") = some goodRow := Function.update_self ..
    rw [← Option.some.inj (hgood.symm.trans hr)]
    rfl
  have ends (b : Bool) : (two presenting closingAll b).EndsTokens := by
    cases b with
    | false => exact Or.inr (Or.inr ⟨someone, rfl⟩)
    | true => exact Or.inl ⟨"a", "b", 20, ⟨none, none⟩, rfl⟩
  have hclosed := complete Bool _ _ _ _ _ someone hdone rfl filed ends ⟨false, _, rfl, rfl⟩
    fun b => by cases b <;> exact ⟨_, rfl⟩
  exact Bool.noConfusion (hclosed "b" newRow rfl rfl)

end Shared

end Gatehouse.Sql
