/-
  One winner among all that present a token.

  Any number of calls of the store run side by side, in any order of their statements, and each may
  fail at any of them.  Still a refresh token is replaced once, and a reset token is used once.

  The reason is in three facts about a transaction that locks a row which is not spent, and then
  spends it (`Wins`).

  1. Nobody else holds a row that it holds, so the row is not spent in the table when it commits.
  2. Its commit leaves the row spent.
  3. A row that is spent in the table stays spent.

  So no two such transactions are committed for one row (`Shared.Sound.once`).  And a call that is
  told that it has replaced a token, or used one up, has committed such a transaction.
-/
import Gatehouse.Proofs.Sql.Holding
import Gatehouse.Proofs.Sql.Progress
import Mathlib.Data.List.Pairwise

namespace Gatehouse.Sql

variable {ι : Type} {jobs : ι → Job} {iso : Isolation}

namespace Shared

/-- The session has committed a transaction with this log. -/
def Logged (w : Shared jobs) (i : ι) (log : List Answered) : Prop :=
  ∃ c ∈ w.commits, c.session = i ∧ c.log = log

/-- What holds wherever the jobs can come to. -/
structure Sound (w : Shared jobs) : Prop where
  /-- What a session holds fits the table. -/
  good : ∀ i, (w.sessions i).Good w.table
  /-- No two sessions hold one row. -/
  apart : ∀ {i j p r}, i ≠ j → (w.sessions i).held p = some r → (w.sessions j).held p = none
  /-- A session has committed what its stage says. -/
  stage : ∀ i, (jobs i).Stage (w.Logged i) (w.sessions i)
  /-- What was committed is what the job was to say. -/
  keeps : ∀ c ∈ w.commits, (jobs c.session).Keeps c.log
  /-- What was committed fits the table that it found. -/
  fits : ∀ c ∈ w.commits, Kept.Fits ⟨c.log, c.writes⟩ c.before
  /-- A row that a committed transaction has won is spent. -/
  spent : ∀ c ∈ w.commits, ∀ {p}, Wins c.log p → ∃ r, w.table p = some r ∧ p.spent r = true
  /-- No two committed transactions have won one row. -/
  once : w.commits.Pairwise fun c c' => ∀ p, Wins c.log p → ¬ Wins c'.log p

theorem sound_start (table : Versions) (jobs : ι → Job) : (start table jobs).Sound where
  good i := Session.good_of_unheld (fun _ => rfl) rfl (fun _ => rfl) fun _ => rfl
  apart _ h := by cases h
  stage i := (jobs i).stage_start _
  keeps c hc := by simp [start] at hc
  fits c hc := by simp [start] at hc
  spent c hc := by simp [start] at hc
  once := List.Pairwise.nil

variable [DecidableEq ι] {w : Shared jobs} {i : ι}
  {σ : Session (Except AuthError (jobs i).Reply)} {new : Option Kept}

/-- The table after a move. -/
theorem table_after : (w.after i σ new).table = w.table.committed new := by
  cases new <;> rfl

/-- What was committed stays committed. -/
theorem Logged.after {j : ι} {log : List Answered} (h : w.Logged j log) :
    (w.after i σ new).Logged j log := by
  obtain ⟨c, hc, hsession, hlog⟩ := h
  refine ⟨c, ?_, hsession, hlog⟩
  cases new with
  | none => exact hc
  | some kept => exact List.mem_append_left _ hc

/-- What a move commits is noted. -/
theorem logged_after_self {kept : Kept} (h : new = some kept) :
    (w.after i σ new).Logged i kept.log := by
  subst h
  exact ⟨_, List.mem_append_right _ (List.mem_singleton_self _), rfl, rfl⟩

section Move

variable (sound : w.Sound) (moves : Moves iso w.table (w.Free i) (w.sessions i) σ new)
include sound moves

/-- No two sessions hold one row after a move. -/
theorem Sound.apart_after {j k : ι} {p : Place} {r : p.Row} (hne : j ≠ k)
    (hheld : ((w.after i σ new).sessions j).held p = some r) :
    ((w.after i σ new).sessions k).held p = none := by
  by_cases hj : j = i
  · subst hj
    rw [sessions_after_self] at hheld
    rw [sessions_after_of_ne w j σ new hne.symm]
    rcases moves.free_of_held hheld with ⟨r₀, hr₀⟩ | hfree
    · exact sound.apart hne hr₀
    · exact hfree k hne.symm
  · rw [sessions_after_of_ne w i σ new hj] at hheld
    by_cases hk : k = i
    · subst hk
      rw [sessions_after_self]
      cases hσ : σ.held p with
      | none => rfl
      | some r' =>
        rcases moves.free_of_held hσ with ⟨r₀, hr₀⟩ | hfree
        · simp [sound.apart hj hheld] at hr₀
        · simp [hfree j hj] at hheld
    · rw [sessions_after_of_ne w i σ new hk]
      exact sound.apart hne hheld

/-- Where another session holds a row, a move does not change the table. -/
theorem Sound.table_after_of_held {j : ι} (hj : j ≠ i) {p : Place} {r : p.Row}
    (hheld : (w.sessions j).held p = some r) : (w.after i σ new).table p = w.table p := by
  cases new with
  | none => rfl
  | some kept =>
    have hnone : kept.writes p = none := by
      rw [moves.writes_eq]
      exact sound.apart hj hheld
    exact Versions.over_of_none hnone

/-- A move leaves a later version of every row in the table. -/
theorem Sound.exists_later {p : Place} {r : p.Row} (h : w.table p = some r) :
    ∃ r', (w.after i σ new).table p = some r' ∧ p.Later r r' := by
  cases new with
  | none => exact ⟨r, h, rfl, id⟩
  | some kept =>
    cases hwrites : kept.writes p with
    | none => exact ⟨r, (Versions.over_of_none hwrites).trans h, rfl, id⟩
    | some r' =>
      have fits := moves.fits (sound.good i)
      exact ⟨r', Versions.over_of_some hwrites, fits.later h hwrites⟩

/-- After a move, a row that was won is spent. -/
theorem Sound.spent_after {c : Commit ι} (hc : c ∈ (w.after i σ new).commits) {p : Place}
    (hwins : Wins c.log p) : ∃ r, (w.after i σ new).table p = some r ∧ p.spent r = true := by
  have before (hc : c ∈ w.commits) :
      ∃ r, (w.after i σ new).table p = some r ∧ p.spent r = true := by
    obtain ⟨r, htable, hspent⟩ := sound.spent c hc hwins
    obtain ⟨r', htable', hlater⟩ := sound.exists_later moves htable
    exact ⟨r', htable', hlater.spent hspent⟩
  cases new with
  | none => exact before hc
  | some kept =>
    rcases List.mem_append.1 hc with hc | hc
    · exact before hc
    · obtain rfl := List.mem_singleton.1 hc
      obtain ⟨r, hwrites, hspent⟩ := (moves.fits (sound.good i)).spent hwins
      exact ⟨r, Versions.over_of_some hwrites, hspent⟩

/-- After a move, no two committed transactions have won one row. -/
theorem Sound.once_after :
    (w.after i σ new).commits.Pairwise fun c c' => ∀ p, Wins c.log p → ¬ Wins c'.log p := by
  cases new with
  | none => exact sound.once
  | some kept =>
    refine List.pairwise_append.2 ⟨sound.once, List.pairwise_singleton .., ?_⟩
    intro c hc c' hc' p hwins hwins'
    obtain rfl := List.mem_singleton.1 hc'
    -- the row was spent in the table before, so the new transaction has not found it unspent
    obtain ⟨r, htable, hspent⟩ := sound.spent c hc hwins
    obtain ⟨x, rest, user, hlog, hfinds⟩ := hwins'.1
    obtain ⟨r', _, htable', hunspent, -, -⟩ := (moves.fits (sound.good i)).locked hlog hfinds
    obtain rfl := Option.some.inj (htable.symm.trans htable')
    simp [hspent] at hunspent

/-- **Whatever happens next, all that holds goes on to hold.** -/
theorem Sound.move : (w.after i σ new).Sound := by
  have hstage := (sound.stage i).move moves fun h => logged_after_self (w := w) (σ := σ) h
  refine ⟨fun j => ?_, fun hne hheld => sound.apart_after moves hne hheld, fun j => ?_, ?_, ?_,
    fun c hc p hwins => sound.spent_after moves hc hwins, sound.once_after moves⟩
  · by_cases hj : j = i
    · subst hj
      rw [sessions_after_self, table_after]
      exact moves.good (sound.good j)
    · rw [sessions_after_of_ne w i σ new hj]
      exact (sound.good j).frame fun p r hr => sound.table_after_of_held moves hj hr
  · by_cases hj : j = i
    · subst hj
      rw [sessions_after_self]
      exact hstage.1
    · rw [sessions_after_of_ne w i σ new hj]
      exact (sound.stage j).mono Logged.after
  · intro c hc
    cases new with
    | none => exact sound.keeps c hc
    | some kept =>
      rcases List.mem_append.1 hc with hc | hc
      · exact sound.keeps c hc
      · obtain rfl := List.mem_singleton.1 hc
        exact hstage.2 rfl
  · intro c hc
    cases new with
    | none => exact sound.fits c hc
    | some kept =>
      rcases List.mem_append.1 hc with hc | hc
      · exact sound.fits c hc
      · obtain rfl := List.mem_singleton.1 hc
        exact moves.fits (sound.good i)

end Move

/-- In every run. -/
theorem Run.sound {table : Versions} {passed : List (Shared jobs)}
    (run : Run iso (start table jobs) passed w) : w.Sound := by
  induction run with
  | nil => exact sound_start table jobs
  | snoc run step ih =>
    cases step with
    | move i moves => exact ih.move moves

end Shared

/-! ## What a job has committed -/

/-- The transaction has marked a refresh record as replaced by another. -/
def Commit.Marks (c : Commit ι) (digest new : String) : Prop :=
  ∃ n, .statement (.markReplaced digest new) (.ok n) ∈ c.log

namespace Job

/-- The job presents the refresh token with the digest for a new one. -/
def Presents (digest new : String) : Job → Prop
  | call (.rotate old new' _ _) => old = digest ∧ new' = new
  | _ => False

/-- The job has been told that it has replaced the refresh token with the digest. -/
def Replaces (digest : String) : (job : Job) → job.Reply → Prop
  | call (.rotate old _ _ _), reply => old = digest ∧ reply.1.reused = false
  | _, _ => False

/-- The job has been told that it has used the reset token with the digest up. -/
def UsesUp (digest : String) : (job : Job) → job.Reply → Prop
  | call (.consumeReset digest'), _ => digest' = digest
  | _, _ => False

end Job

/-- What the committed transaction of a rotation has said, and what the rotation gives. -/
inductive Rotated (old new : String) (expiresAt : Instant) (client : ClientInfo) :
    List Answered → Rotation → Prop where
  /-- The record was revoked, and the sessions of its owner were closed. -/
  | contained {row : LockedRefresh} (rows : List LockedRefresh) (revoked : row.revoked = true)
      (n : Nat) (role : String) (roles : List String) :
      Rotated old new expiresAt client
        [.statement (.lockRefresh old) (.ok (row :: rows)),
          .statement (.revokeUser row.user) (.ok n),
          .statement (.roleOf row.user) (.ok (role :: roles))]
        ⟨row.user, role, true⟩
  /-- The record was good, and it was replaced. -/
  | replaced {row : LockedRefresh} (rows : List LockedRefresh) (unrevoked : row.revoked = false)
      (n n' : Nat) (role : String) (roles : List String) :
      Rotated old new expiresAt client
        [.statement (.lockRefresh old) (.ok (row :: rows)),
          .statement (.insertRefresh row.user new expiresAt client) (.ok n),
          .statement (.markReplaced old new) (.ok n'),
          .statement (.roleOf row.user) (.ok (role :: roles))]
        ⟨row.user, role, false⟩

section Logs

variable {old new digest : String} {expiresAt : Instant} {client : ClientInfo}
  {log : List Answered} {rotation : Rotation}

theorem rotated {events : List Event}
    (h : (rotateLocked old new expiresAt client).Yields log (.ok (rotation, events))) :
    Rotated old new expiresAt client log rotation := by
  obtain ⟨row, rows, work, roles, hwork, rfl, howner, hreused⟩ := (rotateTalk h).exists_work
  obtain ⟨user, role, reused⟩ := rotation
  cases hwork with
  | close revoked n =>
    obtain rfl : user = row.user := howner
    obtain rfl : reused = true := hreused.trans revoked
    exact .contained rows revoked n role roles
  | replace good n n' =>
    obtain rfl : user = row.user := howner
    obtain rfl : reused = false := hreused.trans good.1
    exact .replaced rows good.1 n n' role roles

/-- A rotation that is told that it has replaced the token has marked its record. -/
theorem Rotated.exists_mark (h : Rotated old new expiresAt client log rotation)
    (unreused : rotation.reused = false) :
    ∃ n, .statement (.markReplaced old new) (.ok n) ∈ log := by
  cases h with
  | contained rows revoked n role roles => cases unreused
  | replaced rows unrevoked n n' role roles => exact ⟨n', by simp⟩

/-- A rotation that marks a record as replaced has won its row. -/
theorem Rotated.wins_of_mark (h : Rotated old new expiresAt client log rotation) {new' : String}
    {n : Nat} (hmark : .statement (.markReplaced digest new') (.ok n) ∈ log) :
    Wins log (.refresh digest) := by
  cases h with
  | contained rows revoked n role roles => simp at hmark
  | @replaced row rows unrevoked n n' role roles =>
    obtain rfl : digest = old := by simp_all
    exact ⟨⟨_, _, row.user, rfl, rfl, unrevoked, rfl⟩, .markReplaced digest new, n', by simp, rfl⟩

/-- A rotation that adds a row adds the new record, and marks the old one as replaced by it. -/
theorem Rotated.mark_of_stores (h : Rotated old new expiresAt client log rotation) {s : Statement}
    {r : s.Result} {p : Place} {user : Uuid} (hmem : .statement s (.ok r) ∈ log)
    (hstores : s.Stores p user) :
    p = .refresh new ∧ ∃ n, .statement (.markReplaced old new) (.ok n) ∈ log := by
  cases h with
  | @contained row rows revoked n role roles =>
    have hs : s = .lockRefresh old ∨ s = .revokeUser row.user ∨ s = .roleOf row.user := by
      simp only [List.mem_cons, List.not_mem_nil, or_false, Answered.statement.injEq] at hmem
      exact hmem.imp And.left (Or.imp And.left And.left)
    rcases hs with rfl | rfl | rfl <;> exact hstores.elim
  | @replaced row rows unrevoked n n' role roles =>
    have hs : s = .lockRefresh old ∨ s = .insertRefresh row.user new expiresAt client ∨
        s = .markReplaced old new ∨ s = .roleOf row.user := by
      simp only [List.mem_cons, List.not_mem_nil, or_false, Answered.statement.injEq] at hmem
      exact hmem.imp And.left (Or.imp And.left (Or.imp And.left And.left))
    rcases hs with rfl | rfl | rfl | rfl
    · exact hstores.elim
    · exact ⟨hstores.1, n', by simp⟩
    · exact hstores.elim
    · exact hstores.elim

/-- A call that has used a reset token up has won its row. -/
theorem wins_of_consumed {user : Uuid} (h : (consumeLocked digest).Yields log (.ok user)) :
    Wins log (.reset digest) := by
  obtain ⟨users, n, rfl⟩ := (consumeTalk h).eq_of_ok
  exact ⟨⟨_, _, user, rfl, rfl, rfl⟩, .markUsed digest, n, by simp, rfl⟩

end Logs

namespace Job

variable {job : Job} {log : List Answered} {digest new : String}

/-- A transaction that marks a refresh record as replaced has won its row. -/
theorem Keeps.wins_of_mark (h : job.Keeps log) {n : Nat}
    (hmark : .statement (.markReplaced digest new) (.ok n) ∈ log) : Wins log (.refresh digest) := by
  have alone (hs : ∃ s r, job.statement? = some s ∧ log = [.statement s (.ok r)]) :
      job.statement? = some (.markReplaced digest new) := by
    obtain ⟨s, r, hjob, rfl⟩ := hs
    obtain ⟨rfl, -⟩ : Statement.markReplaced digest new = s ∧ _ := by simpa using hmark
    exact hjob
  cases job with
  | call c =>
    cases c with
    | rotate old new' expiresAt client =>
      obtain ⟨⟨rotation, events⟩, hyields⟩ := h
      exact (rotated hyields).wins_of_mark hmark
    | consumeReset digest' =>
      obtain ⟨user, hyields⟩ := h
      obtain ⟨users, n', rfl⟩ := (consumeTalk hyields).eq_of_ok
      simp at hmark
    | _ => cases alone h
  | findRefresh digest' => cases alone h
  | createUser email name hash role => cases alone h

/-- A job that presents a token and adds a row has marked the token as replaced. -/
theorem Keeps.mark_of_stores (h : job.Keeps log) (presents : job.Presents digest new)
    {s : Statement} {r : s.Result} {p : Place} {user : Uuid}
    (hmem : .statement s (.ok r) ∈ log) (hstores : s.Stores p user) :
    p = .refresh new ∧ ∃ n, .statement (.markReplaced digest new) (.ok n) ∈ log := by
  cases job with
  | call c =>
    cases c with
    | rotate old new' expiresAt client =>
      obtain ⟨rfl, rfl⟩ := presents
      obtain ⟨⟨rotation, events⟩, hyields⟩ := h
      exact (rotated hyields).mark_of_stores hmem hstores
    | _ => exact presents.elim
  | findRefresh digest' => exact presents.elim
  | createUser email name hash role => exact presents.elim

variable {kept : List Answered → Prop} {σ : Session (Except AuthError job.Reply)}
  {reply : job.Reply}

/-- A job that has replaced a refresh token has committed a transaction that marks its record. -/
theorem Stage.exists_mark_of_replaces (stage : job.Stage kept σ)
    (hdone : σ.script = .done (.ok reply)) (h : job.Replaces digest reply) :
    ∃ log, kept log ∧ ∃ new n, .statement (.markReplaced digest new) (.ok n) ∈ log := by
  cases job with
  | call c =>
    cases c with
    | rotate old new expiresAt client =>
      obtain ⟨rfl, unreused⟩ := h
      rcases InTransaction.of_done stage hdone with
        ⟨e, he⟩ | ⟨⟨rotation, events⟩, log, hr, hlog, hy⟩
      · cases he
      · cases hr
        exact ⟨log, hlog, new, (rotated hy).exists_mark unreused⟩
    | _ => exact h.elim
  | findRefresh digest' => exact h.elim
  | createUser email name hash role => exact h.elim

/-- A job that has used a reset token up has committed a transaction that has won its row. -/
theorem Stage.exists_wins_of_usesUp (stage : job.Stage kept σ)
    (hdone : σ.script = .done (.ok reply)) (h : job.UsesUp digest reply) :
    ∃ log, kept log ∧ Wins log (.reset digest) := by
  cases job with
  | call c =>
    cases c with
    | consumeReset digest' =>
      obtain rfl : digest' = digest := h
      rcases InTransaction.of_done stage hdone with ⟨e, he⟩ | ⟨user, log, hr, hlog, hy⟩
      · cases he
      · exact ⟨log, hlog, wins_of_consumed hy⟩
    | _ => exact h.elim
  | findRefresh digest' => exact h.elim
  | createUser email name hash role => exact h.elim

end Job

/-! ## One winner -/

namespace Shared

/-- Two sessions that have won one row are one session. -/
theorem Sound.session_eq_of_wins {w : Shared jobs} (sound : w.Sound) {c c' : Commit ι}
    (hc : c ∈ w.commits) (hc' : c' ∈ w.commits) {p : Place} (hwins : Wins c.log p)
    (hwins' : Wins c'.log p) : c.session = c'.session := by
  by_contra hne
  have symm : Std.Symm fun c c' : Commit ι => ∀ p, Wins c.log p → ¬ Wins c'.log p :=
    ⟨fun c c' h p hp' hp => h p hp hp'⟩
  have hcc' : c ≠ c' := fun h => hne (congrArg Commit.session h)
  exact sound.once.forall hc hc' hcc' p hwins hwins'

/-- Of all that present a token, one wins. -/
structure OneWinner (w : Shared jobs) (digest : String) : Prop where
  /-- At most one call is told that it has replaced the refresh token. -/
  replaced : ∀ {i j}, w.Gave i (Job.Replaces digest) → w.Gave j (Job.Replaces digest) → i = j
  /-- The one that is told so has committed a transaction that marks the record. -/
  told : ∀ {i}, w.Gave i (Job.Replaces digest) →
    ∃ c ∈ w.commits, c.session = i ∧ ∃ new, c.Marks digest new
  /-- At most one committed transaction marks the record of the refresh token as replaced. -/
  marked : w.commits.Pairwise fun c c' =>
    ∀ new new', c.Marks digest new → ¬ c'.Marks digest new'
  /-- Of all that present the refresh token, it is the only one that adds a row: the record of the
  token that it gives for it. -/
  added : ∀ c ∈ w.commits, ∀ {new}, (jobs c.session).Presents digest new →
    ∀ {p r}, c.before p = none → c.writes p = some r → p = .refresh new ∧ c.Marks digest new
  /-- At most one call is told that it has used the reset token up. -/
  usedUp : ∀ {i j}, w.Gave i (Job.UsesUp digest) → w.Gave j (Job.UsesUp digest) → i = j

theorem Sound.exists_marks {w : Shared jobs} (sound : w.Sound) {digest : String} {i : ι}
    (h : w.Gave i (Job.Replaces digest)) :
    ∃ c ∈ w.commits, c.session = i ∧ ∃ new, c.Marks digest new := by
  obtain ⟨reply, hdone, hkind⟩ := h
  obtain ⟨log, ⟨c, hc, hsession, rfl⟩, hmark⟩ :=
    (sound.stage i).exists_mark_of_replaces hdone hkind
  exact ⟨c, hc, hsession, hmark⟩

theorem Sound.wins_of_marks {w : Shared jobs} (sound : w.Sound) {c : Commit ι}
    (hc : c ∈ w.commits) {digest new : String} (h : c.Marks digest new) :
    Wins c.log (.refresh digest) := by
  obtain ⟨n, hmark⟩ := h
  exact (sound.keeps c hc).wins_of_mark hmark

/-- **One winner.**  Whatever calls run side by side, and wherever they fail: of all that present
one token at most one wins. -/
theorem one_winner [DecidableEq ι] {table : Versions} {passed : List (Shared jobs)}
    {w : Shared jobs} (run : Run iso (start table jobs) passed w) (digest : String) :
    w.OneWinner digest where
  replaced {i j} hi hj := by
    have sound := run.sound
    obtain ⟨c, hc, rfl, new, hmarks⟩ := sound.exists_marks hi
    obtain ⟨c', hc', rfl, new', hmarks'⟩ := sound.exists_marks hj
    exact sound.session_eq_of_wins hc hc' (sound.wins_of_marks hc hmarks)
      (sound.wins_of_marks hc' hmarks')
  told := run.sound.exists_marks
  marked := by
    have sound := run.sound
    refine sound.once.imp_of_mem fun {c c'} hc hc' hne new new' hmarks hmarks' => ?_
    exact hne (.refresh digest) (sound.wins_of_marks hc hmarks) (sound.wins_of_marks hc' hmarks')
  added c hc new presents p r hbefore hwrites := by
    have sound := run.sound
    obtain ⟨s, a, hmem, hstores⟩ := (sound.fits c hc).stored hbefore hwrites
    exact (sound.keeps c hc).mark_of_stores presents hmem hstores
  usedUp {i j} hi hj := by
    have sound := run.sound
    obtain ⟨reply, hdone, hkind⟩ := hi
    obtain ⟨reply', hdone', hkind'⟩ := hj
    obtain ⟨log, ⟨c, hc, rfl, rfl⟩, hwins⟩ := (sound.stage i).exists_wins_of_usesUp hdone hkind
    obtain ⟨log', ⟨c', hc', rfl, rfl⟩, hwins'⟩ :=
      (sound.stage j).exists_wins_of_usesUp hdone' hkind'
    exact sound.session_eq_of_wins hc hc' hwins hwins'

end Shared

/-! ## A rotation while another call waits -/

/-- A user. -/
def someone : Uuid := .ofNat 1

/-- The record of a refresh token that is good. -/
def goodRow : RefreshRecord Uuid :=
  { id := .ofNat 2, user := someone, digest := "a", createdAt := 0, lastUsedAt := none
    expiresAt := 10, revoked := false, replacedBy := none, ip := none, userAgent := none }

/-- The record of the token that is given for it. -/
def newRow : RefreshRecord Uuid :=
  { id := .ofNat 3, user := someone, digest := "b", createdAt := 0, lastUsedAt := none
    expiresAt := 20, revoked := false, replacedBy := none, ip := none, userAgent := none }

/-- A table with one refresh token. -/
def oneToken : Versions := Function.update (fun _ => none) (.refresh "a") (some goodRow)

/-- The rows of a rotation that has added the new record. -/
def withNew : Versions := Function.update oneToken (.refresh "b") (some newRow)

/-- The rows of a rotation that has marked the old record as well. -/
def withBoth : Versions :=
  Function.update withNew (.refresh "a") (some (goodRow.replacedWith 0 "b"))

/-- The database of the example: all users are learners. -/
abbrev exampleLevel : Isolation := readCommitted fun _ => some "learner"

/-- The time of the example, and the identifier of the new record. -/
def exampleStamp : Stamp := ⟨0, .ofNat 3⟩

/-- The token is presented for a new one. -/
abbrev presenting : Job := .call (.rotate "a" "b" 20 ⟨none, none⟩)

/-- The rotation has added the new record. -/
def adding : Session (Except AuthError presenting.Reply) where
  script := (ExceptT.run (do
    let _ ← Conversation.send (.markReplaced "a" "b")
    let role ← fetchRole someone
    return (⟨someone, role, false⟩, []))).bind Conversation.finish
  opened := true
  log := [.statement (.lockRefresh "a") (.ok [⟨someone, false, false⟩]),
    .statement (.insertRefresh someone "b" 20 ⟨none, none⟩) (.ok (1 : Nat))]
  held := withNew

/-- The rotation has succeeded. -/
def added : Session (Except AuthError presenting.Reply) where
  script := .done (.ok (⟨someone, "learner", false⟩, []))

namespace Shared

section Example

variable {job : Job} {w : Shared (two presenting job)} {passed : List (Shared (two presenting job))}
  {τ : Session (Except AuthError job.Reply)}

theorem eq_of_effect_lockRefresh {digest : String} {q : Place} {r r' : q.Row}
    (h : (Statement.lockRefresh digest).effect exampleStamp q (some r) = some r') :
    q = .refresh digest := by
  unfold Statement.effect at h
  cases q <;> simp at h ⊢
  exact h.1

theorem eq_of_effect_markReplaced {old new : String} {q : Place} {r r' : q.Row}
    (h : (Statement.markReplaced old new).effect exampleStamp q (some r) = some r') :
    q = .refresh old := by
  unfold Statement.effect at h
  cases q <;> simp at h ⊢
  exact h.1

/-- The rotation locks the old record and adds the new one, while the other session holds
nothing. -/
theorem Run.rotation_adds
    (run : Run exampleLevel w passed ⟨oneToken, both { script := presenting.script } τ, []⟩)
    (unheld : ∀ p, τ.held p = none) :
    ∃ passed', Run exampleLevel w passed' ⟨oneToken, both adding τ, []⟩ := by
  have hacquired := run.first (.acquire rfl rfl (.ok ()))
  have hopened := hacquired.first (.begin rfl rfl (.ok ()))
  have hfound : exampleLevel.Found oneToken (fun _ => none) exampleStamp (.lockRefresh "a")
      [.refresh "a"] :=
    finds_singleton (r := goodRow) rfl rfl fun q r r' _ h => eq_of_effect_lockRefresh h
  have hpicks : (Statement.lockRefresh "a").effect exampleStamp (.refresh "a")
      (Versions.over (fun _ => none) oneToken (.refresh "a")) = some goodRow := rfl
  have hgives : (Statement.lockRefresh "a").Gives exampleLevel oneToken oneToken exampleStamp
      [.refresh "a"] [⟨someone, false, false⟩] := rfl
  obtain ⟨_, hlocked⟩ :=
    hopened.first_visits rfl rfl rfl rfl hfound (unheld _) hpicks hgives
  have hfound : exampleLevel.Found oneToken oneToken exampleStamp
      (.insertRefresh someone "b" 20 ⟨none, none⟩) [.refresh "b"] := rfl
  have hpicks : (Statement.insertRefresh someone "b" 20 ⟨none, none⟩).effect exampleStamp
      (.refresh "b") (oneToken.over oneToken (.refresh "b")) = some newRow := rfl
  have hgives : (Statement.insertRefresh someone "b" 20 ⟨none, none⟩).Gives exampleLevel oneToken
      withNew exampleStamp [.refresh "b"] (1 : Nat) := rfl
  obtain ⟨passed', hadded⟩ :=
    hlocked.first_visits rfl rfl rfl rfl hfound (unheld _) hpicks hgives
  exact ⟨passed', hadded⟩

/-- The rotation marks the old record and commits. -/
theorem Run.rotation_commits
    (run : Run exampleLevel w passed ⟨oneToken, both adding τ, []⟩)
    (unheld : ∀ p, τ.held p = none) :
    ∃ passed' log, Run exampleLevel w passed'
      ⟨withBoth.over oneToken, both added τ, [⟨true, log, oneToken, withBoth⟩]⟩ := by
  have hfound : exampleLevel.Found oneToken withNew exampleStamp (.markReplaced "a" "b")
      [.refresh "a"] :=
    finds_singleton (r := goodRow) rfl rfl fun q r r' _ h => eq_of_effect_markReplaced h
  have hpicks : (Statement.markReplaced "a" "b").effect exampleStamp (.refresh "a")
      (withNew.over oneToken (.refresh "a")) = some (goodRow.replacedWith 0 "b") := rfl
  have hgives : (Statement.markReplaced "a" "b").Gives exampleLevel oneToken withBoth exampleStamp
      [.refresh "a"] (1 : Nat) := rfl
  obtain ⟨_, hmarked⟩ := run.first_visits rfl rfl rfl rfl hfound (unheld _) hpicks hgives
  have hfound : exampleLevel.Found oneToken withBoth exampleStamp (.roleOf someone) [] :=
    finds_nil fun q r => by cases q <;> rfl
  have hgives : (Statement.roleOf someone).Gives exampleLevel oneToken withBoth exampleStamp []
      ["learner"] := rfl
  obtain ⟨_, hread⟩ := hmarked.first_reads rfl rfl rfl rfl hfound hgives
  have hcommitted := hread.first (.commit rfl rfl rfl (.ok ()))
  exact ⟨_, _, hcommitted⟩

/-- Two calls present one token.  The second has opened its transaction and waits for the record
when the first one commits. -/
theorem exists_race : ∃ passed w, Run exampleLevel (start oneToken (two presenting presenting))
    passed w ∧ w.Gave true (Job.Replaces "a") := by
  have hstart : Run exampleLevel (start oneToken (two presenting presenting)) []
      ⟨oneToken, both { script := presenting.script } { script := presenting.script }, []⟩ :=
    start_two ▸ Run.nil
  obtain ⟨_, hadding⟩ := hstart.rotation_adds fun _ => rfl
  have hacquired := hadding.second (.acquire rfl rfl (.ok ()))
  have hopened := hacquired.second (.begin rfl rfl (.ok ()))
  have hfound : exampleLevel.Found oneToken (fun _ => none) exampleStamp (.lockRefresh "a")
      [.refresh "a"] :=
    finds_singleton (r := goodRow) rfl rfl fun q r r' _ h => eq_of_effect_lockRefresh h
  have hwaiting := hopened.second (.start rfl rfl rfl hfound)
  obtain ⟨passed, log, hdone⟩ := hwaiting.rotation_commits fun _ => rfl
  exact ⟨passed, _, hdone, _, rfl, rfl, rfl⟩

end Example

/-- The winner of two calls that present one token. -/
theorem one_winner_race : ∃ passed w,
    Run exampleLevel (start oneToken (two presenting presenting)) passed w ∧
      w.Gave true (Job.Replaces "a") ∧ w.OneWinner "a" := by
  obtain ⟨passed, w, hrun, hgave⟩ := exists_race
  exact ⟨passed, w, hrun, hgave, one_winner hrun "a"⟩

end Shared

end Gatehouse.Sql
