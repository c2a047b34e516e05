/-
  Many calls of the store side by side in one database.

  `Server` answers one call after the other.  Here every call has a connection of its own, and their
  statements interleave in any order; each may fail at any statement.  A database keeps the calls
  apart by locks on rows, and four rules say how.

  1. A statement that changes or locks rows first looks which rows there are, and then visits them
     one by one.  It takes a row only if no other transaction holds it, and what it does then is
     decided by the newest version of the row, not by the one that it saw when it looked.
  2. A row that was taken is held until the transaction ends.  What was written to it shows to
     nobody else before that.
  3. A commit puts the versions that the transaction holds into the table.  In every other case they
     are dropped: after a rollback, after a commit that is refused, and after a statement that
     fails. Of a commit that takes effect the answer may still be lost.
  4. Two rows of one table do not have the same digest, so a row stands at a `Place` of its own.

  Which rows a statement sees when it looks is left open (`Isolation`), but for one thing: a
  transaction does not overlook a row that it holds itself.  `readCommitted` is the level at which a
  statement sees what is committed when it starts, and what its own transaction has written.
-/
import Gatehouse.Proofs.Sql.Effect
import Gatehouse.Proofs.Sql.Transaction
import Mathlib.Logic.Function.Basic

namespace Gatehouse.Sql

/-! ## What a statement sees -/

/-- What the statements of a transaction see of the rows in the table and of those it holds. -/
structure Isolation where
  /-- The places that a statement finds when it looks for its rows. -/
  finds : (table own : Versions) → Stamp → Statement → List Place → Prop
  /-- The answers to a statement that neither changes nor locks a token. -/
  reads : (table own : Versions) → (s : Statement) → s.Result → Prop
  /-- A transaction does not overlook a row that it holds. -/
  finds_own : ∀ {table own stamp s left p r r'}, finds table own stamp s left → own p = some r →
    s.effect stamp p (some r) = some r' → p ∈ left

/-- Every statement sees what is committed when it starts, and what its transaction has written.
The roles of the users are `roles`. -/
def readCommitted (roles : Uuid → Option String) : Isolation where
  finds table own stamp s left := left.Nodup ∧ ∀ p, p ∈ left ↔
    ∃ r r', own.over table p = some r ∧ s.effect stamp p (some r) = some r'
  reads table own
    | .roleOf user, names => names = (roles user).toList
    | .findRefresh digest, rows => rows = (own.over table (.refresh digest)).toList
    | _, _ => True
  finds_own hfinds hown heffect :=
    (hfinds.2 _).2 ⟨_, _, Versions.over_of_some hown, heffect⟩

section ReadCommitted

variable {roles : Uuid → Option String} {table own : Versions} {stamp : Stamp} {s : Statement}

/-- A statement finds the only place at which there is something for it. -/
theorem finds_singleton {p : Place} {r r' : p.Row} (hover : own.over table p = some r)
    (heffect : s.effect stamp p (some r) = some r')
    (honly : ∀ q r r', own.over table q = some r → s.effect stamp q (some r) = some r' → q = p) :
    (readCommitted roles).finds table own stamp s [p] := by
  refine ⟨List.nodup_singleton p, fun q => ?_⟩
  rw [List.mem_singleton]
  constructor
  · rintro rfl
    exact ⟨r, r', hover, heffect⟩
  · rintro ⟨r, r', hq, hq'⟩
    exact honly q r r' hq hq'

/-- A statement finds nothing if there is nothing for it. -/
theorem finds_nil (hnone : ∀ q r, s.effect stamp q (some r) = none) :
    (readCommitted roles).finds table own stamp s [] := by
  refine ⟨List.nodup_nil, fun q => ⟨fun hq => absurd hq List.not_mem_nil, ?_⟩⟩
  rintro ⟨r, r', -, hq⟩
  rw [hnone] at hq
  cases hq

end ReadCommitted

/-- A statement that looks finds these places; one that adds a row goes to the place of the row. -/
def Isolation.Found (iso : Isolation) (table own : Versions) (stamp : Stamp) (s : Statement)
    (left : List Place) : Prop :=
  match s.inserts with
  | some p => left = [p]
  | none => iso.finds table own stamp s left

/-! ## Sessions -/

/-- A statement on its way through its rows. -/
structure Search where
  stamp : Stamp
  /-- The places that are still to be visited. -/
  left : List Place
  /-- The places at which a row was taken. -/
  picked : List Place := []

/-- What a statement answers after it has visited its rows. -/
def Statement.Gives (iso : Isolation) (table own : Versions) (stamp : Stamp)
    (picked : List Place) : (s : Statement) → s.Result → Prop
  | .lockRefresh digest, rows => rows =
    if .refresh digest ∈ picked then
      ((own (.refresh digest)).map fun r => ⟨r.user, r.revoked, r.expiresAt ≤ stamp.now⟩).toList
    else []
  | .lockReset digest, users => users =
    if .reset digest ∈ picked then ((own (.reset digest)).map (·.user)).toList else []
  | .insertRefresh .., n | .revokeUser _, n | .markReplaced .., n | .revokeOne .., n
  | .insertReset .., n | .markUsed _, n => n = picked.length
  | s, r => iso.reads table own s r

/-- A connection with the call that uses it. -/
structure Session (α : Type) where
  /-- What is still to be said. -/
  script : Script α
  /-- Whether a transaction was opened. -/
  opened : Bool := false
  /-- Whether a statement of the transaction has failed. -/
  failed : Bool := false
  /-- The statements of the transaction with their answers. -/
  log : List Answered := []
  /-- The rows that the session holds, as it has left them. -/
  held : Versions := fun _ => none
  /-- How far the statement has come that is being carried out. -/
  search : Option Search := none

/-- What a transaction leaves when it is committed. -/
structure Kept where
  /-- Its statements with their answers. -/
  log : List Answered
  /-- Its rows. -/
  writes : Versions

variable {α : Type}

/-- The next thing that happens in a session, and what is committed with it.  The rows that nobody
else holds are `free`. -/
inductive Moves (iso : Isolation) (table : Versions) (free : Place → Prop) (σ : Session α) :
    Session α → Option Kept → Prop where
  /-- A connection is taken, if there is one. -/
  | acquire {next} (h : σ.script = .acquire next) (closed : σ.opened = false)
      (answer : Except DatabaseError Unit) :
      Moves iso table free σ { script := next answer } none
  /-- A transaction is opened. -/
  | begin {next} (h : σ.script = .begin next) (closed : σ.opened = false)
      (answer : Except DatabaseError Unit) :
      Moves iso table free σ { script := next answer, opened := answer.isOk } none
  /-- The transaction takes effect, whatever is heard of it. -/
  | commit {next} (h : σ.script = .commit next) (opened : σ.opened = true)
      (sound : σ.failed = false) (answer : Except DatabaseError Unit) :
      Moves iso table free σ { script := next answer } (some ⟨σ.log, σ.held⟩)
  /-- The commit is refused, or the transaction had failed before. -/
  | refuse {next} (h : σ.script = .commit next) {answer : Except DatabaseError Unit}
      (void : answer = .ok () → σ.failed = true) :
      Moves iso table free σ { script := next answer } none
  /-- The transaction is given up. -/
  | rollback {next} (h : σ.script = .rollback next) : Moves iso table free σ { script := next } none
  /-- A statement looks for its rows. -/
  | start {s next} (h : σ.script = .send s next) (idle : σ.search = none)
      (sound : σ.failed = false) {stamp : Stamp} {left : List Place}
      (found : iso.Found table σ.held stamp s left) :
      Moves iso table free σ { σ with search := some { stamp, left } } none
  /-- A row is taken that nobody else holds. -/
  | take {s next} (h : σ.script = .send s next) {stamp : Stamp} {p : Place}
      {left picked : List Place} (searching : σ.search = some ⟨stamp, p :: left, picked⟩)
      (unheld : free p) {r : p.Row} (picks : s.effect stamp p (σ.held.over table p) = some r) :
      Moves iso table free σ
        { σ with
          search := some ⟨stamp, left, p :: picked⟩
          held := Function.update σ.held p (some r) } none
  /-- A row that nobody else holds does not meet the condition any more. -/
  | skip {s next} (h : σ.script = .send s next) {stamp : Stamp} {p : Place}
      {left picked : List Place} (searching : σ.search = some ⟨stamp, p :: left, picked⟩)
      (unheld : free p) (seeks : s.inserts = none)
      (passes : s.effect stamp p (σ.held.over table p) = none) :
      Moves iso table free σ { σ with search := some ⟨stamp, left, picked⟩ } none
  /-- A statement inside a transaction is answered. -/
  | answer {s next} (h : σ.script = .send s next) (opened : σ.opened = true) {stamp : Stamp}
      {picked : List Place} (searched : σ.search = some ⟨stamp, [], picked⟩) {r : s.Result}
      (gives : s.Gives iso table σ.held stamp picked r) :
      Moves iso table free σ
        { σ with script := next (.ok r), log := σ.log ++ [.statement s (.ok r)], search := none }
        none
  /-- A statement alone is a transaction of its own and takes effect, whatever is heard of it. -/
  | alone {s next} (h : σ.script = .send s next) (closed : σ.opened = false) {stamp : Stamp}
      {picked : List Place} (searched : σ.search = some ⟨stamp, [], picked⟩) {r : s.Result}
      (gives : s.Gives iso table σ.held stamp picked r) {answer : Except DatabaseError s.Result}
      (told : answer = .ok r ∨ ∃ e, answer = .error e) :
      Moves iso table free σ { script := next answer }
        (some ⟨[.statement s (.ok r)], σ.held⟩)
  /-- A statement fails, at any point. -/
  | fail {s next} (h : σ.script = .send s next) (e : DatabaseError) :
      Moves iso table free σ
        { script := next (.error e), opened := σ.opened, failed := σ.opened
          log := if σ.opened then σ.log ++ [.statement s (.error e)] else [] } none

/-! ## Calls side by side -/

/-- Something that is asked of the store. -/
inductive Job where
  | call (call : Call)
  | findRefresh (digest : String)
  | createUser (email : String) (name : Option String) (hash role : String)

namespace Job

/-- What a job gives when it succeeds. -/
abbrev Reply : Job → Type
  | call c => c.Reply × List Event
  | findRefresh _ => Option (RefreshRecord Uuid)
  | createUser .. => Uuid

/-- What is said for a job. -/
def script : (job : Job) → Script (Except AuthError job.Reply)
  | call c => ExceptT.run (Conversation.connected (conversation c))
  | findRefresh digest => ExceptT.run (Sql.findRefresh digest)
  | createUser email name hash role => ExceptT.run (Sql.createUser email name hash role)

end Job

/-- A transaction that took effect. -/
structure Commit (ι : Type) where
  /-- Whose it was. -/
  session : ι
  /-- Its statements with their answers. -/
  log : List Answered
  /-- The table that it found. -/
  before : Versions
  /-- The rows that it left. -/
  writes : Versions

variable {ι : Type} [DecidableEq ι] {jobs : ι → Job}

/-- A table, and the sessions that share it. -/
structure Shared (jobs : ι → Job) where
  /-- What is committed. -/
  table : Versions
  /-- The sessions. -/
  sessions : (i : ι) → Session (Except AuthError (jobs i).Reply)
  /-- The transactions that took effect, in order. -/
  commits : List (Commit ι) := []

namespace Shared

/-- All jobs are still to be done. -/
def start (table : Versions) (jobs : ι → Job) : Shared jobs where
  table := table
  sessions i := { script := (jobs i).script }

/-- No other session holds a row at the place. -/
def Free (w : Shared jobs) (i : ι) (p : Place) : Prop := ∀ j, j ≠ i → (w.sessions j).held p = none

/-- A session has moved, and something was committed with it, perhaps. -/
def after (w : Shared jobs) (i : ι) (σ : Session (Except AuthError (jobs i).Reply)) :
    Option Kept → Shared jobs
  | none => { w with sessions := Function.update w.sessions i σ }
  | some kept =>
    { table := kept.writes.over w.table
      sessions := Function.update w.sessions i σ
      commits := w.commits ++ [⟨i, kept.log, w.table, kept.writes⟩] }

/-- One of the sessions moves. -/
inductive Step (iso : Isolation) (w : Shared jobs) : Shared jobs → Prop where
  | move (i : ι) {σ : Session (Except AuthError (jobs i).Reply)} {kept : Option Kept}
      (moves : Moves iso w.table (w.Free i) (w.sessions i) σ kept) : Step iso w (w.after i σ kept)

/-- `Run iso w passed w'` — the jobs come from `w` to `w'`, one step after the other, and
`passed` is what they passed on the way, `w` first. -/
inductive Run (iso : Isolation) (w : Shared jobs) : List (Shared jobs) → Shared jobs → Prop where
  | nil : Run iso w [] w
  | snoc {passed : List (Shared jobs)} {w' w'' : Shared jobs} (run : Run iso w passed w')
      (step : Step iso w' w'') : Run iso w (passed ++ [w']) w''

/-- The job has succeeded, with a reply of the given kind. -/
def Gave (w : Shared jobs) (i : ι) (kind : (job : Job) → job.Reply → Prop) : Prop :=
  ∃ reply, (w.sessions i).script = .done (.ok reply) ∧ kind (jobs i) reply

variable (w : Shared jobs) (i : ι) (σ : Session (Except AuthError (jobs i).Reply))
  (kept : Option Kept)

@[simp] theorem sessions_after_self : (w.after i σ kept).sessions i = σ := by
  cases kept <;> exact Function.update_self ..

theorem sessions_after_of_ne {j : ι} (h : j ≠ i) :
    (w.after i σ kept).sessions j = w.sessions j := by
  cases kept <;> exact Function.update_of_ne h ..

@[simp] theorem table_after_none : (w.after i σ none).table = w.table := rfl

@[simp] theorem table_after_some (kept : Kept) :
    (w.after i σ (some kept)).table = kept.writes.over w.table := rfl

@[simp] theorem commits_after_none : (w.after i σ none).commits = w.commits := rfl

@[simp] theorem commits_after_some (kept : Kept) :
    (w.after i σ (some kept)).commits =
      w.commits ++ [⟨i, kept.log, w.table, kept.writes⟩] := rfl

end Shared

/-! ## Two calls -/

section Two

variable {job job' : Job}

/-- Two jobs. -/
def two (job job' : Job) : Bool → Job
  | true => job
  | false => job'

/-- The sessions of two jobs. -/
def both (σ : Session (Except AuthError job.Reply)) (τ : Session (Except AuthError job'.Reply)) :
    (b : Bool) → Session (Except AuthError (two job job' b).Reply)
  | true => σ
  | false => τ

/-- The table after a move that commits this. -/
def Versions.committed (table : Versions) : Option Kept → Versions
  | none => table
  | some kept => kept.writes.over table

/-- What is noted of a commit. -/
def noted (b : Bool) (table : Versions) : Option Kept → List (Commit Bool)
  | none => []
  | some kept => [⟨b, kept.log, table, kept.writes⟩]

namespace Shared

variable {iso : Isolation} {w : Shared (two job job')} {passed : List (Shared (two job job'))}
  {table : Versions} {σ σ' : Session (Except AuthError job.Reply)}
  {τ τ' : Session (Except AuthError job'.Reply)} {commits : List (Commit Bool)} {kept : Option Kept}

theorem start_two : start table (two job job') =
    ⟨table, both { script := job.script } { script := job'.script }, []⟩ := by
  unfold start
  congr 1
  funext b
  cases b <;> rfl

theorem update_both_true : Function.update (both σ τ) true σ' = both σ' τ := by
  funext b
  cases b <;> rfl

theorem update_both_false : Function.update (both σ τ) false τ' = both σ τ' := by
  funext b
  cases b <;> rfl

/-- The first of two sessions moves. -/
theorem Run.first (run : Run iso w passed ⟨table, both σ τ, commits⟩)
    (h : Moves iso table (fun p => τ.held p = none) σ σ' kept) :
    Run iso w (passed ++ [⟨table, both σ τ, commits⟩])
      ⟨table.committed kept, both σ' τ, commits ++ noted true table kept⟩ := by
  have hfree : Free ⟨table, both σ τ, commits⟩ true = fun p => τ.held p = none := by
    funext p
    exact propext ⟨fun hp => hp false (by decide), fun hp j hj => by cases j <;> trivial⟩
  rw [← hfree] at h
  have hstep := run.snoc (Step.move true h)
  cases kept <;> simpa [after, update_both_true, noted, Versions.committed] using hstep

/-- The second of two sessions moves. -/
theorem Run.second (run : Run iso w passed ⟨table, both σ τ, commits⟩)
    (h : Moves iso table (fun p => σ.held p = none) τ τ' kept) :
    Run iso w (passed ++ [⟨table, both σ τ, commits⟩])
      ⟨table.committed kept, both σ τ', commits ++ noted false table kept⟩ := by
  have hfree : Free ⟨table, both σ τ, commits⟩ false = fun p => σ.held p = none := by
    funext p
    exact propext ⟨fun hp => hp true (by decide), fun hp j hj => by cases j <;> trivial⟩
  rw [← hfree] at h
  have hstep := run.snoc (Step.move false h)
  cases kept <;> simpa [after, update_both_false, noted, Versions.committed] using hstep

/-- The first session carries a statement out that visits one row. -/
theorem Run.first_visits (run : Run iso w passed ⟨table, both σ τ, commits⟩) {s : Statement} {next}
    (h : σ.script = .send s next) (opened : σ.opened = true) (sound : σ.failed = false)
    (idle : σ.search = none) {stamp : Stamp} {p : Place} {r : p.Row} {n : s.Result}
    (found : iso.Found table σ.held stamp s [p]) (unheld : τ.held p = none)
    (picks : s.effect stamp p (σ.held.over table p) = some r)
    (gives : s.Gives iso table (Function.update σ.held p (some r)) stamp [p] n) :
    ∃ passed', Run iso w passed' ⟨table,
      both { script := next (.ok n), opened := true, log := σ.log ++ [.statement s (.ok n)]
             held := Function.update σ.held p (some r) } τ, commits⟩ := by
  obtain ⟨script, opened', failed, log, held, search⟩ := σ
  subst opened sound idle
  have hstart := run.first (.start h rfl rfl found)
  have htake := hstart.first (.take (by exact h) rfl unheld picks)
  have hanswer := htake.first (.answer (by exact h) rfl rfl gives)
  simp only [noted, List.append_nil] at hanswer
  exact ⟨_, hanswer⟩

/-- The first session carries a statement out that visits none. -/
theorem Run.first_reads (run : Run iso w passed ⟨table, both σ τ, commits⟩) {s : Statement} {next}
    (h : σ.script = .send s next) (opened : σ.opened = true) (sound : σ.failed = false)
    (idle : σ.search = none) {stamp : Stamp} {n : s.Result}
    (found : iso.Found table σ.held stamp s []) (gives : s.Gives iso table σ.held stamp [] n) :
    ∃ passed', Run iso w passed' ⟨table,
      both { script := next (.ok n), opened := true, log := σ.log ++ [.statement s (.ok n)]
             held := σ.held } τ, commits⟩ := by
  obtain ⟨script, opened', failed, log, held, search⟩ := σ
  subst opened sound idle
  have hstart := run.first (.start h rfl rfl found)
  have hanswer := hstart.first (.answer (by exact h) rfl rfl gives)
  simp only [noted, List.append_nil] at hanswer
  exact ⟨_, hanswer⟩

end Shared

end Two

end Gatehouse.Sql
