/-
  How far a call has come.

  A call says something, waits, and goes on by the answer, while others do the same.  What matters
  of a session in the middle of its call is little:

  * a call in one transaction (`InTransaction`) has not opened it yet, or is inside with part of
    what it is to say behind it, or has ended; if it ended well, it has committed all that was to be
    said;
  * a call with one statement (`Alone`) has that statement before it, or has carried it out.

  So what a session has committed is known from its job (`Job.Keeps`), whatever the others did
  meanwhile (`Job.Stage.move`).
-/
import Gatehouse.Proofs.Sql.Locking

namespace Gatehouse.Sql

variable {α β : Type} {iso : Isolation} {table : Versions} {free : Place → Prop}

/-- Every script comes to an end with some answers. -/
theorem Script.exists_yields (p : Script α) : ∃ es a, p.Yields es a := by
  induction p with
  | done a => exact ⟨[], a, rfl, rfl⟩
  | acquire next ih =>
    obtain ⟨es, a, h⟩ := ih (.ok ())
    exact ⟨es, a, _, h⟩
  | begin next ih =>
    obtain ⟨es, a, h⟩ := ih (.ok ())
    exact ⟨_, a, _, es, rfl, h⟩
  | commit next ih =>
    obtain ⟨es, a, h⟩ := ih (.ok ())
    exact ⟨_, a, _, es, rfl, h⟩
  | rollback next ih =>
    obtain ⟨es, a, h⟩ := ih
    exact ⟨_, a, es, rfl, h⟩
  | send s next ih =>
    obtain ⟨es, a, h⟩ := ih (.error .poolClosed)
    exact ⟨_, a, _, es, rfl, h⟩

/-! ## What moves there are -/

namespace Moves

variable {σ σ' : Session β} {kept : Option Kept}

theorem not_done (h : Moves iso table free σ σ' kept) {b : β} (hs : σ.script = .done b) :
    False := by
  cases h <;> simp_all

theorem of_acquire (h : Moves iso table free σ σ' kept) {next} (hs : σ.script = .acquire next) :
    kept = none ∧ ∃ answer, σ' = { script := next answer } := by
  cases h with
  | acquire h closed answer =>
    obtain rfl := Script.acquire.inj (h.symm.trans hs)
    exact ⟨rfl, answer, rfl⟩
  | _ => simp_all

theorem of_begin (h : Moves iso table free σ σ' kept) {next} (hs : σ.script = .begin next) :
    kept = none ∧ ∃ answer : Except DatabaseError Unit,
      σ' = { script := next answer, opened := answer.isOk } := by
  cases h with
  | begin h closed answer =>
    obtain rfl := Script.begin.inj (h.symm.trans hs)
    exact ⟨rfl, answer, rfl⟩
  | _ => simp_all

theorem of_rollback (h : Moves iso table free σ σ' kept) {next} (hs : σ.script = .rollback next) :
    kept = none ∧ σ' = { script := next } := by
  cases h with
  | rollback h =>
    obtain rfl := Script.rollback.inj (h.symm.trans hs)
    exact ⟨rfl, rfl⟩
  | _ => simp_all

/-- A commit takes effect, or it is known not to have done so. -/
theorem of_commit (h : Moves iso table free σ σ' kept) {next} (hs : σ.script = .commit next) :
    ∃ answer, σ' = { script := next answer } ∧
      ((kept = some ⟨σ.log, σ.held⟩ ∧ σ.failed = false) ∨
        kept = none ∧ (answer = .ok () → σ.failed = true)) := by
  cases h with
  | commit h opened sound answer =>
    obtain rfl := Script.commit.inj (h.symm.trans hs)
    exact ⟨answer, rfl, Or.inl ⟨rfl, sound⟩⟩
  | refuse h void =>
    obtain rfl := Script.commit.inj (h.symm.trans hs)
    exact ⟨_, rfl, Or.inr ⟨rfl, void⟩⟩
  | _ => simp_all

/-- A statement in a transaction goes on, or it is answered and noted. -/
theorem of_send (h : Moves iso table free σ σ' kept) {s next} (hs : σ.script = .send s next)
    (opened : σ.opened = true) :
    kept = none ∧ σ'.opened = true ∧
      ((σ'.script = σ.script ∧ σ'.log = σ.log ∧ σ'.failed = σ.failed) ∨
        ∃ answer, σ'.script = next answer ∧ σ'.log = σ.log ++ [.statement s answer] ∧
          (σ'.failed = true → σ.failed = true ∨ ∃ e, answer = .error e)) := by
  cases h with
  | start h idle sound found => exact ⟨rfl, opened, Or.inl ⟨rfl, rfl, rfl⟩⟩
  | take h searching unheld picks => exact ⟨rfl, opened, Or.inl ⟨rfl, rfl, rfl⟩⟩
  | skip h searching unheld seeks passes => exact ⟨rfl, opened, Or.inl ⟨rfl, rfl, rfl⟩⟩
  | answer h opened' searched gives =>
    obtain ⟨rfl, hnext⟩ := Script.send.inj (h.symm.trans hs)
    obtain rfl := eq_of_heq hnext
    exact ⟨rfl, opened, Or.inr ⟨_, rfl, rfl, Or.inl⟩⟩
  | alone h closed searched gives told => simp [opened] at closed
  | fail h e =>
    obtain ⟨rfl, hnext⟩ := Script.send.inj (h.symm.trans hs)
    obtain rfl := eq_of_heq hnext
    exact ⟨rfl, opened, Or.inr ⟨_, rfl, if_pos opened, fun _ => Or.inr ⟨e, rfl⟩⟩⟩
  | _ => simp_all

/-- A statement alone goes on, or it takes effect, or it fails. -/
theorem of_send_alone (h : Moves iso table free σ σ' kept) {s next}
    (hs : σ.script = .send s next) (closed : σ.opened = false) :
    σ'.opened = false ∧
      ((kept = none ∧ (σ'.script = σ.script ∨ ∃ e, σ'.script = next (.error e))) ∨
        ∃ r answer, kept = some ⟨[.statement s (.ok r)], σ.held⟩ ∧ σ'.script = next answer ∧
          (answer = .ok r ∨ ∃ e, answer = .error e)) := by
  cases h with
  | start h idle sound found => exact ⟨closed, Or.inl ⟨rfl, Or.inl rfl⟩⟩
  | take h searching unheld picks => exact ⟨closed, Or.inl ⟨rfl, Or.inl rfl⟩⟩
  | skip h searching unheld seeks passes => exact ⟨closed, Or.inl ⟨rfl, Or.inl rfl⟩⟩
  | answer h opened searched gives => simp [closed] at opened
  | alone h closed' searched gives told =>
    obtain ⟨rfl, hnext⟩ := Script.send.inj (h.symm.trans hs)
    obtain rfl := eq_of_heq hnext
    exact ⟨rfl, Or.inr ⟨_, _, rfl, rfl, told⟩⟩
  | fail h e =>
    obtain ⟨rfl, hnext⟩ := Script.send.inj (h.symm.trans hs)
    obtain rfl := eq_of_heq hnext
    exact ⟨closed, Or.inl ⟨rfl, Or.inr ⟨e, rfl⟩⟩⟩
  | _ => simp_all

end Moves

/-! ## In one transaction -/

/-- How far a call has come that carries `body` out in one transaction and ends with `k`.  The
transactions that it has committed are those in `kept`. -/
inductive InTransaction (body : Conversation α) (k : Except AuthError α → β)
    (kept : List Answered → Prop) (σ : Session β) : Prop where
  /-- There is no connection yet. -/
  | unconnected (h : σ.script =
      (ExceptT.run (Conversation.connected (Conversation.transaction body))).bind fun r =>
        .done (k r))
  /-- The transaction is not opened yet. -/
  | connected (h : σ.script =
      (ExceptT.run (Conversation.transaction body)).bind fun r => .done (k r))
  /-- Part of what the transaction is to say was said. -/
  | inside (p : Script (Except AuthError α))
      (h : σ.script = (p.bind Conversation.finish).bind fun r => .done (k r))
      (opened : σ.opened = true)
      (yields : ∀ {rest r}, p.Yields rest r → body.Yields (σ.log ++ rest) r)
      (failed : σ.failed = true → ∃ x ∈ σ.log, ¬ x.Succeeded)
  /-- The commit did not succeed. -/
  | refused (e : AuthError) (h : σ.script = .rollback (.done (k (.error e))))
  /-- The call has failed. -/
  | failed (e : AuthError) (h : σ.script = .done (k (.error e)))
  /-- The call has succeeded. -/
  | ended (a : α) (h : σ.script = .done (k (.ok a))) (log : List Answered) (said : kept log)
      (yields : body.Yields log (.ok a))

namespace InTransaction

variable {body : Conversation α} {k : Except AuthError α → β}
  {kept kept' : List Answered → Prop} {σ σ' : Session β} {new : Option Kept}

theorem mono (stage : InTransaction body k kept σ) (h : ∀ {log}, kept log → kept' log) :
    InTransaction body k kept' σ := by
  cases stage with
  | unconnected hs => exact .unconnected hs
  | connected hs => exact .connected hs
  | inside p hs opened yields failed => exact .inside p hs opened yields failed
  | refused e hs => exact .refused e hs
  | failed e hs => exact .failed e hs
  | ended a hs log said yields => exact .ended a hs log (h said) yields

/-- A move inside the transaction. -/
theorem move_inside (strict : body.Strict) (h : Moves iso table free σ σ' new)
    (p : Script (Except AuthError α))
    (hscript : σ.script = (p.bind Conversation.finish).bind fun r => .done (k r))
    (opened : σ.opened = true)
    (yields : ∀ {rest r}, p.Yields rest r → body.Yields (σ.log ++ rest) r)
    (failed : σ.failed = true → ∃ x ∈ σ.log, ¬ x.Succeeded)
    (hnew : ∀ {x}, new = some x → kept' x.log) :
    InTransaction body k kept' σ' ∧
      ∀ {x}, new = some x → ∃ a, body.Yields x.log (.ok a) := by
  -- the conversation sends statements only
  have statements {y : Answered} {q : Script (Except AuthError α)}
      (hq : ∀ {rest r}, q.Yields rest r → p.Yields (y :: rest) r) : y.IsStatement := by
    obtain ⟨rest, r, hrest⟩ := q.exists_yields
    exact strict.statements (yields (hq hrest)) y (by simp)
  cases p with
  | done r =>
    have hbody : body.Yields σ.log r := by simpa using yields ⟨rfl, rfl⟩
    cases r with
    | error e =>
      obtain ⟨rfl, rfl⟩ := h.of_rollback hscript
      exact ⟨.failed e rfl, fun hx => by cases hx⟩
    | ok a =>
      obtain ⟨answer, rfl, ⟨rfl, -⟩ | ⟨rfl, hvoid⟩⟩ := h.of_commit hscript
      · refine ⟨?_, fun hx => ⟨a, Option.some.inj hx ▸ hbody⟩⟩
        cases answer with
        | ok u => exact .ended a rfl σ.log (hnew rfl) hbody
        | error e => exact .refused _ rfl
      · refine ⟨?_, fun hx => by cases hx⟩
        cases answer with
        | ok u =>
          -- a transaction that has failed would not come to its commit
          obtain ⟨x, hx, hfailed⟩ := failed (hvoid rfl)
          exact absurd (strict.carriedOut hbody x hx) hfailed
        | error e => exact .refused _ rfl
  | acquire next =>
    cases h with
    | acquire h closed answer => simp [opened] at closed
    | _ => simp_all [Script.bind]
  | begin next => exact (statements (y := .begin (.ok ())) fun hq => ⟨_, _, rfl, hq⟩).elim
  | commit next => exact (statements (y := .commit (.ok ())) fun hq => ⟨_, _, rfl, hq⟩).elim
  | rollback next => exact (statements (y := .rollback) fun hq => ⟨_, rfl, hq⟩).elim
  | send s next =>
    obtain ⟨rfl, hopened, ⟨hsame, hlog, hfailed⟩ | ⟨answer, hnext, hlog, hfailed⟩⟩ :=
      h.of_send hscript opened
    · refine ⟨.inside (.send s next) (hsame.trans hscript) hopened ?_ ?_, fun hx => by cases hx⟩
      · intro rest r hrest
        exact hlog ▸ yields hrest
      · intro hf
        exact hlog ▸ failed (hfailed ▸ hf)
    · refine ⟨.inside (next answer) hnext hopened ?_ ?_, fun hx => by cases hx⟩
      · intro rest r hrest
        have hsent : (Script.send s next).Yields (.statement s answer :: rest) r :=
          ⟨_, _, rfl, hrest⟩
        have hbody := yields hsent
        rw [hlog, List.append_assoc]
        exact hbody
      · intro hf
        rw [hlog]
        rcases hfailed hf with hf | ⟨e, rfl⟩
        · obtain ⟨x, hx, hfailed⟩ := failed hf
          exact ⟨x, List.mem_append_left _ hx, hfailed⟩
        · exact ⟨_, List.mem_append_right _ (List.mem_singleton_self _), id⟩

/-- **A move of a call that runs in one transaction.**  What it commits is all that was to be
said. -/
theorem move (strict : body.Strict) (stage : InTransaction body k kept σ)
    (h : Moves iso table free σ σ' new) (hnew : ∀ {x}, new = some x → kept' x.log) :
    InTransaction body k kept' σ' ∧
      ∀ {x}, new = some x → ∃ a, body.Yields x.log (.ok a) := by
  cases stage with
  | unconnected hs =>
    obtain ⟨rfl, answer, rfl⟩ := h.of_acquire hs
    refine ⟨?_, fun hx => by cases hx⟩
    cases answer with
    | error e => exact .failed _ rfl
    | ok u => exact .connected rfl
  | connected hs =>
    obtain ⟨rfl, answer, rfl⟩ := h.of_begin hs
    refine ⟨?_, fun hx => by cases hx⟩
    cases answer with
    | error e => exact .failed _ rfl
    | ok u => exact .inside (ExceptT.run body) rfl rfl id fun hf => by cases hf
  | inside p hs opened yields failed =>
    exact move_inside strict h p hs opened yields failed hnew
  | refused e hs =>
    obtain ⟨rfl, rfl⟩ := h.of_rollback hs
    exact ⟨.failed e rfl, fun hx => by cases hx⟩
  | failed e hs => exact (h.not_done hs).elim
  | ended a hs log said yields => exact (h.not_done hs).elim

/-- A call that has come to its end has failed, or it has committed all that was to be said. -/
theorem of_done (stage : InTransaction body k kept σ) {b : β} (hs : σ.script = .done b) :
    (∃ e, b = k (.error e)) ∨ ∃ a log, b = k (.ok a) ∧ kept log ∧ body.Yields log (.ok a) := by
  cases stage with
  | unconnected h => cases h.symm.trans hs
  | connected h => cases h.symm.trans hs
  | inside p h opened yields failed =>
    cases p with
    | done r => cases r <;> cases h.symm.trans hs
    | _ => cases h.symm.trans hs
  | refused e h => cases h.symm.trans hs
  | failed e h => exact Or.inl ⟨e, (Script.done.inj (h.symm.trans hs)).symm⟩
  | ended a h log said yields =>
    exact Or.inr ⟨a, log, (Script.done.inj (h.symm.trans hs)).symm, said, yields⟩

end InTransaction

/-! ## With one statement -/

/-- A script that sends one statement at most, and fails if that fails. -/
inductive Script.Single (s : Statement) : Script (Except AuthError α) → Prop where
  | acquire {next} (h : ∀ answer, Single s (next answer)) : Single s (.acquire next)
  | send {next} (fails : ∀ e, ∃ e', next (.error e) = .done (.error e'))
      (ends : ∀ r, ∃ b, next (.ok r) = .done b) : Single s (.send s next)
  | failed (e : AuthError) : Single s (.done (.error e))

/-- How far a call has come that has one statement: it is before the end of that statement, or it
has carried it out. -/
structure Alone (s : Statement) (kept : List Answered → Prop) (σ : Session (Except AuthError α)) :
    Prop where
  closed : σ.opened = false
  script : Script.Single s σ.script ∨
    ∃ r b, σ.script = .done b ∧ kept [.statement s (.ok r)]

namespace Alone

variable {s : Statement} {kept kept' : List Answered → Prop}
  {σ σ' : Session (Except AuthError α)} {new : Option Kept}

theorem mono (stage : Alone s kept σ) (h : ∀ {log}, kept log → kept' log) : Alone s kept' σ where
  closed := stage.closed
  script := stage.script.imp id fun ⟨r, b, hdone, hkept⟩ => ⟨r, b, hdone, h hkept⟩

/-- **A move of a call with one statement.**  What it commits is that statement. -/
theorem move (stage : Alone s kept σ) (h : Moves iso table free σ σ' new)
    (hnew : ∀ {x}, new = some x → kept' x.log) :
    Alone s kept' σ' ∧ ∀ {x}, new = some x → ∃ r, x.log = [.statement s (.ok r)] := by
  obtain ⟨closed, hsingle | ⟨r, b, hdone, -⟩⟩ := stage
  · generalize hp : σ.script = p at hsingle
    cases hsingle with
    | acquire hnext =>
      obtain ⟨rfl, answer, rfl⟩ := h.of_acquire hp
      exact ⟨⟨rfl, Or.inl (hnext answer)⟩, fun hx => by cases hx⟩
    | @send next fails ends =>
      obtain ⟨hclosed, ⟨rfl, hsame | ⟨e, he⟩⟩ | ⟨r, answer, rfl, hanswer, htold⟩⟩ :=
        h.of_send_alone hp closed
      · refine ⟨⟨hclosed, Or.inl ?_⟩, fun hx => by cases hx⟩
        rw [hsame, hp]
        exact .send fails ends
      · obtain ⟨e', he'⟩ := fails e
        refine ⟨⟨hclosed, Or.inl ?_⟩, fun hx => by cases hx⟩
        rw [he, he']
        exact .failed e'
      · have hkept' : kept' [.statement s (.ok r)] := hnew rfl
        refine ⟨⟨hclosed, Or.inr ?_⟩, fun hx => ⟨r, Option.some.inj hx ▸ rfl⟩⟩
        rcases htold with rfl | ⟨e, rfl⟩
        · obtain ⟨b, hb⟩ := ends r
          exact ⟨r, b, hanswer.trans hb, hkept'⟩
        · obtain ⟨e', he'⟩ := fails e
          exact ⟨r, _, hanswer.trans he', hkept'⟩
    | failed e => exact (h.not_done hp).elim
  · exact (h.not_done hdone).elim

/-- A call that has succeeded has committed its statement. -/
theorem exists_kept (stage : Alone s kept σ) {b : α} (hs : σ.script = .done (.ok b)) :
    ∃ r, kept [.statement s (.ok r)] := by
  obtain ⟨-, hsingle | ⟨r, b, -, hkept⟩⟩ := stage
  · rw [hs] at hsingle
    cases hsingle
  · exact ⟨r, hkept⟩

end Alone

/-! ## Jobs -/

/-- A conversation with one statement after it, whose answer decides the rest. -/
theorem Script.single_send_bind {s : Statement} {f : s.Result → Conversation α}
    (ends : ∀ r, ∃ b, ExceptT.run (f r) = .done b) :
    Script.Single s (ExceptT.run (Conversation.connected (Conversation.send s >>= f))) := by
  refine .acquire fun answer => ?_
  cases answer with
  | error e => exact .failed _
  | ok u => exact .send (fun e => ⟨_, rfl⟩) ends

namespace Job

/-- The statement of a job that has only one. -/
def statement? : Job → Option Statement
  | call (.insertRefresh digest user expiresAt client) =>
    some (.insertRefresh user digest expiresAt client)
  | call (.revoke digest replacedBy) => some (.revokeOne digest replacedBy)
  | call (.revokeAll user) => some (.revokeUser user)
  | call (.insertReset digest user expiresAt) => some (.insertReset user digest expiresAt)
  | call (.findByEmail email) => some (.findByEmail (Text.trim email))
  | call (.findById user) => some (.findById user)
  | call (.setPassword user hash) => some (.setPassword user hash)
  | findRefresh digest => some (.findRefresh digest)
  | createUser email name hash role => some (.createUser (Text.trim email) name hash role)
  | call (.rotate ..) | call (.consumeReset _) => none

/-- What the log of a transaction says that a job has committed. -/
def Keeps : Job → List Answered → Prop
  | call (.rotate old new expiresAt client), log =>
    ∃ a, (rotateLocked old new expiresAt client).Yields log (.ok a)
  | call (.consumeReset digest), log => ∃ user, (consumeLocked digest).Yields log (.ok user)
  | job, log => ∃ s r, job.statement? = some s ∧ log = [.statement s (.ok r)]

/-- How far a job has come. -/
def Stage : (job : Job) → (List Answered → Prop) → Session (Except AuthError job.Reply) → Prop
  | call (.rotate old new expiresAt client), kept, σ =>
    InTransaction (rotateLocked old new expiresAt client) id kept σ
  | call (.consumeReset digest), kept, σ =>
    InTransaction (consumeLocked digest) (Except.map (·, [])) kept σ
  | job, kept, σ => ∃ s, job.statement? = some s ∧ Alone s kept σ

theorem single_script {job : Job} {s : Statement} (h : job.statement? = some s) :
    Script.Single s job.script := by
  cases job with
  | call c =>
    cases c with
    | rotate old new expiresAt client => cases h
    | consumeReset digest => cases h
    | revoke digest replacedBy =>
      obtain rfl := Option.some.inj h
      refine Script.single_send_bind fun n => ?_
      by_cases hn : n = 0
      · exact ⟨_, congrArg ExceptT.run (if_pos hn)⟩
      · exact ⟨_, congrArg ExceptT.run (if_neg hn)⟩
    | setPassword user hash =>
      obtain rfl := Option.some.inj h
      refine Script.single_send_bind fun n => ?_
      by_cases hn : n = 0
      · exact ⟨_, congrArg ExceptT.run (if_pos hn)⟩
      · exact ⟨_, congrArg ExceptT.run (if_neg hn)⟩
    | findByEmail email =>
      obtain rfl := Option.some.inj h
      show Script.Single _ (ExceptT.run (Conversation.connected
        ((Conversation.send (.findByEmail (Text.trim email))).first? >>= fun account =>
          pure (account, []))))
      rw [Conversation.first?_bind]
      exact Script.single_send_bind fun r => ⟨_, rfl⟩
    | findById user =>
      obtain rfl := Option.some.inj h
      show Script.Single _ (ExceptT.run (Conversation.connected
        ((Conversation.send (.findById user)).first? >>= fun account =>
          pure (account.map (·.user), []))))
      rw [Conversation.first?_bind]
      exact Script.single_send_bind fun r => ⟨_, rfl⟩
    | _ =>
      obtain rfl := Option.some.inj h
      exact Script.single_send_bind fun r => ⟨_, rfl⟩
  | findRefresh digest =>
    obtain rfl := Option.some.inj h
    exact Script.single_send_bind fun r => ⟨_, rfl⟩
  | createUser email name hash role =>
    obtain rfl := Option.some.inj h
    show Script.Single _ (ExceptT.run (Sql.createUser email name hash role))
    unfold Sql.createUser
    rw [Conversation.first?_bind]
    refine Script.single_send_bind fun users => ?_
    cases users <;> exact ⟨_, rfl⟩

/-- At the beginning, nothing was said. -/
theorem stage_start (job : Job) (kept : List Answered → Prop) :
    job.Stage kept { script := job.script } := by
  have alone {s : Statement} (h : job.statement? = some s) :
      ∃ s, job.statement? = some s ∧
        Alone s kept { script := job.script : Session (Except AuthError job.Reply) } :=
    ⟨s, h, rfl, Or.inl (single_script h)⟩
  cases job with
  | call c =>
    cases c with
    | rotate old new expiresAt client => exact .unconnected (Script.bind_done _).symm
    | consumeReset digest =>
      refine .unconnected (congrArg Script.acquire (funext fun answer => ?_))
      cases answer with
      | error e => rfl
      | ok u =>
        refine congrArg (Script.bind · (ExceptT.run
          (Conversation.transaction (consumeLocked digest)))) (funext fun r => ?_)
        cases r <;> rfl
    | _ => exact alone rfl
  | findRefresh digest => exact alone rfl
  | createUser email name hash role => exact alone rfl

variable {job : Job} {kept kept' : List Answered → Prop}
  {σ σ' : Session (Except AuthError job.Reply)} {new : Option Kept}

/-- More may be committed, and the stage is the same. -/
theorem Stage.mono (stage : job.Stage kept σ) (h : ∀ {log}, kept log → kept' log) :
    job.Stage kept' σ := by
  have alone (hs : ∃ s, job.statement? = some s ∧ Alone s kept σ) :
      ∃ s, job.statement? = some s ∧ Alone s kept' σ := by
    obtain ⟨s, hjob, hs⟩ := hs
    exact ⟨s, hjob, hs.mono h⟩
  cases job with
  | call c =>
    cases c with
    | rotate old new expiresAt client => exact InTransaction.mono stage h
    | consumeReset digest => exact InTransaction.mono stage h
    | _ => exact alone stage
  | findRefresh digest => exact alone stage
  | createUser email name hash role => exact alone stage

/-- **A move of a job leads to its next stage, and what it commits is what the job is to say.** -/
theorem Stage.move (stage : job.Stage kept σ) (h : Moves iso table free σ σ' new)
    (hnew : ∀ {x}, new = some x → kept' x.log) :
    job.Stage kept' σ' ∧ ∀ {x}, new = some x → job.Keeps x.log := by
  have alone (hs : ∃ s, job.statement? = some s ∧ Alone s kept σ) :
      (∃ s, job.statement? = some s ∧ Alone s kept' σ') ∧
        ∀ {x}, new = some x → ∃ s r, job.statement? = some s ∧ x.log = [.statement s (.ok r)] := by
    obtain ⟨s, hjob, hs⟩ := hs
    obtain ⟨hafter, hlog⟩ := hs.move h hnew
    refine ⟨⟨s, hjob, hafter⟩, fun hx => ?_⟩
    obtain ⟨r, hr⟩ := hlog hx
    exact ⟨s, r, hjob, hr⟩
  cases job with
  | call c =>
    cases c with
    | rotate old new expiresAt client =>
      exact InTransaction.move (strict_rotateLocked old new expiresAt client) stage h hnew
    | consumeReset digest => exact InTransaction.move (strict_consumeLocked digest) stage h hnew
    | _ => exact alone stage
  | findRefresh digest => exact alone stage
  | createUser email name hash role => exact alone stage

end Job

end Gatehouse.Sql
