/-
  What a script and a database say to each other.

  A transcript is the list of the messages that were sent, each with its answer.  There are two ways
  to speak of it.  `Script.transcript` is the transcript of a run against a database.
  `p.Yields es a` leaves the database out: if the answers are those in `es`, whatever they are, then
  `p` sends exactly the messages in `es` and ends with `a`.  Every run is one of these
  (`yields_transcript`), so what holds of all transcripts that a script yields holds with every
  database.

  `Yields` goes through `bind`, so the transcripts of a conversation are read off its text, one
  statement at a time (`yields_send_bind`).
-/
import Gatehouse.Sql.Store

namespace Gatehouse.Sql

/-- A message to the database with its answer. -/
inductive Answered where
  | begin (answer : Except DatabaseError Unit)
  | commit (answer : Except DatabaseError Unit)
  | rollback
  | statement (s : Statement) (answer : Except DatabaseError s.Result)

namespace Answered

/-- The message. -/
def message : Answered → Message
  | begin _ => .begin
  | commit _ => .commit
  | rollback => .rollback
  | statement s _ => .statement s

/-- The message is a statement. -/
def IsStatement : Answered → Prop
  | statement .. => True
  | _ => False

/-- The message is a statement, and it was carried out. -/
def Succeeded : Answered → Prop
  | statement _ (.ok _) => True
  | _ => False

end Answered

variable {α β δ : Type} {es : List Answered}

namespace Script

theorem bind_done (p : Script α) : p.bind done = p := by
  induction p with
  | done a => rfl
  | acquire next ih => exact congrArg acquire (funext ih)
  | begin next ih => exact congrArg begin (funext ih)
  | commit next ih => exact congrArg commit (funext ih)
  | rollback next ih => exact congrArg rollback ih
  | send s next ih => exact congrArg (send s) (funext ih)

theorem bind_assoc {γ : Type} (p : Script α) (f : α → Script β) (g : β → Script γ) :
    (p.bind f).bind g = p.bind fun a => (f a).bind g := by
  induction p with
  | done a => rfl
  | acquire next ih => exact congrArg acquire (funext ih)
  | begin next ih => exact congrArg begin (funext ih)
  | commit next ih => exact congrArg commit (funext ih)
  | rollback next ih => exact congrArg rollback ih
  | send s next ih => exact congrArg (send s) (funext ih)

instance : LawfulMonad Script := LawfulMonad.mk' Script bind_done (fun _ _ => rfl) bind_assoc

/-! ## Transcripts of runs -/

/-- The messages that a script sends to a database, with their answers. -/
def transcript (db : Database δ) : Script α → δ → List Answered
  | done _, _ => []
  | acquire next, d => (next (db.acquire d)).transcript db d
  | begin next, d =>
    .begin (db.begin d).1 :: (next (db.begin d).1).transcript db (db.begin d).2
  | commit next, d =>
    .commit (db.commit d).1 :: (next (db.commit d).1).transcript db (db.commit d).2
  | rollback next, d => .rollback :: next.transcript db (db.rollback d)
  | send s next, d =>
    .statement s (db.execute s d).1 ::
      (next (db.execute s d).1).transcript db (db.execute s d).2

/-- The messages of the transcript are the messages that were sent. -/
theorem map_message_transcript (db : Database δ) (p : Script α) (d : δ) :
    (p.transcript db d).map Answered.message = (p.run db d).2.2 := by
  induction p generalizing d with
  | done a => rfl
  | acquire next ih => exact ih _ d
  | begin next ih => exact congrArg (Message.begin :: ·) (ih _ _)
  | commit next ih => exact congrArg (Message.commit :: ·) (ih _ _)
  | rollback next ih => exact congrArg (Message.rollback :: ·) (ih _)
  | send s next ih => exact congrArg (Message.statement s :: ·) (ih _ _)

/-! ## Transcripts with any answers -/

/-- With the answers of `es` the script sends exactly the messages of `es`, and it ends with the
value. -/
def Yields : Script α → List Answered → α → Prop
  | done a, es, b => es = [] ∧ b = a
  | acquire next, es, b => ∃ r, (next r).Yields es b
  | begin next, es, b => ∃ r rest, es = .begin r :: rest ∧ (next r).Yields rest b
  | commit next, es, b => ∃ r rest, es = .commit r :: rest ∧ (next r).Yields rest b
  | rollback next, es, b => ∃ rest, es = .rollback :: rest ∧ next.Yields rest b
  | send s next, es, b => ∃ r rest, es = .statement s r :: rest ∧ (next r).Yields rest b

/-- What a run says is something that the script yields. -/
theorem yields_transcript (db : Database δ) (p : Script α) (d : δ) :
    p.Yields (p.transcript db d) (p.run db d).1 := by
  induction p generalizing d with
  | done a => exact ⟨rfl, rfl⟩
  | acquire next ih => exact ⟨_, ih _ d⟩
  | begin next ih => exact ⟨_, _, rfl, ih _ _⟩
  | commit next ih => exact ⟨_, _, rfl, ih _ _⟩
  | rollback next ih => exact ⟨_, rfl, ih _⟩
  | send s next ih => exact ⟨_, _, rfl, ih _ _⟩

/-- A transcript of two scripts one after the other is a transcript of the first, and then one of
the second. -/
theorem yields_bind {p : Script α} {f : α → Script β} {b : β} (h : (p.bind f).Yields es b) :
    ∃ first a rest, es = first ++ rest ∧ p.Yields first a ∧ (f a).Yields rest b := by
  induction p generalizing es with
  | done a => exact ⟨[], a, es, rfl, ⟨rfl, rfl⟩, h⟩
  | acquire next ih =>
    obtain ⟨r, h⟩ := h
    obtain ⟨first, a, rest, hes, hfirst, hrest⟩ := ih r h
    exact ⟨first, a, rest, hes, ⟨r, hfirst⟩, hrest⟩
  | begin next ih =>
    obtain ⟨r, es', rfl, h⟩ := h
    obtain ⟨first, a, rest, rfl, hfirst, hrest⟩ := ih r h
    exact ⟨.begin r :: first, a, rest, rfl, ⟨r, first, rfl, hfirst⟩, hrest⟩
  | commit next ih =>
    obtain ⟨r, es', rfl, h⟩ := h
    obtain ⟨first, a, rest, rfl, hfirst, hrest⟩ := ih r h
    exact ⟨.commit r :: first, a, rest, rfl, ⟨r, first, rfl, hfirst⟩, hrest⟩
  | rollback next ih =>
    obtain ⟨es', rfl, h⟩ := h
    obtain ⟨first, a, rest, rfl, hfirst, hrest⟩ := ih h
    exact ⟨.rollback :: first, a, rest, rfl, ⟨first, rfl, hfirst⟩, hrest⟩
  | send s next ih =>
    obtain ⟨r, es', rfl, h⟩ := h
    obtain ⟨first, a, rest, rfl, hfirst, hrest⟩ := ih r h
    exact ⟨.statement s r :: first, a, rest, rfl, ⟨r, first, rfl, hfirst⟩, hrest⟩

end Script

/-! ## Conversations -/

namespace Conversation

/-- The transcripts of a conversation, with its outcome. -/
def Yields (c : Conversation α) (es : List Answered) (r : Except AuthError α) : Prop :=
  (ExceptT.run c).Yields es r

variable {r : Except AuthError α}

theorem yields_pure {a : α} (h : (pure a : Conversation α).Yields es r) : es = [] ∧ r = .ok a := h

theorem yields_throw {e : AuthError} (h : (throw e : Conversation α).Yields es r) :
    es = [] ∧ r = .error e := h

/-- A statement fails, and that is the end, or its result decides how it goes on. -/
theorem yields_send_bind {s : Statement} {f : s.Result → Conversation α}
    (h : (send s >>= f).Yields es r) :
    (∃ e, es = [.statement s (.error e)] ∧ r = .error (.persistence e)) ∨
      ∃ v rest, es = .statement s (.ok v) :: rest ∧ (f v).Yields rest r := by
  obtain ⟨answer, rest, rfl, h⟩ := h
  cases answer with
  | error e =>
    obtain ⟨rfl, rfl⟩ := h
    exact Or.inl ⟨e, rfl, rfl⟩
  | ok v => exact Or.inr ⟨v, rest, rfl, h⟩

theorem first?_bind (rows : Conversation (List α)) (f : Option α → Conversation β) :
    first? rows >>= f = rows >>= fun l => f l.head? :=
  bind_map_left List.head? rows f

/-- The outcome of a conversation whose value is changed at the end. -/
theorem yields_map {c : Conversation α} {f : α → β} {r : Except AuthError β}
    (h : (f <$> c).Yields es r) : ∃ r', c.Yields es r' ∧ r = r'.map f := by
  obtain ⟨first, r', rest, rfl, hfirst, hrest⟩ := Script.yields_bind h
  cases r' with
  | error e =>
    obtain ⟨rfl, rfl⟩ := hrest
    exact ⟨.error e, by rwa [List.append_nil], rfl⟩
  | ok a =>
    obtain ⟨rfl, rfl⟩ := hrest
    exact ⟨.ok a, by rwa [List.append_nil], rfl⟩

/-- The same on a connection from the pool. -/
theorem yields_connected_map {c : Conversation α} {f : α → β} {r : Except AuthError β}
    (h : (connected (f <$> c)).Yields es r) : ∃ r', (connected c).Yields es r' ∧ r = r'.map f := by
  obtain ⟨connection, h⟩ := h
  cases connection with
  | error e =>
    obtain ⟨rfl, rfl⟩ := h
    exact ⟨.error (.persistence e), ⟨.error e, rfl, rfl⟩, rfl⟩
  | ok u =>
    obtain ⟨r', hr', hr⟩ := yields_map h
    exact ⟨r', ⟨.ok u, hr'⟩, hr⟩

end Conversation

/-! ## Behind the service -/

/-- What is said for a call to the store, starting from a state of the database. -/
def exchanged (db : Database δ) (call : Call) (d : δ) : List Answered :=
  (ExceptT.run (Conversation.connected (conversation call))).transcript db d

theorem backend_fst (db : Database δ) (call : Call) (now : Instant) (s : Store δ) :
    (backend db call now s).1 =
      ((ExceptT.run (Conversation.connected (conversation call))).run db s.state).1.map
        Prod.fst := by
  unfold backend Store.run
  cases h : ((ExceptT.run (Conversation.connected (conversation call))).run db s.state).1 <;>
    simp [h, Except.map]

theorem state_backend (db : Database δ) (call : Call) (now : Instant) (s : Store δ) :
    (backend db call now s).2.1.state =
      ((ExceptT.run (Conversation.connected (conversation call))).run db s.state).2.1 := by
  unfold backend Store.run
  cases h : ((ExceptT.run (Conversation.connected (conversation call))).run db s.state).1 <;>
    simp [h]

theorem sent_backend (db : Database δ) (call : Call) (now : Instant) (s : Store δ) :
    (backend db call now s).2.1.sent =
      s.sent ++ (exchanged db call s.state).map Answered.message := by
  rw [exchanged, Script.map_message_transcript]
  unfold backend Store.run
  cases h : ((ExceptT.run (Conversation.connected (conversation call))).run db s.state).1 <;>
    simp [h]

end Gatehouse.Sql
