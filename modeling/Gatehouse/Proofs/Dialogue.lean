/-
  What a flow and the store say to each other.

  `Flow.exec` runs a flow in a world that nobody else touches.  When several flows share a store,
  the replies to one of them depend on what the others did in between.  So here the replies are
  free: a dialogue is a list of calls with replies, and the dialogues of a flow are the calls that
  the flow makes if it is given those replies, whatever the clock shows and whatever is drawn.

  * `p.Says es` — the flow may have come to exchange exactly `es` with the store so far.
  * `p.Ends es a` — the flow may end with the value `a` after it exchanged exactly `es`.

  Both go through `bind`, so the dialogues of a program are read off its text.  `Flow.step` takes a
  flow one request further; what is said afterwards continues what was said (`says_step`,
  `ends_step`).
-/
import Gatehouse.Proofs.Flow

namespace Gatehouse

variable {σ α β ε : Type}

/-- A call to the store and the reply to it. -/
structure Exchange where
  /-- The call. -/
  call : Call
  /-- What the store replied. -/
  reply : Except AuthError call.Reply

namespace Flow

/-- The flow may have exchanged exactly these calls and replies with the store so far. -/
def Says : Flow α → List Exchange → Prop
  | .done _, es => es = []
  | .abort, es => es = []
  | .clock next, es => ∃ t, (next t).Says es
  | .draw _ next, es => ∃ r, (next r).Says es
  | .salt next, es => ∃ r, (next r).Says es
  | .emit _ next, es => next.Says es
  | .store call next, es =>
    es = [] ∨ ∃ reply rest, es = ⟨call, reply⟩ :: rest ∧ (next reply).Says rest

/-- The flow may end with the value after it exchanged exactly these calls and replies. -/
def Ends : Flow α → List Exchange → α → Prop
  | .done a, es, b => es = [] ∧ a = b
  | .abort, _, _ => False
  | .clock next, es, b => ∃ t, (next t).Ends es b
  | .draw _ next, es, b => ∃ r, (next r).Ends es b
  | .salt next, es, b => ∃ r, (next r).Ends es b
  | .emit _ next, es, b => next.Ends es b
  | .store call next, es, b => ∃ reply rest, es = ⟨call, reply⟩ :: rest ∧ (next reply).Ends rest b

@[simp] theorem ends_done {a b : α} {es : List Exchange} :
    (done a).Ends es b ↔ es = [] ∧ a = b := .rfl

/-- At first nothing was said. -/
theorem says_nil (p : Flow α) : p.Says [] := by
  induction p with
  | done a => rfl
  | abort => rfl
  | clock next ih => exact ⟨0, ih 0⟩
  | draw n next ih => exact ⟨.error "", ih _⟩
  | salt next ih => exact ⟨.error "", ih _⟩
  | emit e next ih => exact ih
  | store call next ih => exact Or.inl rfl

/-- A dialogue to the end is a dialogue. -/
theorem says_of_ends {p : Flow α} {es : List Exchange} {a : α} (h : p.Ends es a) : p.Says es := by
  induction p generalizing es with
  | done b => exact h.1
  | abort => exact h.elim
  | clock next ih => exact h.imp fun t ht => ih t ht
  | draw n next ih => exact h.imp fun r hr => ih r hr
  | salt next ih => exact h.imp fun r hr => ih r hr
  | emit e next ih => exact ih h
  | store call next ih =>
    obtain ⟨reply, rest, rfl, h⟩ := h
    exact Or.inr ⟨reply, rest, rfl, ih reply h⟩

/-- A sequence ends when its second part does, after the first. -/
theorem ends_bind {p : Flow α} {f : α → Flow β} {es : List Exchange} {b : β} :
    (p.bind f).Ends es b ↔
      ∃ a first second, p.Ends first a ∧ (f a).Ends second b ∧ es = first ++ second := by
  induction p generalizing es with
  | done a =>
    constructor
    · intro h
      exact ⟨a, [], es, ⟨rfl, rfl⟩, h, rfl⟩
    · rintro ⟨_, _, second, ⟨rfl, rfl⟩, h, rfl⟩
      exact h
  | abort =>
    constructor
    · exact False.elim
    · rintro ⟨_, _, _, h, -, -⟩
      exact h
  | clock next ih =>
    simp only [bind, Ends, ih]
    grind
  | draw n next ih =>
    simp only [bind, Ends, ih]
    grind
  | salt next ih =>
    simp only [bind, Ends, ih]
    grind
  | emit e next ih => exact ih
  | store call next ih =>
    simp only [bind, Ends, ih]
    constructor
    · rintro ⟨reply, _, rfl, a, first, second, h₁, h₂, rfl⟩
      exact ⟨a, _, second, ⟨reply, first, rfl, h₁⟩, h₂, rfl⟩
    · rintro ⟨a, _, second, ⟨reply, first, rfl, h₁⟩, h₂, rfl⟩
      exact ⟨reply, _, rfl, a, first, second, h₁, h₂, rfl⟩

/-- A sequence is still in its first part, or in the second after the first has ended. -/
theorem says_bind {p : Flow α} {f : α → Flow β} {es : List Exchange} :
    (p.bind f).Says es ↔
      p.Says es ∨ ∃ a first second, p.Ends first a ∧ (f a).Says second ∧ es = first ++ second := by
  induction p generalizing es with
  | done a =>
    constructor
    · intro h
      exact Or.inr ⟨a, [], es, ⟨rfl, rfl⟩, h, rfl⟩
    · rintro (rfl | ⟨_, _, second, ⟨rfl, rfl⟩, h, rfl⟩)
      · exact (f a).says_nil
      · exact h
  | abort =>
    constructor
    · exact Or.inl
    · rintro (h | ⟨_, _, _, h, -, -⟩)
      · exact h
      · exact h.elim
  | clock next ih =>
    simp only [bind, Says, Ends, ih]
    grind
  | draw n next ih =>
    simp only [bind, Says, Ends, ih]
    grind
  | salt next ih =>
    simp only [bind, Says, Ends, ih]
    grind
  | emit e next ih => exact ih
  | store call next ih =>
    simp only [bind, Says, Ends, ih]
    constructor
    · rintro (rfl | ⟨reply, rest, rfl, h | ⟨a, first, second, h₁, h₂, rfl⟩⟩)
      · exact Or.inl (Or.inl rfl)
      · exact Or.inl (Or.inr ⟨reply, rest, rfl, h⟩)
      · exact Or.inr ⟨a, _, second, ⟨reply, first, rfl, h₁⟩, h₂, rfl⟩
    · rintro ((rfl | ⟨reply, rest, rfl, h⟩) | ⟨a, _, second, ⟨reply, first, rfl, h₁⟩, h₂, rfl⟩)
      · exact Or.inl rfl
      · exact Or.inr ⟨reply, rest, rfl, Or.inl h⟩
      · exact Or.inr ⟨reply, _, rfl, Or.inr ⟨a, first, second, h₁, h₂, rfl⟩⟩

/-! ## One request at a time -/

/-- Where a flow stands after one request to the world. -/
structure Progress (σ α : Type) where
  /-- What is left of the flow. -/
  rest : Flow α
  /-- The world after the request. -/
  world : World σ
  /-- What was exchanged, if the request went to the store. -/
  exchange : Option Exchange

/-- Takes a flow one request further; a flow that has come to its end stays there. -/
def step (backend : Backend σ) : Flow α → World σ → Progress σ α
  | .done a, w => ⟨.done a, w, none⟩
  | .abort, w => ⟨.abort, w, none⟩
  | .clock next, w => ⟨next w.now, w, none⟩
  | .draw n next, w =>
    match w.entropy.secret (w.drawn + 1) n with
    | .ok bytes => ⟨next (.ok bytes), { w with drawn := w.drawn + 1 }, none⟩
    | .error e => ⟨next (.error e), w, none⟩
  | .salt next, w => ⟨next w.entropy.salt, w, none⟩
  | .emit e next, w => ⟨next, { w with log := w.log ++ [e] }, none⟩
  | .store call next, w =>
    let (reply, after, events) := backend call w.now w.store
    ⟨next reply, { w with store := after, log := w.log ++ events }, some ⟨call, reply⟩⟩

/-- Taken one request further, a flow does the rest of what it would have done. -/
theorem exec_step (backend : Backend σ) (p : Flow α) (w : World σ) :
    (p.step backend w).rest.exec backend (p.step backend w).world = p.exec backend w := by
  cases p with
  | draw n next =>
    simp only [step, exec]
    cases w.entropy.secret (w.drawn + 1) n <;> rfl
  | _ => rfl

/-- A step of a flow in a world puts its exchange, if it has one, before the rest's dialogue. -/
theorem says_step (backend : Backend σ) {p : Flow α} {w : World σ} {es : List Exchange}
    (h : (p.step backend w).rest.Says es) :
    p.Says ((p.step backend w).exchange.toList ++ es) := by
  cases p with
  | done a => exact h
  | abort => exact h
  | clock next => exact ⟨w.now, h⟩
  | draw n next =>
    cases hr : w.entropy.secret (w.drawn + 1) n with
    | ok bytes =>
      simp only [step, hr] at h ⊢
      exact ⟨_, h⟩
    | error e =>
      simp only [step, hr] at h ⊢
      exact ⟨_, h⟩
  | salt next => exact ⟨w.entropy.salt, h⟩
  | emit e next => exact h
  | store call next => exact Or.inr ⟨_, es, rfl, h⟩

/-- The same holds of dialogues to the end. -/
theorem ends_step (backend : Backend σ) {p : Flow α} {w : World σ} {es : List Exchange} {a : α}
    (h : (p.step backend w).rest.Ends es a) :
    p.Ends ((p.step backend w).exchange.toList ++ es) a := by
  cases p with
  | done b => exact h
  | abort => exact h
  | clock next => exact ⟨w.now, h⟩
  | draw n next =>
    cases hr : w.entropy.secret (w.drawn + 1) n with
    | ok bytes =>
      simp only [step, hr] at h ⊢
      exact ⟨_, h⟩
    | error e =>
      simp only [step, hr] at h ⊢
      exact ⟨_, h⟩
  | salt next => exact ⟨w.entropy.salt, h⟩
  | emit e next => exact h
  | store call next => exact ⟨_, es, rfl, h⟩

end Flow

/-! ## Programs that may fail -/

namespace Program

/-- A sequence fails when its first part does, or else ends as its second part. -/
theorem ends_bind {p : ExceptT ε Flow α} {f : α → ExceptT ε Flow β} {es : List Exchange}
    {x : Except ε β} :
    Flow.Ends (p >>= f).run es x ↔
      (∃ e, Flow.Ends p.run es (.error e) ∧ x = .error e) ∨
      ∃ a first second, Flow.Ends p.run first (.ok a) ∧ Flow.Ends (f a).run second x ∧
        es = first ++ second := by
  refine Iff.trans (Flow.ends_bind (p := p.run) (f := ExceptT.bindCont f)) ?_
  constructor
  · rintro ⟨e | a, first, second, h₁, h₂, rfl⟩
    · obtain ⟨rfl, rfl⟩ := h₂
      exact Or.inl ⟨e, by simpa using h₁, rfl⟩
    · exact Or.inr ⟨a, first, second, h₁, h₂, rfl⟩
  · rintro (⟨e, h, rfl⟩ | ⟨a, first, second, h₁, h₂, rfl⟩)
    · exact ⟨.error e, es, [], h, ⟨rfl, rfl⟩, by simp⟩
    · exact ⟨.ok a, first, second, h₁, h₂, rfl⟩

/-- A dialogue of two programs is one of the first, or a whole one of the first and then one of the
second. -/
theorem says_bind {p : ExceptT ε Flow α} {f : α → ExceptT ε Flow β} {es : List Exchange} :
    Flow.Says (p >>= f).run es ↔
      Flow.Says p.run es ∨
      ∃ a first second, Flow.Ends p.run first (.ok a) ∧ Flow.Says (f a).run second ∧
        es = first ++ second := by
  refine Iff.trans (Flow.says_bind (p := p.run) (f := ExceptT.bindCont f)) ?_
  constructor
  · rintro (h | ⟨e | a, first, second, h₁, h₂, rfl⟩)
    · exact Or.inl h
    · -- after a failure nothing more is said
      obtain rfl : second = [] := h₂
      exact Or.inl (by simpa using Flow.says_of_ends h₁)
    · exact Or.inr ⟨a, first, second, h₁, h₂, rfl⟩
  · rintro (h | ⟨a, first, second, h₁, h₂, rfl⟩)
    · exact Or.inl h
    · exact Or.inr ⟨.ok a, first, second, h₁, h₂, rfl⟩

variable {es : List Exchange}

theorem ends_pure (a : α) (x : Except ε α) :
    Flow.Ends (pure a : ExceptT ε Flow α).run es x ↔ es = [] ∧ .ok a = x := .rfl

theorem ends_throw (e : ε) (x : Except ε α) :
    Flow.Ends (throw e : ExceptT ε Flow α).run es x ↔ es = [] ∧ .error e = x := .rfl

/-- A call is one exchange, and the reply to it is the result. -/
theorem ends_ask (call : Call) (x : Except AuthError call.Reply) :
    Flow.Ends (ExceptT.run (ask call)) es x ↔ es = [⟨call, x⟩] := by
  constructor
  · rintro ⟨reply, _, rfl, rfl, rfl⟩
    rfl
  · rintro rfl
    exact ⟨x, [], rfl, rfl, rfl⟩

/-- Translating its errors does not change what a program says. -/
theorem says_adapt {ε' : Type} {g : ε → ε'} {p : ExceptT ε Flow α}
    (h : Flow.Says (ExceptT.adapt g p).run es) : Flow.Says p.run es := by
  rcases Flow.says_bind.1 h with h | ⟨x, first, second, hp, rfl, rfl⟩
  · exact h
  · rw [List.append_nil]
    exact Flow.says_of_ends hp

/-- To translate the errors of a program changes nothing of what it says. -/
theorem ends_adapt {ε' : Type} {g : ε → ε'} {p : ExceptT ε Flow α} {x : Except ε' α}
    (h : Flow.Ends (ExceptT.adapt g p).run es x) :
    ∃ y, Flow.Ends p.run es y ∧ x = y.mapError g := by
  obtain ⟨y, first, second, hp, ⟨rfl, rfl⟩, rfl⟩ := Flow.ends_bind.1 h
  exact ⟨y, by rwa [List.append_nil], rfl⟩

theorem ends_outcome (p : Program α) (x : Except AuthError (Except AuthError α)) :
    Flow.Ends (ExceptT.run p.outcome) es x ↔ ∃ y, Flow.Ends (ExceptT.run p) es y ∧ .ok y = x := by
  refine Iff.trans Flow.ends_bind ?_
  constructor
  · rintro ⟨y, first, second, h, ⟨rfl, rfl⟩, rfl⟩
    exact ⟨y, by rwa [List.append_nil], rfl⟩
  · rintro ⟨y, h, rfl⟩
    exact ⟨y, es, [], h, ⟨rfl, rfl⟩, by simp⟩

/-- Capturing its outcome does not change what a program says. -/
theorem says_outcome (p : Program α) :
    Flow.Says (ExceptT.run p.outcome) es ↔ Flow.Says (ExceptT.run p) es := by
  refine Iff.trans Flow.says_bind ?_
  constructor
  · rintro (h | ⟨y, first, second, h, rfl, rfl⟩)
    · exact h
    · rw [List.append_nil]
      exact Flow.says_of_ends h
  · exact Or.inl

theorem says_ask (call : Call) :
    Flow.Says (ExceptT.run (ask call)) es ↔ es = [] ∨ ∃ reply, es = [⟨call, reply⟩] := by
  constructor
  · rintro (rfl | ⟨reply, _, rfl, rfl⟩)
    · exact Or.inl rfl
    · exact Or.inr ⟨reply, rfl⟩
  · rintro (rfl | ⟨reply, rfl⟩)
    · exact Or.inl rfl
    · exact Or.inr ⟨reply, [], rfl, rfl⟩

/-- A program that asks the store first has not asked yet, or it was refused, or it went on with
the answer. -/
theorem says_ask_bind {call : Call} {f : call.Reply → Program β}
    (h : Flow.Says (ExceptT.run (ask call >>= f)) es) :
    es = [] ∨ (∃ e, es = [⟨call, .error e⟩]) ∨
    ∃ a rest, es = ⟨call, .ok a⟩ :: rest ∧ Flow.Says (ExceptT.run (f a)) rest := by
  rcases says_bind.1 h with h | ⟨a, first, rest, hfirst, hrest, rfl⟩
  · rcases (says_ask call).1 h with rfl | ⟨e | a, rfl⟩
    · exact Or.inl rfl
    · exact Or.inr (Or.inl ⟨e, rfl⟩)
    · exact Or.inr (Or.inr ⟨a, [], rfl, Flow.says_nil _⟩)
  · obtain rfl := (ends_ask call _).1 hfirst
    exact Or.inr (Or.inr ⟨a, rest, rfl, hrest⟩)

/-- After a check of values the program goes on with what passed. -/
theorem says_ofExcept_bind {x : Except AuthError α} {f : α → Program β}
    (h : Flow.Says (ExceptT.run (MonadExcept.ofExcept x >>= f)) es) :
    es = [] ∨ ∃ a, x = .ok a ∧ Flow.Says (ExceptT.run (f a)) es := by
  cases x with
  | error e => exact Or.inl h
  | ok a => exact Or.inr ⟨a, rfl, h⟩

/-! ## Programs that do not ask the store -/

/-- The program says nothing to the store. -/
def Quiet (p : ExceptT ε Flow α) : Prop := ∀ es, Flow.Says p.run es → es = []

theorem quiet_pure (a : α) : Quiet (pure a : ExceptT ε Flow α) := fun _ h => h

theorem quiet_throw (e : ε) : Quiet (throw e : ExceptT ε Flow α) := fun _ h => h

/-- After a failure there is no second part. -/
theorem quiet_throw_bind (e : ε) (f : α → ExceptT ε Flow β) :
    Quiet ((throw e : ExceptT ε Flow α) >>= f) := fun _ h => h

theorem quiet_lift (x : Except AuthError α) : Quiet (liftM x : Program α) := fun _ h => h

theorem quiet_now : Quiet now := fun _ h => h.elim fun _ h => h

theorem quiet_log (e : Event) : Quiet (log e) := fun _ h => h

theorem quiet_draw (n : Nat) : Quiet (draw n) := fun _ h => h.elim fun _ h => h

theorem quiet_salt : Quiet salt := fun _ h => h.elim fun _ h => h

theorem quiet_orAbort (a : Option α) : Quiet (orAbort a) := by
  cases a <;> exact fun _ h => h

theorem quiet_ofExcept (x : Except AuthError α) : Quiet (MonadExcept.ofExcept x : Program α) := by
  cases x <;> exact fun _ h => h

/-- Two quiet programs are quiet one after the other. -/
theorem quiet_bind {p : ExceptT ε Flow α} {f : α → ExceptT ε Flow β} (hp : Quiet p)
    (hf : ∀ a, Quiet (f a)) : Quiet (p >>= f) := by
  intro es h
  rcases says_bind.1 h with h | ⟨a, first, second, h₁, h₂, rfl⟩
  · exact hp es h
  · rw [hp first (Flow.says_of_ends h₁), hf a second h₂]
    rfl

/-- What a sequence says after a quiet first part is said by its second part. -/
theorem says_quiet_bind {p : ExceptT ε Flow α} {f : α → ExceptT ε Flow β} (hp : Quiet p)
    (h : Flow.Says (p >>= f).run es) : es = [] ∨ ∃ a, Flow.Says (f a).run es := by
  rcases says_bind.1 h with h | ⟨a, first, second, h₁, h₂, rfl⟩
  · exact Or.inl (hp es h)
  · rw [hp first (Flow.says_of_ends h₁)]
    exact Or.inr ⟨a, h₂⟩

/-- What a sequence with a quiet second part says is said by its first part. -/
theorem says_bind_quiet {p : ExceptT ε Flow α} {f : α → ExceptT ε Flow β}
    (hf : ∀ a, Quiet (f a)) (h : Flow.Says (p >>= f).run es) : Flow.Says p.run es := by
  rcases says_bind.1 h with h | ⟨a, first, second, h₁, h₂, rfl⟩
  · exact h
  · rw [hf a second h₂, List.append_nil]
    exact Flow.says_of_ends h₁

/-- A program that succeeds in the end has succeeded in each of its parts. -/
theorem ends_bind_ok {p : ExceptT ε Flow α} {f : α → ExceptT ε Flow β} {b : β}
    (h : Flow.Ends (p >>= f).run es (.ok b)) :
    ∃ a first second, Flow.Ends p.run first (.ok a) ∧ Flow.Ends (f a).run second (.ok b) ∧
      es = first ++ second := by
  rcases ends_bind.1 h with ⟨e, -, he⟩ | h
  · cases he
  · exact h

/-- If the first part is quiet, all that is said is said by the second. -/
theorem ends_quiet_bind_ok {p : ExceptT ε Flow α} {f : α → ExceptT ε Flow β} {b : β}
    (hp : Quiet p) (h : Flow.Ends (p >>= f).run es (.ok b)) :
    ∃ a, Flow.Ends p.run [] (.ok a) ∧ Flow.Ends (f a).run es (.ok b) := by
  obtain ⟨a, first, second, hfirst, hsecond, rfl⟩ := ends_bind_ok h
  obtain rfl := hp first (Flow.says_of_ends hfirst)
  exact ⟨a, hfirst, hsecond⟩

end Program

-- from here on a dialogue is taken apart by the lemmas, along the text of the program
attribute [irreducible] Flow.Says Flow.Ends

end Gatehouse
