/-
  What a flow does to its world.

  `Flow.run` has no result for a flow that is abandoned, but what such a flow did to the store
  before it came to its end stays done.  `Flow.exec` keeps both: the value, if there is one, and the
  world that is left.  `Flow.calls` lists the calls that a flow makes to the store on its way.

  For programs over the store in memory the two belong together: the store that is left is the
  store after a run of the calls that were made (`store_exec`).  So what is known of runs of the
  store holds of programs, once it is known which calls a program makes.
-/
import Gatehouse.Proofs.Store.Run
import Gatehouse.Store.Memory

namespace Gatehouse

variable {σ α β : Type}

namespace Flow

/-- The value of a flow, if it is not abandoned, and the world that it leaves. -/
def exec (backend : Backend σ) : Flow α → World σ → Option α × World σ
  | .done a, w => (some a, w)
  | .abort, w => (none, w)
  | .clock next, w => (next w.now).exec backend w
  | .draw n next, w =>
    match w.entropy.secret (w.drawn + 1) n with
    | .ok bytes => (next (.ok bytes)).exec backend { w with drawn := w.drawn + 1 }
    | .error e => (next (.error e)).exec backend w
  | .salt next, w => (next w.entropy.salt).exec backend w
  | .emit e next, w => next.exec backend { w with log := w.log ++ [e] }
  | .store call next, w =>
    let (reply, after, events) := backend call w.now w.store
    (next reply).exec backend { w with store := after, log := w.log ++ events }

/-- The calls that a flow makes to the store, in order. -/
def calls (backend : Backend σ) : Flow α → World σ → List Call
  | .done _, _ => []
  | .abort, _ => []
  | .clock next, w => (next w.now).calls backend w
  | .draw n next, w =>
    match w.entropy.secret (w.drawn + 1) n with
    | .ok bytes => (next (.ok bytes)).calls backend { w with drawn := w.drawn + 1 }
    | .error e => (next (.error e)).calls backend w
  | .salt next, w => (next w.entropy.salt).calls backend w
  | .emit e next, w => next.calls backend { w with log := w.log ++ [e] }
  | .store call next, w =>
    let (reply, after, events) := backend call w.now w.store
    call :: (next reply).calls backend { w with store := after, log := w.log ++ events }

/-- A flow that is not abandoned has as its result what `exec` says. -/
theorem run_eq_exec (backend : Backend σ) (p : Flow α) (w : World σ) :
    p.run backend w = (p.exec backend w).1.map fun a => (a, (p.exec backend w).2) := by
  induction p generalizing w with
  | done a => rfl
  | abort => rfl
  | clock next ih => exact ih w.now w
  | draw n next ih =>
    simp only [run, exec]
    cases w.entropy.secret (w.drawn + 1) n with
    | ok bytes => exact ih _ _
    | error e => exact ih _ _
  | salt next ih => exact ih w.entropy.salt w
  | emit e next ih => exact ih _
  | store call next ih => exact ih _ _

/-- **The second part of a flow runs in the world that the first has left**, unless the first was
abandoned. -/
theorem exec_bind (backend : Backend σ) (p : Flow α) (f : α → Flow β) (w : World σ) :
    (p.bind f).exec backend w =
      match p.exec backend w with
      | (some a, w') => (f a).exec backend w'
      | (none, w') => (none, w') := by
  induction p generalizing w with
  | done a => rfl
  | abort => rfl
  | clock next ih => exact ih w.now w
  | draw n next ih =>
    simp only [bind, exec]
    cases w.entropy.secret (w.drawn + 1) n with
    | ok bytes => exact ih _ _
    | error e => exact ih _ _
  | salt next ih => exact ih w.entropy.salt w
  | emit e next ih => exact ih _
  | store call next ih => exact ih _ _

/-- Applying a function to the value of a flow changes nothing else. -/
theorem exec_map (backend : Backend σ) (f : α → β) (p : Flow α) (w : World σ) :
    (f <$> p).exec backend w = ((p.exec backend w).1.map f, (p.exec backend w).2) := by
  have hbind : f <$> p = p.bind fun a => .done (f a) := rfl
  rw [hbind, exec_bind]
  cases p.exec backend w with
  | mk value w' => cases value <;> rfl

/-- The calls of a flow are those of its first part and then those of its second. -/
theorem calls_bind (backend : Backend σ) (p : Flow α) (f : α → Flow β) (w : World σ) :
    (p.bind f).calls backend w =
      p.calls backend w ++
        match p.exec backend w with
        | (some a, w') => (f a).calls backend w'
        | (none, _) => [] := by
  induction p generalizing w with
  | done a => rfl
  | abort => rfl
  | clock next ih => exact ih w.now w
  | draw n next ih =>
    simp only [bind, exec, calls]
    cases w.entropy.secret (w.drawn + 1) n with
    | ok bytes => exact ih _ _
    | error e => exact ih _ _
  | salt next ih => exact ih w.entropy.salt w
  | emit e next ih => exact ih _
  | store call next ih =>
    simp only [bind, exec, calls, List.cons_append, List.cons.injEq, true_and]
    exact ih _ _

/-- No flow moves the clock or changes the source of random bytes. -/
theorem environment_exec (backend : Backend σ) (p : Flow α) (w : World σ) :
    (p.exec backend w).2.now = w.now ∧ (p.exec backend w).2.entropy = w.entropy := by
  induction p generalizing w with
  | done a => exact ⟨rfl, rfl⟩
  | abort => exact ⟨rfl, rfl⟩
  | clock next ih => exact ih w.now w
  | draw n next ih =>
    simp only [exec]
    cases w.entropy.secret (w.drawn + 1) n with
    | ok bytes => exact ih _ _
    | error e => exact ih _ _
  | salt next ih => exact ih w.entropy.salt w
  | emit e next ih => exact ih _
  | store call next ih => exact ih _ _

/-- **Over the store in memory** a flow leaves the store after a run of its calls. -/
theorem store_exec (p : Flow α) (w : World Memory) :
    (p.exec Memory.backend w).2.store =
      w.store.run ((p.calls Memory.backend w).map fun call => ⟨w.now, .call call⟩) := by
  induction p generalizing w with
  | done a => rfl
  | abort => rfl
  | clock next ih => exact ih w.now w
  | draw n next ih =>
    simp only [exec, calls]
    cases w.entropy.secret (w.drawn + 1) n with
    | ok bytes => exact ih _ _
    | error e => exact ih _ _
  | salt next ih => exact ih w.entropy.salt w
  | emit e next ih => exact ih _
  | store call next ih =>
    simp only [exec, calls, List.map_cons, Memory.run_cons]
    exact ih _ _

end Flow

/-! ## Programs -/

namespace Program

/-- The outcome of a program, if it is not abandoned, and the world that it leaves. -/
def exec (backend : Backend σ) (p : Program α) (w : World σ) :
    Option (Except AuthError α) × World σ :=
  Flow.exec backend (ExceptT.run p) w

/-- The calls that a program makes to the store, in order. -/
def calls (backend : Backend σ) (p : Program α) (w : World σ) : List Call :=
  Flow.calls backend (ExceptT.run p) w

/-- A program comes to a result exactly if it is not abandoned. -/
theorem run_eq_exec (backend : Backend σ) (p : Program α) (w : World σ) :
    p.run backend w = (p.exec backend w).1.map fun a => (a, (p.exec backend w).2) :=
  Flow.run_eq_exec backend (ExceptT.run p) w

/-- **What a program does to the store in memory is a run of its calls**, all at the time of the
world. -/
theorem store_exec (p : Program α) (w : World Memory) :
    (p.exec Memory.backend w).2.store =
      w.store.run ((p.calls Memory.backend w).map fun call => ⟨w.now, .call call⟩) :=
  Flow.store_exec (ExceptT.run p) w

/-- No program moves the clock. -/
theorem now_exec (backend : Backend σ) (p : Program α) (w : World σ) :
    (p.exec backend w).2.now = w.now :=
  (Flow.environment_exec backend (ExceptT.run p) w).1

section Steps

variable (backend : Backend σ) (w : World σ)

@[simp] theorem exec_pure (a : α) : exec backend (pure a) w = (some (.ok a), w) := rfl

@[simp] theorem exec_throw (e : AuthError) :
    exec backend (throw e : Program α) w = (some (.error e), w) := rfl

@[simp] theorem exec_lift (x : Except AuthError α) :
    exec backend (liftM x) w = (some x, w) := rfl

@[simp] theorem exec_ofExcept (x : Except AuthError α) :
    exec backend (MonadExcept.ofExcept x) w = (some x, w) := by
  cases x <;> rfl

@[simp] theorem exec_now : exec backend now w = (some (.ok w.now), w) := rfl

@[simp] theorem exec_log (e : Event) :
    exec backend (log e) w = (some (.ok ()), { w with log := w.log ++ [e] }) := rfl

/-- A secret is counted if the source gives its bytes, and not if it fails. -/
@[simp] theorem exec_draw (n : Nat) :
    exec backend (draw n) w =
      match w.entropy.secret (w.drawn + 1) n with
      | .ok bytes => (some (.ok (.ok bytes)), { w with drawn := w.drawn + 1 })
      | .error e => (some (.ok (.error e)), w) := by
  show Flow.exec backend (.draw n _) w = _
  rw [Flow.exec]
  cases w.entropy.secret (w.drawn + 1) n <;> rfl

@[simp] theorem exec_salt : exec backend salt w = (some (.ok w.entropy.salt), w) := rfl

/-- To ask for the outcome of a program is to run it and go on after an error. -/
@[simp] theorem exec_outcome (p : Program α) :
    exec backend p.outcome w =
      ((exec backend p w).1.map Except.ok, (exec backend p w).2) := by
  refine (Flow.exec_map backend Except.ok (ExceptT.run p) w).trans ?_
  rfl

@[simp] theorem exec_orAbort_some (a : α) :
    exec backend (orAbort (some a)) w = (some (.ok a), w) := rfl

/-- A date that the calendar does not have ends the program without a result. -/
@[simp] theorem exec_orAbort_none :
    exec backend (orAbort (none : Option α)) w = (none, w) := rfl

@[simp] theorem exec_ask (call : Call) :
    exec backend (ask call) w =
      (some (backend call w.now w.store).1, { w with
        store := (backend call w.now w.store).2.1
        log := w.log ++ (backend call w.now w.store).2.2 }) := rfl

/-- The second part of a program runs only if the first has given a value. -/
theorem exec_bind (p : Program α) (f : α → Program β) :
    exec backend (p >>= f) w =
      match exec backend p w with
      | (some (.ok a), w') => exec backend (f a) w'
      | (some (.error e), w') => (some (.error e), w')
      | (none, w') => (none, w') := by
  refine (Flow.exec_bind backend (ExceptT.run p) (ExceptT.bindCont f) w).trans ?_
  simp only [exec]
  cases Flow.exec backend (ExceptT.run p) w with
  | mk value w' =>
    cases value with
    | none => rfl
    | some outcome => cases outcome <;> rfl

@[simp] theorem calls_pure (a : α) : calls backend (pure a) w = [] := rfl

@[simp] theorem calls_throw (e : AuthError) :
    calls backend (throw e : Program α) w = [] := rfl

@[simp] theorem calls_lift (x : Except AuthError α) : calls backend (liftM x) w = [] := rfl

@[simp] theorem calls_now : calls backend now w = [] := rfl

@[simp] theorem calls_log (e : Event) : calls backend (log e) w = [] := rfl

@[simp] theorem calls_draw (n : Nat) : calls backend (draw n) w = [] := by
  show Flow.calls backend (.draw n _) w = _
  rw [Flow.calls]
  cases w.entropy.secret (w.drawn + 1) n <;> rfl

@[simp] theorem calls_orAbort (a : Option α) : calls backend (orAbort a) w = [] := by
  cases a <;> rfl

@[simp] theorem calls_ask (call : Call) : calls backend (ask call) w = [call] := rfl

/-- The calls of a program are those of its first part and, if that gave a value, those of its
second. -/
theorem calls_bind (p : Program α) (f : α → Program β) :
    calls backend (p >>= f) w =
      calls backend p w ++
        match exec backend p w with
        | (some (.ok a), w') => calls backend (f a) w'
        | _ => [] := by
  refine (Flow.calls_bind backend (ExceptT.run p) (ExceptT.bindCont f) w).trans ?_
  simp only [exec, calls]
  cases Flow.exec backend (ExceptT.run p) w with
  | mk value w' =>
    cases value with
    | none => rfl
    | some outcome => cases outcome <;> rfl

/-- A program that asks the store once, and not again with the answer, makes that one call. -/
theorem calls_ask_bind (call : Call) {f : call.Reply → Program β}
    (hf : ∀ reply w', calls backend (f reply) w' = []) :
    calls backend (ask call >>= f) w = [call] := by
  rw [calls_bind, calls_ask]
  split
  · rw [hf, List.append_nil]
  · rfl

variable {backend w}

/-- A sequence gives a value exactly when both its parts do. -/
theorem exec_bind_eq_ok {p : Program α} {f : α → Program β} {b : β} {w' : World σ} :
    exec backend (p >>= f) w = (some (.ok b), w') ↔
      ∃ a w₁, exec backend p w = (some (.ok a), w₁) ∧
        exec backend (f a) w₁ = (some (.ok b), w') := by
  rw [exec_bind]
  constructor
  · intro h
    split at h
    · rename_i a w₁ hp
      exact ⟨a, w₁, hp, h⟩
    · simp at h
    · simp at h
  · rintro ⟨a, w₁, hp, hf⟩
    simp only [hp, hf]

/-- A sequence fails exactly when its first part fails, or its second part does after it. -/
theorem exec_bind_eq_error {p : Program α} {f : α → Program β} {e : AuthError} {w' : World σ} :
    exec backend (p >>= f) w = (some (.error e), w') ↔
      exec backend p w = (some (.error e), w') ∨
        ∃ a w₁, exec backend p w = (some (.ok a), w₁) ∧
          exec backend (f a) w₁ = (some (.error e), w') := by
  rw [exec_bind]
  constructor
  · intro h
    split at h
    · rename_i a w₁ hp
      exact Or.inr ⟨a, w₁, hp, h⟩
    · rename_i e' w₁ hp
      obtain ⟨rfl, rfl⟩ : e' = e ∧ w₁ = w' := by simpa using h
      exact Or.inl hp
    · simp at h
  · rintro (hp | ⟨a, w₁, hp, hf⟩)
    · simp only [hp]
    · simp only [hp, hf]

/-- A call about which the store in memory logs nothing. -/
theorem exec_ask_memory {call : Call} {w : World Memory} (h : w.store.events w.now call = []) :
    exec Memory.backend (ask call) w =
      (some (w.store.answer w.now call).1, { w with store := (w.store.answer w.now call).2 }) := by
  have hlog : w.log ++ w.store.events w.now call = w.log := by rw [h, List.append_nil]
  rw [exec_ask]
  show (_, ({ w with store := _, log := w.log ++ w.store.events w.now call } : World Memory)) = _
  rw [hlog]
  rfl

/-- `p.Abandoned backend w` — the program is abandoned in the world `w`. -/
def Abandoned (backend : Backend σ) (p : Program α) (w : World σ) : Prop :=
  (p.exec backend w).1 = none

/-- A program with an outcome was not abandoned. -/
theorem not_abandoned_of_exec {p : Program α} {outcome : Except AuthError α} {w' : World σ}
    (h : p.exec backend w = (some outcome, w')) : ¬ p.Abandoned backend w := by
  simp [Abandoned, h]

/-- A sequence is abandoned exactly when its first part is, or its second part is after it. -/
theorem abandoned_bind_iff {p : Program α} {f : α → Program β} :
    Abandoned backend (p >>= f) w ↔
      Abandoned backend p w ∨
        ∃ a w₁, exec backend p w = (some (.ok a), w₁) ∧ Abandoned backend (f a) w₁ := by
  unfold Abandoned
  rw [exec_bind]
  constructor
  · intro h
    split at h
    · rename_i a w₁ hp
      exact Or.inr ⟨a, w₁, hp, h⟩
    · cases h
    · rename_i w₁ hp
      exact Or.inl (congrArg Prod.fst hp)
  · rintro (hp | ⟨a, w₁, hp, hf⟩)
    · cases hexec : exec backend p w with
      | mk value w₁ =>
        obtain rfl : value = none := (congrArg Prod.fst hexec).symm.trans hp
        rfl
    · simp only [hp, hf]

end Steps

end Program

end Gatehouse
