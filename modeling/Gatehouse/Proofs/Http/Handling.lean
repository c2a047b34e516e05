/-
  What a handler does to its world.

  A handler is a flow that may refuse the request.  `Handler.exec` is its outcome and the world that
  it leaves, with one equation for each way in which handlers are put together; the programs of the
  service come in through `Handler.exec_forRequest`.

  A response is made of the outcome: what was refused is told to the client with the status of the
  refusal (`exec_respond`, `exec_guarded`).  Refusing writes to the log at most, so the store that a
  request leaves is the store that its handler leaves.
-/
import Gatehouse.Proofs.Http.Site

namespace Gatehouse

variable {σ α β : Type}

namespace Handler

/-- The outcome of a handler, if it is not abandoned, and the world that it leaves. -/
def exec (backend : Backend σ) (h : Handler α) (w : World σ) :
    Option (Except ApiError α) × World σ :=
  Flow.exec backend (ExceptT.run h) w

variable (backend : Backend σ) (w : World σ)

@[simp] theorem exec_pure (a : α) : exec backend (pure a) w = (some (.ok a), w) := rfl

@[simp] theorem exec_throw (e : ApiError) :
    exec backend (throw e : Handler α) w = (some (.error e), w) := rfl

@[simp] theorem exec_ofExcept (x : Except ApiError α) :
    exec backend (MonadExcept.ofExcept x) w = (some x, w) := by
  cases x <;> rfl

/-- What comes after a handler goes by its outcome, and is not reached if there is none. -/
theorem exec_run_bind (h : Handler α) (next : Except ApiError α → Flow β) :
    Flow.exec backend (ExceptT.run h >>= next) w =
      match exec backend h w with
      | (some x, w') => Flow.exec backend (next x) w'
      | (none, w') => (none, w') := by
  refine (Flow.exec_bind backend (ExceptT.run h) next w).trans ?_
  unfold exec
  rcases Flow.exec backend (ExceptT.run h) w with ⟨_ | x, w'⟩ <;> rfl

/-- A handler and what follows it: the second part is not reached if the first refuses. -/
theorem exec_bind (h : Handler α) (f : α → Handler β) :
    exec backend (h >>= f) w =
      match exec backend h w with
      | (some (.ok a), w') => exec backend (f a) w'
      | (some (.error e), w') => (some (.error e), w')
      | (none, w') => (none, w') := by
  show Flow.exec backend (ExceptT.run h >>= ExceptT.bindCont f) w = _
  rw [exec_run_bind]
  rcases exec backend h w with ⟨_ | _ | a, w'⟩ <;> rfl

/-- A program of the service fails with what its error means for a request. -/
theorem exec_forRequest (p : Program α) :
    exec backend p.forRequest w =
      ((p.exec backend w).1.map (Except.mapError ApiError.ofAuth), (p.exec backend w).2) := by
  show Flow.exec backend (Except.mapError ApiError.ofAuth <$> ExceptT.run p) w = _
  rw [Flow.exec_map]
  rfl

end Handler

namespace Http

variable (backend : Backend σ) (w : World σ)

/-- **What is refused** is told with the status of the refusal, and only the log may grow. -/
theorem exec_refuse (e : ApiError) :
    ∃ log, (refuse e).exec backend w =
      (some (Response.json e.status e.body), { w with log := w.log ++ log }) := by
  cases e with
  | internal detail => exact ⟨[.requestFailed detail], rfl⟩
  | _ => exact ⟨[], by rw [List.append_nil]; rfl⟩

/-- A handler's value is answered as told, and its error as a refusal. -/
theorem exec_respond (h : Handler α) (ok : α → Response) :
    (respond h ok).exec backend w =
      match h.exec backend w with
      | (some (.ok a), w') => (some (ok a), w')
      | (some (.error e), w') => (refuse e).exec backend w'
      | (none, w') => (none, w') := by
  rw [respond, Handler.exec_run_bind]
  rcases h.exec backend w with ⟨_ | _ | a, w'⟩ <;> rfl

/-- What stands behind a check runs only on the claims that the check lets through. -/
theorem exec_guarded (check : Handler Claims) (next : Claims → Flow Response) :
    (guarded check next).exec backend w =
      match check.exec backend w with
      | (some (.ok claims), w') => (next claims).exec backend w'
      | (some (.error e), w') => (refuse e).exec backend w'
      | (none, w') => (none, w') := by
  rw [guarded, Handler.exec_run_bind]
  rcases check.exec backend w with ⟨_ | _ | a, w'⟩ <;> rfl

end Http

end Gatehouse
