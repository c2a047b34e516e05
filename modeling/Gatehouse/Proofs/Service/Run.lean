/-
  Runs of the service over the store in memory.

  A step of a run is an operation of the service, at any time and with any source of random bytes,
  or a change of the users that is made past the service.  A run is a list of steps in any order.

  What a step of the service does to the store is a run of the store of at most one step, and which
  step it can be is known (`mem_storeSteps`).  So a run of the service is a run of the store
  (`run_store`), and what is known of the store holds of the service.
-/
import Gatehouse.Proofs.Service.Calls

namespace Gatehouse.Service

/-! ## Steps and runs -/

/-- What may happen to the service and its users. -/
inductive Step where
  /-- An operation of the service, with the time and the source of random bytes it finds. -/
  | serve (now : Instant) (entropy : Entropy) (op : Operation)
  /-- A user is registered, or replaces the one with the same identifier. -/
  | register (user : User) (passwordHash : String)
  /-- The role of a user is changed. -/
  | setRole (user : Uuid) (role : String)

variable (s : Service)

/-- The world after a step. -/
def perform (w : World Memory) : Step → World Memory
  | .serve now entropy op => ((s.program op).exec Memory.backend { w with now, entropy }).2
  | .register user passwordHash => { w with store := w.store.insertUser user passwordHash }
  | .setRole user role => { w with store := (w.store.setRole user role).2 }

/-- The world after a run. -/
def run (w : World Memory) (steps : List Step) : World Memory := steps.foldl s.perform w

/-- The steps of a run, each with the world that it finds. -/
def history (w : World Memory) : List Step → List (World Memory × Step)
  | [] => []
  | step :: steps => (w, step) :: history (s.perform w step) steps

@[simp] theorem run_nil (w : World Memory) : s.run w [] = w := rfl

@[simp] theorem run_cons (w : World Memory) (step : Step) (steps : List Step) :
    s.run w (step :: steps) = s.run (s.perform w step) steps := rfl

theorem run_append (w : World Memory) (first second : List Step) :
    s.run w (first ++ second) = s.run (s.run w first) second := List.foldl_append

variable {s} in
/-- What is not there before a run, but is there after it, comes up with one of the steps. -/
theorem exists_first {β : Type} (view : World Memory → Option β) {w : World Memory}
    {steps : List Step} {b : β} (h₀ : view w = none) (h₁ : view (s.run w steps) = some b) :
    ∃ before step after b₀, steps = before ++ step :: after ∧ view (s.run w before) = none ∧
      view (s.perform (s.run w before) step) = some b₀ := by
  induction steps generalizing w with
  | nil => simp [h₀] at h₁
  | cons step steps ih =>
    cases hview : view (s.perform w step) with
    | some b₀ => exact ⟨[], step, steps, b₀, rfl, h₀, hview⟩
    | none =>
      obtain ⟨before, step', after, b₀, rfl, hnone, hsome⟩ := ih hview h₁
      exact ⟨step :: before, step', after, b₀, rfl, hnone, hsome⟩

theorem mem_history (w : World Memory) (before : List Step) (step : Step) (after : List Step) :
    (s.run w before, step) ∈ s.history w (before ++ step :: after) := by
  induction before generalizing w with
  | nil => exact List.mem_cons_self
  | cons first before ih => exact List.mem_cons_of_mem _ (ih (s.perform w first))

/-! ## A run of the service as a run of the store -/

/-- The steps of the store that a step of the service is made of. -/
def storeSteps (w : World Memory) : Step → List Memory.Step
  | .serve now entropy op =>
    ((s.program op).calls Memory.backend { w with now, entropy }).map fun call => ⟨now, .call call⟩
  | .register user passwordHash => [⟨w.now, .register user passwordHash⟩]
  | .setRole user role => [⟨w.now, .setRole user role⟩]

/-- The steps of the store that a run of the service is made of. -/
def storeRun (w : World Memory) : List Step → List Memory.Step
  | [] => []
  | step :: steps => s.storeSteps w step ++ storeRun (s.perform w step) steps

/-- A step of the store that the service makes is the one call that an operation asks for, or it
changes the users. -/
theorem mem_storeSteps {w : World Memory} {step : Step} {t : Memory.Step}
    (h : t ∈ s.storeSteps w step) :
    (∃ now entropy op call, step = .serve now entropy op ∧ t = ⟨now, .call call⟩ ∧
      s.Asks { w with now, entropy } op call) ∨
    (∃ user passwordHash, t = ⟨w.now, .register user passwordHash⟩) ∨
    ∃ user role, t = ⟨w.now, .setRole user role⟩ := by
  cases step with
  | serve now entropy op =>
    rcases calls_program Memory.backend s op { w with now, entropy } with
      hcalls | ⟨call, hcalls, ha⟩
    · simp [storeSteps, hcalls] at h
    · exact Or.inl ⟨now, entropy, op, call, rfl, by simpa [storeSteps, hcalls] using h, ha⟩
  | register user passwordHash =>
    exact Or.inr (Or.inl ⟨user, passwordHash, List.mem_singleton.1 h⟩)
  | setRole user role => exact Or.inr (Or.inr ⟨user, role, List.mem_singleton.1 h⟩)

theorem perform_store (w : World Memory) (step : Step) :
    (s.perform w step).store = w.store.run (s.storeSteps w step) := by
  cases step with
  | serve now entropy op => exact Program.store_exec (s.program op) { w with now, entropy }
  | register user passwordHash => rfl
  | setRole user role => rfl

theorem mem_storeRun {w : World Memory} {steps : List Step} {t : Memory.Step}
    (h : t ∈ s.storeRun w steps) :
    ∃ before step after, steps = before ++ step :: after ∧
      t ∈ s.storeSteps (s.run w before) step := by
  induction steps generalizing w with
  | nil => simp [storeRun] at h
  | cons step steps ih =>
    rcases List.mem_append.1 h with h | h
    · exact ⟨[], step, steps, rfl, h⟩
    · obtain ⟨before, step', after, hs, ht⟩ := ih h
      exact ⟨step :: before, step', after, by rw [hs, List.cons_append], ht⟩

theorem plain_of_mem_storeRun {w : World Memory} {steps : List Step} {t : Memory.Step}
    (h : t ∈ s.storeRun w steps) : t.Plain := by
  obtain ⟨before, step, after, -, ht⟩ := s.mem_storeRun h
  rcases s.mem_storeSteps ht with ⟨now, entropy, op, call, -, rfl, ha⟩ | ⟨_, _, rfl⟩ | ⟨_, _, rfl⟩
  · refine ⟨fun digest new hop => ?_, by simp⟩
    obtain rfl : call = .revoke digest (some new) := by simpa using hop
    cases ha
  · exact ⟨by simp, by simp⟩
  · exact ⟨by simp, by simp⟩

/-- **A run of the service is a run of the store.** -/
theorem run_store (w : World Memory) (steps : List Step) :
    (s.run w steps).store = w.store.run (s.storeRun w steps) := by
  induction steps generalizing w with
  | nil => rfl
  | cons step steps ih =>
    rw [run_cons, ih, perform_store, storeRun, Memory.run_append]

end Gatehouse.Service
