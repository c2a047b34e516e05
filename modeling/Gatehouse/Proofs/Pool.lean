/-
  Flows that are under way at once.

  A pool holds any number of flows and the one world that they share.  A turn takes one of the flows
  one request further, so between two calls of one flow to the store any calls of the others may
  come; or time passes; or somebody else does something to the store.  Every sequence of turns is an
  interleaving.

  A pool writes down what was done to the store and what was replied.  However the turns went, this
  record accounts for everything (`accounts_run`): the store is the store after a run of the steps
  that were done, every reply is the answer of the store at that place of the run, and what each
  flow exchanged is one of its dialogues.  So a claim about all interleavings becomes a claim about
  runs of the store and about the dialogues of the flows.

  A flow that has all the turns does what it does alone (`exists_run_go`).
-/
import Gatehouse.Proofs.Dialogue
import Mathlib.Logic.Function.Basic

namespace Gatehouse

/-- What happens next among flows that are under way at once. -/
inductive Turn (ι : Type) where
  /-- A flow makes its next request to the world. -/
  | go (i : ι)
  /-- The clock shows another time, and the source of random bytes is another. -/
  | tick (now : Instant) (entropy : Entropy)
  /-- Somebody else does something to the store. -/
  | other (operation : Memory.Operation)

/-- Something that was done to the store. -/
inductive Deed (ι : Type) where
  /-- A flow made a call and got a reply. -/
  | exchanged (i : ι) (now : Instant) (exchange : Exchange)
  /-- Somebody else did something. -/
  | other (step : Memory.Step)

/-- Flows under way, the world they share, and what was done to the store so far. -/
structure Pool (ι : Type) (α : ι → Type) where
  /-- What is left of each flow. -/
  flows : ∀ i, Flow (α i)
  /-- The world. -/
  world : World Memory
  /-- What was done to the store. -/
  deeds : List (Deed ι) := []

variable {ι : Type} {α : ι → Type}

/-- The step of the store that a deed is. -/
def Deed.step : Deed ι → Memory.Step
  | .exchanged _ now e => ⟨now, .call e.call⟩
  | .other s => s

variable [DecidableEq ι]

/-- What one flow exchanged with the store, in order. -/
def said (i : ι) (deeds : List (Deed ι)) : List Exchange :=
  deeds.filterMap fun
    | .exchanged j _ e => if j = i then some e else none
    | .other _ => none

theorem said_append (i : ι) (first second : List (Deed ι)) :
    said i (first ++ second) = said i first ++ said i second := List.filterMap_append

theorem said_other (i : ι) (deeds : List (Deed ι)) (step : Memory.Step) :
    said i (deeds ++ [.other step]) = said i deeds := by
  simp [said]

theorem mem_said {i : ι} {deeds : List (Deed ι)} {e : Exchange} :
    e ∈ said i deeds ↔ ∃ now, .exchanged i now e ∈ deeds := by
  rw [said, List.mem_filterMap]
  constructor
  · rintro ⟨d, hd, h⟩
    cases d with
    | exchanged j now e' =>
      by_cases hj : j = i
      · obtain rfl : e' = e := by simpa [hj] using h
        exact ⟨now, hj ▸ hd⟩
      · simp [hj] at h
    | other s => simp at h
  · rintro ⟨now, h⟩
    exact ⟨_, h, by simp⟩

/-- Where the first thing was done that a flow exchanged. -/
theorem exists_of_said_eq_cons {i : ι} {deeds : List (Deed ι)} {e : Exchange} {es : List Exchange}
    (h : said i deeds = e :: es) :
    ∃ first t rest, deeds = first ++ .exchanged i t e :: rest ∧ said i first = [] ∧
      said i rest = es := by
  obtain ⟨first, d, rest, rfl, hfirst, hd, hrest⟩ := List.filterMap_eq_cons_iff.1 h
  cases d with
  | other s => cases hd
  | exchanged j t e' =>
    by_cases hj : j = i
    · obtain rfl : e' = e := by simpa [hj] using hd
      subst hj
      exact ⟨first, t, rest, rfl, List.filterMap_eq_nil_iff.2 hfirst, hrest⟩
    · simp [hj] at hd

namespace Pool

/-- The pool after a turn. -/
def turn (p : Pool ι α) : Turn ι → Pool ι α
  | .go i =>
    let progress := (p.flows i).step Memory.backend p.world
    { flows := Function.update p.flows i progress.rest
      world := progress.world
      deeds := p.deeds ++ progress.exchange.toList.map (.exchanged i p.world.now) }
  | .tick now entropy => { p with world := { p.world with now, entropy } }
  | .other operation =>
    { p with
      world := { p.world with store := p.world.store.perform ⟨p.world.now, operation⟩ }
      deeds := p.deeds ++ [.other ⟨p.world.now, operation⟩] }

/-- The pool after some turns. -/
def run (p : Pool ι α) (turns : List (Turn ι)) : Pool ι α := turns.foldl turn p

@[simp] theorem run_nil (p : Pool ι α) : p.run [] = p := rfl

@[simp] theorem run_cons (p : Pool ι α) (t : Turn ι) (turns : List (Turn ι)) :
    p.run (t :: turns) = (p.turn t).run turns := rfl

theorem run_append (p : Pool ι α) (first second : List (Turn ι)) :
    p.run (first ++ second) = (p.run first).run second := List.foldl_append

theorem turn_go {p : Pool ι α} {i : ι} {progress : Flow.Progress Memory (α i)}
    (h : (p.flows i).step Memory.backend p.world = progress) :
    p.turn (.go i) = ⟨Function.update p.flows i progress.rest, progress.world,
      p.deeds ++ progress.exchange.toList.map (.exchanged i p.world.now)⟩ := by
  subst h
  rfl

/-! ## What the record of the deeds accounts for -/

/-- `p.Accounts start` — the pool has come from `start`, where nothing was done yet, and its deeds
account for everything: the store, the replies, and what each flow is left with. -/
structure Accounts (start p : Pool ι α) : Prop where
  store : p.world.store = start.world.store.run (p.deeds.map Deed.step)
  reply : ∀ {first i now e rest}, p.deeds = first ++ .exchanged i now e :: rest →
    e.reply = ((start.world.store.run (first.map Deed.step)).answer now e.call).1
  soFar : ∀ i {es}, (p.flows i).Says es → (start.flows i).Says (said i p.deeds ++ es)
  atEnd : ∀ i {es a}, (p.flows i).Ends es a → (start.flows i).Ends (said i p.deeds ++ es) a

/-- One request of a flow leaves the store alone, or it is a call that the store answers. -/
theorem step_cases {β : Type} (p : Flow β) (w : World Memory) :
    ((p.step Memory.backend w).exchange = none ∧
      (p.step Memory.backend w).world.store = w.store) ∨
    ∃ call, (p.step Memory.backend w).exchange = some ⟨call, (w.store.answer w.now call).1⟩ ∧
      (p.step Memory.backend w).world.store = (w.store.answer w.now call).2 := by
  cases p with
  | store call next => exact Or.inr ⟨call, rfl, rfl⟩
  | draw n next =>
    simp only [Flow.step]
    cases w.entropy.secret (w.drawn + 1) n <;> exact Or.inl ⟨rfl, rfl⟩
  | _ => exact Or.inl ⟨rfl, rfl⟩

/-- What is added at the end is the last deed, or it stands among the earlier ones. -/
theorem eq_append_cons_of_append_singleton {γ : Type} {l first rest : List γ} {a b : γ}
    (h : l ++ [a] = first ++ b :: rest) :
    (l = first ∧ a = b) ∨ ∃ rest', l = first ++ b :: rest' := by
  rcases List.eq_nil_or_concat rest with rfl | ⟨rest', c, rfl⟩
  · exact Or.inl (by simpa using List.append_inj' h rfl)
  · rw [List.concat_eq_append, ← List.cons_append, ← List.append_assoc] at h
    exact Or.inr ⟨rest', (List.append_inj' h rfl).1⟩

/-- What somebody else does is a deed, but no flow says it. -/
theorem Accounts.other {start p : Pool ι α} (h : Accounts start p) (operation : Memory.Operation) :
    Accounts start (p.turn (.other operation)) where
  store := by
    simp only [Pool.turn, List.map_append, Memory.run_append, ← h.store]
    rfl
  reply := by
    intro first i now e rest hdeeds
    rcases eq_append_cons_of_append_singleton hdeeds with ⟨-, hlast⟩ | ⟨rest', hdeeds⟩
    · cases hlast
    · exact h.reply hdeeds
  soFar := by
    intro i es hes
    rw [Pool.turn, said_other]
    exact h.soFar i hes
  atEnd := by
    intro i es a hes
    rw [Pool.turn, said_other]
    exact h.atEnd i hes

/-- What was said after a request is the exchange of it, if it is one, and then what comes. -/
theorem said_turn_go (p : Pool ι α) (i j : ι) (es : List Exchange) :
    said j (p.turn (.go i)).deeds ++ es =
      said j p.deeds ++ ((if i = j then
        ((p.flows i).step Memory.backend p.world).exchange.toList else []) ++ es) := by
  rw [Pool.turn, said_append, List.append_assoc]
  congr 2
  cases ((p.flows i).step Memory.backend p.world).exchange with
  | none => simp [said]
  | some e => by_cases hij : i = j <;> simp [said, hij]

/-- A request of a flow is a deed if the store is asked, and it is the next thing the flow says. -/
theorem Accounts.go {start p : Pool ι α} (h : Accounts start p) (i : ι) :
    Accounts start (p.turn (.go i)) where
  store := by
    rcases step_cases (p.flows i) p.world with ⟨hnone, hstore⟩ | ⟨call, hsome, hstore⟩
    · simp only [Pool.turn, hnone, hstore, Option.toList_none, List.map_nil, List.append_nil,
        h.store]
    · simp only [Pool.turn, hsome, hstore, Option.toList_some, List.map_cons, List.map_nil,
        List.map_append, Memory.run_append, ← h.store]
      rfl
  reply := by
    intro first j now e rest hdeeds
    rcases step_cases (p.flows i) p.world with ⟨hnone, -⟩ | ⟨call, hsome, -⟩
    · simp only [Pool.turn, hnone, Option.toList_none, List.map_nil, List.append_nil] at hdeeds
      exact h.reply hdeeds
    · simp only [Pool.turn, hsome, Option.toList_some, List.map_cons, List.map_nil] at hdeeds
      rcases eq_append_cons_of_append_singleton hdeeds with ⟨rfl, hlast⟩ | ⟨rest', hdeeds⟩
      · cases hlast
        rw [← h.store]
      · exact h.reply hdeeds
  soFar := by
    intro j es hes
    rw [said_turn_go]
    by_cases hij : i = j
    · subst hij
      rw [if_pos rfl]
      exact h.soFar i (Flow.says_step Memory.backend (by simpa [Pool.turn] using hes))
    · rw [if_neg hij]
      exact h.soFar j (by simpa [Pool.turn, Function.update_of_ne (Ne.symm hij)] using hes)
  atEnd := by
    intro j es a hes
    rw [said_turn_go]
    by_cases hij : i = j
    · subst hij
      rw [if_pos rfl]
      exact h.atEnd i (Flow.ends_step Memory.backend (by simpa [Pool.turn] using hes))
    · rw [if_neg hij]
      exact h.atEnd j (by simpa [Pool.turn, Function.update_of_ne (Ne.symm hij)] using hes)

theorem Accounts.turn {start p : Pool ι α} (h : Accounts start p) (t : Turn ι) :
    Accounts start (p.turn t) := by
  cases t with
  | tick now entropy => exact ⟨h.store, h.reply, h.soFar, h.atEnd⟩
  | other operation => exact h.other operation
  | go i => exact h.go i

/-- **The deeds account for everything**, in whichever order the turns came. -/
theorem accounts_run (flows : ∀ i, Flow (α i)) (world : World Memory) (turns : List (Turn ι)) :
    Accounts ⟨flows, world, []⟩ ((⟨flows, world, []⟩ : Pool ι α).run turns) := by
  have keep (p : Pool ι α) (h : Accounts ⟨flows, world, []⟩ p) :
      Accounts ⟨flows, world, []⟩ (p.run turns) := by
    induction turns generalizing p with
    | nil => exact h
    | cons t turns ih => exact ih (p.turn t) (h.turn t)
  refine keep ⟨flows, world, []⟩ ⟨rfl, ?_, fun i es h => h, fun i es a h => h⟩
  intro first i now e rest hdeeds
  cases first <;> cases hdeeds

/-- What a flow has exchanged is one of its dialogues. -/
theorem Accounts.says_said {start p : Pool ι α} (h : Accounts start p) (i : ι) :
    (start.flows i).Says (said i p.deeds) := by
  simpa using h.soFar i (p.flows i).says_nil

/-- What a flow that has ended exchanged is one of the dialogues that end so. -/
theorem Accounts.ends_said {start p : Pool ι α} (h : Accounts start p) {i : ι} {a : α i}
    (hdone : p.flows i = .done a) : (start.flows i).Ends (said i p.deeds) a := by
  have hends : (p.flows i).Ends [] a := by
    rw [hdone, Flow.ends_done]
    exact ⟨rfl, rfl⟩
  simpa using h.atEnd i hends

/-- What was done stays on the record. -/
theorem exists_deeds_run (p : Pool ι α) (turns : List (Turn ι)) :
    ∃ deeds, (p.run turns).deeds = p.deeds ++ deeds := by
  induction turns generalizing p with
  | nil => exact ⟨[], by simp⟩
  | cons turn turns ih =>
    obtain ⟨deeds, hdeeds⟩ := ih (p.turn turn)
    obtain ⟨first, hfirst⟩ : ∃ first, (p.turn turn).deeds = p.deeds ++ first := by
      cases turn with
      | go i => exact ⟨_, rfl⟩
      | tick now entropy => exact ⟨[], by simp [Pool.turn]⟩
      | other operation => exact ⟨_, rfl⟩
    exact ⟨first ++ deeds, by rw [run_cons, hdeeds, hfirst, List.append_assoc]⟩

/-- If nobody else is at work every deed is an exchange of a flow. -/
theorem exchanged_of_mem_run {p : Pool ι α} (hp : ∀ d ∈ p.deeds, ∃ i t e, d = .exchanged i t e)
    {turns : List (Turn ι)} (hturns : ∀ operation, .other operation ∉ turns) {d : Deed ι}
    (hd : d ∈ (p.run turns).deeds) : ∃ i t e, d = .exchanged i t e := by
  induction turns generalizing p with
  | nil => exact hp d hd
  | cons turn turns ih =>
    refine ih (p := p.turn turn) ?_ (fun op h => hturns op (List.mem_cons_of_mem turn h)) hd
    intro d hd
    cases turn with
    | other operation => exact absurd List.mem_cons_self (hturns operation)
    | tick now entropy => exact hp d hd
    | go i =>
      rcases List.mem_append.1 hd with hd | hd
      · exact hp d hd
      · obtain ⟨e, -, rfl⟩ := List.mem_map.1 hd
        exact ⟨i, p.world.now, e, rfl⟩

/-! ## A flow that has all the turns -/

/-- The flow with the given index does what it does alone, if it has all the turns. -/
def Alone (i : ι) (f : Flow (α i)) : Prop :=
  ∀ (p : Pool ι α) {a : α i} {w : World Memory}, p.flows i = f →
    f.exec Memory.backend p.world = (some a, w) →
    ∃ n, (p.run (List.replicate n (.go i))).flows = Function.update p.flows i (.done a) ∧
      (p.run (List.replicate n (.go i))).world = w

/-- It is enough that what is left after one turn does. -/
theorem alone_of_step {i : ι} {f : Flow (α i)}
    (h : ∀ w : World Memory, Alone i (f.step Memory.backend w).rest) : Alone i f := by
  intro p a w hf hexec
  have hrest : (p.turn (.go i)).flows i = (f.step Memory.backend p.world).rest := by
    simp [turn, hf]
  have hexec' : (f.step Memory.backend p.world).rest.exec Memory.backend
      (p.turn (.go i)).world = (some a, w) := by
    rw [turn, hf, Flow.exec_step, hexec]
  obtain ⟨n, hflows, hworld⟩ := h p.world (p.turn (.go i)) hrest hexec'
  refine ⟨n + 1, ?_, hworld⟩
  rw [List.replicate_succ, run_cons, hflows]
  simp [turn]

theorem alone (i : ι) (f : Flow (α i)) : Alone i f := by
  induction f with
  | done b =>
    intro p a w hf hexec
    obtain ⟨rfl, rfl⟩ : b = a ∧ p.world = w := by simpa [Flow.exec] using hexec
    exact ⟨0, by rw [← hf, Function.update_eq_self]; rfl, rfl⟩
  | abort =>
    intro p a w hf hexec
    simp [Flow.exec] at hexec
  | clock next ih => exact alone_of_step fun w => ih w.now
  | draw n next ih =>
    refine alone_of_step fun w => ?_
    simp only [Flow.step]
    cases w.entropy.secret (w.drawn + 1) n with
    | ok bytes => exact ih (.ok bytes)
    | error e => exact ih (.error e)
  | salt next ih => exact alone_of_step fun w => ih w.entropy.salt
  | emit e next ih => exact alone_of_step fun w => ih
  | store call next ih => exact alone_of_step fun w => ih (w.store.answer w.now call).1

/-- **A flow that has all the turns does what it does alone**, and leaves the others where they
are. -/
theorem exists_run_go (p : Pool ι α) (i : ι) {a : α i} {w : World Memory}
    (h : (p.flows i).exec Memory.backend p.world = (some a, w)) :
    ∃ n, (p.run (List.replicate n (.go i))).flows = Function.update p.flows i (.done a) ∧
      (p.run (List.replicate n (.go i))).world = w :=
  alone i (p.flows i) p rfl h

end Pool

end Gatehouse
