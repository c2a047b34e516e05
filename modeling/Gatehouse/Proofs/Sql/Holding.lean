/-
  What a session holds, and what that says about the table.

  A session takes rows and changes them, while others commit changes to rows that it does not hold.
  `Session.Good` says how the two stay in step.  Its parts, in the order in which they are needed:

  1. between two transactions nothing is held;
  2. what a session makes of a row is a later version of the row in the table;
  3. a row that the table does not have was added by a statement of the session;
  4. if the transaction began by locking a row that was not spent, the row in the table is still not
     spent, and the session holds it;
  5. once the transaction has carried out a statement that spends that row, its own version of it is
     spent.

  The parts about a statement under way (`locking`, `spending`) are what carries 4 and 5 over its
  visits.  No move breaks any of them (`Moves.good`), and neither does a change of the table in
  places where the session holds nothing (`Session.Good.frame`).
-/
import Gatehouse.Proofs.Sql.Locking

namespace Gatehouse.Sql

variable {α : Type} {iso : Isolation} {table : Versions} {free : Place → Prop}

/-- The answer shows that a row stood at the place, which was not spent and belonged to the user. -/
def Answered.Finds : Answered → Place → Uuid → Prop
  | .statement (.lockRefresh digest) (.ok (row :: _)), p, user =>
    p = .refresh digest ∧ row.revoked = false ∧ row.user = user
  | .statement (.lockReset digest) (.ok (owner :: _)), p, user =>
    p = .reset digest ∧ owner = user
  | _, _, _ => False

/-- A statement that shows a row locks it, and it spends none. -/
theorem Answered.Finds.locks {s : Statement} {answer : Except DatabaseError s.Result} {p : Place}
    {user : Uuid} (h : (Answered.statement s answer).Finds p user) :
    s.Locks ∧ ∀ p', ¬ s.Spends p' := by
  cases s with
  | lockRefresh digest => exact ⟨trivial, fun _ => id⟩
  | lockReset digest => exact ⟨trivial, fun _ => id⟩
  | _ => exact h.elim

namespace Session

/-- The statement is on its way through its rows. -/
def UnderWay (σ : Session α) (s : Statement) (q : Search) : Prop :=
  (∃ next, σ.script = .send s next) ∧ σ.search = some q

/-- A session has one statement on its way. -/
theorem UnderWay.eq {σ : Session α} {s s' : Statement} {q q' : Search} {next}
    (h' : σ.UnderWay s' q') (h : σ.script = .send s next) (searching : σ.search = some q) :
    s = s' ∧ q = q' := by
  obtain ⟨⟨next', hnext⟩, hq⟩ := h'
  exact ⟨(Script.send.inj (h.symm.trans hnext)).1, Option.some.inj (searching.symm.trans hq)⟩

/-- The statement was carried out in the open transaction, or it is on its way. -/
def Doing (σ : Session α) (s : Statement) : Prop :=
  (∃ r, .statement s (.ok r) ∈ σ.log) ∨ ∃ q, σ.UnderWay s q

/-- The transaction began by locking a row of the user that was not spent. -/
def Began (σ : Session α) (p : Place) (user : Uuid) : Prop :=
  σ.failed = false ∧ ∃ x rest, σ.log = x :: rest ∧ x.Finds p user

/-- The session has spent the token at the place. -/
def HoldsSpent (σ : Session α) (p : Place) : Prop :=
  ∃ r, σ.held p = some r ∧ p.spent r = true

/-- What a session holds fits the table. -/
structure Good (table : Versions) (σ : Session α) : Prop where
  /-- Only what is said in a transaction is noted. -/
  unlogged : σ.opened = false → σ.log = []
  /-- Between two transactions nothing is held. -/
  unheld : σ.search = none → σ.log = [] → ∀ p, σ.held p = none
  /-- The session has a later version of a row in the table. -/
  later : ∀ {p r r'}, table p = some r → σ.held p = some r' → p.Later r r'
  /-- A row that is not in the table was added. -/
  stored : ∀ {p r}, table p = none → σ.held p = some r → ∃ s, σ.Doing s ∧ s.Stores p (p.owner r)
  /-- A statement that begins a transaction with locks has changed nothing, and all that it took
  meets its condition. -/
  locking : ∀ {s q}, σ.UnderWay s q → σ.log = [] → s.Locks →
    (∀ p r, σ.held p = some r → table p = some r) ∧
      ∀ p ∈ q.picked, ∃ r, σ.held p = some r ∧ s.effect q.stamp p (some r) = some r
  /-- A row that was not spent when the transaction locked it is not spent in the table. -/
  locked : ∀ {p user}, σ.Began p user → ∃ r r', table p = some r ∧ p.spent r = false ∧
    p.owner r = user ∧ σ.held p = some r'
  /-- A statement that is to spend the row still has to visit it, or has spent it. -/
  spending : ∀ {p user s q}, σ.Began p user → σ.UnderWay s q → s.Spends p →
    p ∈ q.left ∨ σ.HoldsSpent p
  /-- A statement that was to spend the row has spent it. -/
  spent : ∀ {p user s r}, σ.Began p user → .statement s (.ok r) ∈ σ.log → s.Spends p →
    σ.HoldsSpent p

variable {σ : Session α}

/-- A session that holds nothing, and is not in a transaction that may go well. -/
theorem good_of_unheld (hheld : ∀ p, σ.held p = none) (hsearch : σ.search = none)
    (hclosed : σ.opened = false → σ.log = []) (hlog : σ.failed = false → σ.log = []) :
    σ.Good table where
  unlogged := hclosed
  unheld _ _ := hheld
  later _ h := by simp [hheld] at h
  stored _ h := by simp [hheld] at h
  locking h := by simp [UnderWay, hsearch] at h
  locked h := by
    obtain ⟨hsound, x, rest, hx, -⟩ := h
    simp [hlog hsound] at hx
  spending _ h := by simp [UnderWay, hsearch] at h
  spent h hmem := by simp [hlog h.1] at hmem

/-- Others may change the table where the session holds nothing. -/
theorem Good.frame {table' : Versions} (good : σ.Good table)
    (same : ∀ p r, σ.held p = some r → table' p = table p) : σ.Good table' where
  unlogged := good.unlogged
  unheld := good.unheld
  later htable hheld := good.later (same _ _ hheld ▸ htable) hheld
  stored htable hheld := good.stored (same _ _ hheld ▸ htable) hheld
  locking h hlog hlocks := by
    obtain ⟨hsame, hpicked⟩ := good.locking h hlog hlocks
    exact ⟨fun p r hr => (same p r hr).trans (hsame p r hr), hpicked⟩
  locked h := by
    obtain ⟨r, r', htable, hspent, howner, hheld⟩ := good.locked h
    exact ⟨r, r', (same _ _ hheld).trans htable, hspent, howner, hheld⟩
  spending := good.spending
  spent := good.spent

/-! ### A statement looks for its rows -/

section Start

variable {s : Statement} {next : Except DatabaseError s.Result → Script α} {stamp : Stamp}
  {left : List Place}

/-- What was being done is still being done. -/
theorem Doing.start (hidle : σ.search = none) {s' : Statement} (h : σ.Doing s') :
    { σ with search := some { stamp, left } : Session α }.Doing s' := by
  rcases h with hlog | ⟨q, -, hq⟩
  · exact Or.inl hlog
  · simp [hidle] at hq

theorem Good.start (good : σ.Good table) (h : σ.script = .send s next) (idle : σ.search = none)
    (found : iso.Found table σ.held stamp s left) :
    { σ with search := some { stamp, left } : Session α }.Good table where
  unlogged := good.unlogged
  unheld h := by simp at h
  later := good.later
  stored htable hheld := by
    obtain ⟨s', hdoing, hstores⟩ := good.stored htable hheld
    exact ⟨s', hdoing.start idle, hstores⟩
  locking {s' q} hs' hlog hlocks := by
    obtain ⟨-, hq⟩ := hs'
    obtain rfl := Option.some.inj hq
    -- the transaction begins here, so nothing is held yet
    have hnone := good.unheld idle hlog
    exact ⟨fun p r hr => by simp [hnone] at hr, fun p hp => by simp at hp⟩
  locked := good.locked
  spending {p user s' q} hbegan hs' hspends := by
    obtain ⟨rfl, rfl⟩ := hs'.eq h rfl
    obtain ⟨r, r', -, -, -, hheld⟩ := good.locked hbegan
    obtain ⟨r'', heffect, -⟩ := Statement.exists_effect_of_spends hspends stamp r'
    unfold Isolation.Found at found
    rw [Statement.inserts_of_spends hspends] at found
    exact Or.inl (iso.finds_own found hheld heffect)
  spent := good.spent

end Start

/-! ### A statement visits a row -/

section Visit

variable {s : Statement} {next : Except DatabaseError s.Result → Script α} {stamp : Stamp}
  {p : Place} {left picked : List Place} {r : p.Row}

/-- The session after it has taken a row. -/
abbrev taken (σ : Session α) (stamp : Stamp) (p : Place) (left picked : List Place) (r : p.Row) :
    Session α :=
  { σ with
    search := some ⟨stamp, left, p :: picked⟩
    held := Function.update σ.held p (some r) }

theorem held_taken_self : (σ.taken stamp p left picked r).held p = some r :=
  Function.update_self ..

theorem held_taken_of_ne {p' : Place} (hne : p' ≠ p) :
    (σ.taken stamp p left picked r).held p' = σ.held p' :=
  Function.update_of_ne hne ..

/-- A statement goes on with what is being done. -/
theorem Doing.visit (q : Search) (own : Versions) {s' : Statement} (h : σ.Doing s') :
    { σ with search := some q, held := own : Session α }.Doing s' := by
  rcases h with hlog | ⟨_, hscript, -⟩
  · exact Or.inl hlog
  · exact Or.inr ⟨q, hscript, rfl⟩

/-- What is taken is a later version of the row in the table. -/
theorem Good.later_taken (good : σ.Good table) {r₀ : p.Row}
    (picks : s.effect stamp p (σ.held.over table p) = some r) (htable : table p = some r₀) :
    p.Later r₀ r := by
  cases hheld : σ.held p with
  | none =>
    rw [Versions.over_of_none hheld, htable] at picks
    exact Statement.later_of_effect picks
  | some r₁ =>
    rw [Versions.over_of_some hheld] at picks
    exact (good.later htable hheld).trans (Statement.later_of_effect picks)

/-- A token that the statement is to spend is spent when its row is taken. -/
theorem Good.spent_taken (good : σ.Good table)
    (picks : s.effect stamp p (σ.held.over table p) = some r) {user : Uuid}
    (hbegan : σ.Began p user) (hspends : s.Spends p) : p.spent r = true := by
  obtain ⟨-, r₁, -, -, -, hheld⟩ := good.locked hbegan
  rw [Versions.over_of_some hheld] at picks
  obtain ⟨r', heffect, hspent⟩ := Statement.exists_effect_of_spends hspends stamp r₁
  obtain rfl := Option.some.inj (picks.symm.trans heffect)
  exact hspent

/-- A token that the session has spent stays spent. -/
theorem HoldsSpent.taken (picks : s.effect stamp p (σ.held.over table p) = some r) {p' : Place}
    (h : σ.HoldsSpent p') : (σ.taken stamp p left picked r).HoldsSpent p' := by
  obtain ⟨r', hheld, hspent⟩ := h
  by_cases hp : p' = p
  · subst hp
    rw [Versions.over_of_some hheld] at picks
    exact ⟨r, held_taken_self, (Statement.later_of_effect picks).spent hspent⟩
  · exact ⟨r', (held_taken_of_ne hp).trans hheld, hspent⟩

/-- A row that is taken and is not in the table was added by what is being done. -/
theorem Good.stored_taken (good : σ.Good table) (h : σ.script = .send s next)
    (picks : s.effect stamp p (σ.held.over table p) = some r) (htable : table p = none) :
    ∃ s', (σ.taken stamp p left picked r).Doing s' ∧ s'.Stores p (p.owner r) := by
  cases hheld : σ.held p with
  | none =>
    rw [Versions.over_of_none hheld, htable] at picks
    exact ⟨s, Or.inr ⟨_, ⟨next, h⟩, rfl⟩, Statement.stores_of_effect picks⟩
  | some r₁ =>
    rw [Versions.over_of_some hheld] at picks
    obtain ⟨s', hdoing, hstores⟩ := good.stored htable hheld
    exact ⟨s', hdoing.visit _ _, (Statement.later_of_effect picks).owner ▸ hstores⟩

/-- As long as nothing is changed, all that is held stands in the table. -/
theorem same_taken (same : ∀ p r, σ.held p = some r → table p = some r)
    (hover : σ.held.over table p = some r) {p' : Place} {r' : p'.Row}
    (hheld : (σ.taken stamp p left picked r).held p' = some r') : table p' = some r' := by
  by_cases hp : p' = p
  · subst hp
    obtain rfl := Option.some.inj (held_taken_self.symm.trans hheld)
    cases hheld₀ : σ.held p' with
    | none => exact (Versions.over_of_none hheld₀).symm.trans hover
    | some r₁ =>
      rw [Versions.over_of_some hheld₀] at hover
      exact (same p' r₁ hheld₀).trans hover
  · exact same p' r' ((held_taken_of_ne hp).symm.trans hheld)

theorem Good.take (good : σ.Good table) (h : σ.script = .send s next)
    (searching : σ.search = some ⟨stamp, p :: left, picked⟩)
    (picks : s.effect stamp p (σ.held.over table p) = some r) :
    (σ.taken stamp p left picked r).Good table where
  unlogged := good.unlogged
  unheld h := by simp at h
  later {p' r₀ r'} htable hheld := by
    by_cases hp : p' = p
    · subst hp
      obtain rfl := Option.some.inj (held_taken_self.symm.trans hheld)
      exact good.later_taken picks htable
    · exact good.later htable ((held_taken_of_ne hp).symm.trans hheld)
  stored {p' r'} htable hheld := by
    by_cases hp : p' = p
    · subst hp
      obtain rfl := Option.some.inj (held_taken_self.symm.trans hheld)
      exact good.stored_taken h picks htable
    · obtain ⟨s', hdoing, hstores⟩ :=
        good.stored htable ((held_taken_of_ne hp).symm.trans hheld)
      exact ⟨s', hdoing.visit _ _, hstores⟩
  locking {s' q} hs' hlog hlocks := by
    obtain ⟨rfl, rfl⟩ := hs'.eq h rfl
    obtain ⟨hsame, hpicked⟩ := good.locking ⟨⟨next, h⟩, searching⟩ hlog hlocks
    obtain ⟨hover, hagain⟩ := Statement.effect_of_locks hlocks picks
    refine ⟨fun p' r' hr' => same_taken hsame hover hr', fun p' hp' => ?_⟩
    by_cases hp : p' = p
    · subst hp
      exact ⟨r, held_taken_self, hagain⟩
    · obtain ⟨r', hr', hagain'⟩ := hpicked p' ((List.mem_cons.1 hp').resolve_left hp)
      exact ⟨r', (held_taken_of_ne hp).trans hr', hagain'⟩
  locked {p' user} hbegan := by
    obtain ⟨r₀, r', htable, hspent, howner, hheld⟩ := good.locked hbegan
    by_cases hp : p' = p
    · subst hp
      exact ⟨r₀, r, htable, hspent, howner, held_taken_self⟩
    · exact ⟨r₀, r', htable, hspent, howner, (held_taken_of_ne hp).trans hheld⟩
  spending {p' user s' q} hbegan hs' hspends := by
    obtain ⟨rfl, rfl⟩ := hs'.eq h rfl
    by_cases hp : p' = p
    · subst hp
      exact Or.inr ⟨r, held_taken_self, good.spent_taken picks hbegan hspends⟩
    · rcases good.spending hbegan ⟨⟨next, h⟩, searching⟩ hspends with hleft | hspent
      · exact Or.inl ((List.mem_cons.1 hleft).resolve_left hp)
      · exact Or.inr (hspent.taken picks)
  spent hbegan hmem hspends := (good.spent hbegan hmem hspends).taken picks

theorem Good.skip (good : σ.Good table) (h : σ.script = .send s next)
    (searching : σ.search = some ⟨stamp, p :: left, picked⟩)
    (passes : s.effect stamp p (σ.held.over table p) = none) :
    { σ with search := some ⟨stamp, left, picked⟩ : Session α }.Good table where
  unlogged := good.unlogged
  unheld h := by simp at h
  later := good.later
  stored htable hheld := by
    obtain ⟨s', hdoing, hstores⟩ := good.stored htable hheld
    exact ⟨s', hdoing.visit _ _, hstores⟩
  locking {s' q} hs' hlog hlocks := by
    obtain ⟨hscript, hq⟩ := hs'
    obtain rfl := Option.some.inj hq
    have hbefore := good.locking ⟨hscript, searching⟩ hlog hlocks
    exact hbefore
  locked := good.locked
  spending {p' user s' q} hbegan hs' hspends := by
    obtain ⟨rfl, rfl⟩ := hs'.eq h rfl
    rcases good.spending hbegan ⟨⟨next, h⟩, searching⟩ hspends with hleft | hspent
    · refine Or.inl ((List.mem_cons.1 hleft).resolve_left ?_)
      -- the row is held, so the statement would have picked it
      rintro rfl
      obtain ⟨-, r₁, -, -, -, hheld⟩ := good.locked hbegan
      obtain ⟨r', heffect, -⟩ := Statement.exists_effect_of_spends hspends stamp r₁
      rw [Versions.over_of_some hheld, heffect] at passes
      cases passes
    · exact Or.inr hspent
  spent := good.spent

end Visit

/-! ### A statement is answered -/

section Answer

variable {s : Statement} {next : Except DatabaseError s.Result → Script α} {stamp : Stamp}
  {picked : List Place} {r : s.Result}

/-- What a statement shows that begins a transaction is in the table. -/
theorem exists_row_of_finds {own : Versions} {p : Place} {user : Uuid}
    (gives : s.Gives iso table own stamp picked r)
    (found : (Answered.statement s (.ok r)).Finds p user)
    (hsame : ∀ p r, own p = some r → table p = some r)
    (hpicked : ∀ p ∈ picked, ∃ r, own p = some r ∧ s.effect stamp p (some r) = some r) :
    ∃ r r', table p = some r ∧ p.spent r = false ∧ p.owner r = user ∧ own p = some r' := by
  cases s with
  | lockRefresh digest =>
    cases r with
    | nil => exact found.elim
    | cons row rows =>
      obtain ⟨rfl, hrevoked, howner⟩ := found
      by_cases hp : .refresh digest ∈ picked
      · obtain ⟨r, hheld, -⟩ := hpicked _ hp
        simp only [Statement.Gives, hp, if_true, hheld, Option.map_some, Option.toList_some,
          List.cons.injEq] at gives
        obtain ⟨rfl, -⟩ := gives
        exact ⟨r, r, hsame _ _ hheld, hrevoked, howner, hheld⟩
      · simp [Statement.Gives, hp] at gives
  | lockReset digest =>
    cases r with
    | nil => exact found.elim
    | cons owner owners =>
      obtain ⟨rfl, rfl⟩ := found
      by_cases hp : .reset digest ∈ picked
      · obtain ⟨r, hheld, heffect⟩ := hpicked _ hp
        simp only [Statement.Gives, hp, if_true, hheld, Option.map_some, Option.toList_some,
          List.cons.injEq] at gives
        unfold Statement.effect at heffect
        simp only [Option.ite_none_right_eq_some] at heffect
        exact ⟨r, r, hsame _ _ hheld, heffect.1.2.1, gives.1.symm, hheld⟩
      · simp [Statement.Gives, hp] at gives
  | _ => exact found.elim

/-- A transaction began as it had begun before the answer, or the answer is the first. -/
theorem Began.before {script : Script α} {x : Answered} {p : Place} {user : Uuid}
    (h : { σ with script, log := σ.log ++ [x], search := none : Session α }.Began p user) :
    σ.Began p user ∨ σ.log = [] ∧ x.Finds p user := by
  obtain ⟨hsound, y, rest, hlog, hfinds⟩ := h
  cases hlog₀ : σ.log with
  | nil =>
    obtain ⟨rfl, -⟩ : x = y ∧ [] = rest := by simpa [hlog₀] using hlog
    exact Or.inr ⟨rfl, hfinds⟩
  | cons z rest₀ =>
    obtain ⟨rfl, -⟩ : z = y ∧ _ := by simpa [hlog₀] using hlog
    exact Or.inl ⟨hsound, z, rest₀, hlog₀, hfinds⟩

theorem Good.answer (good : σ.Good table) (h : σ.script = .send s next) (opened : σ.opened = true)
    (searched : σ.search = some ⟨stamp, [], picked⟩)
    (gives : s.Gives iso table σ.held stamp picked r) :
    { σ with
      script := next (.ok r), log := σ.log ++ [.statement s (.ok r)], search := none :
      Session α }.Good table where
  unlogged hclosed := by simp [opened] at hclosed
  unheld _ hlog := by simp at hlog
  later := good.later
  stored htable hheld := by
    obtain ⟨s', hdoing, hstores⟩ := good.stored htable hheld
    refine ⟨s', Or.inl ?_, hstores⟩
    rcases hdoing with ⟨r', hr'⟩ | ⟨q, hway⟩
    · exact ⟨r', List.mem_append_left _ hr'⟩
    · obtain ⟨rfl, rfl⟩ := hway.eq h searched
      exact ⟨r, List.mem_append_right _ (List.mem_singleton_self _)⟩
  locking hs' := by simp [UnderWay] at hs'
  locked hbegan := by
    rcases hbegan.before with hbefore | ⟨hlog, hfinds⟩
    · exact good.locked hbefore
    · -- this is the statement with which the transaction begins
      obtain ⟨hsame, hpicked⟩ := good.locking ⟨⟨next, h⟩, searched⟩ hlog hfinds.locks.1
      exact exists_row_of_finds gives hfinds hsame hpicked
  spending _ hs' := by simp [UnderWay] at hs'
  spent {p user s' r'} hbegan hmem hspends := by
    rcases hbegan.before with hbefore | ⟨hlog, hfinds⟩
    · rcases List.mem_append.1 hmem with hmem | hmem
      · exact good.spent hbefore hmem hspends
      · obtain ⟨rfl, -⟩ : s' = s ∧ _ := by simpa using hmem
        rcases good.spending hbefore ⟨⟨next, h⟩, searched⟩ hspends with hleft | hspent
        · simp at hleft
        · exact hspent
    · obtain ⟨rfl, -⟩ : s' = s ∧ _ := by simpa [hlog] using hmem
      exact absurd hspends (hfinds.locks.2 p)

end Answer

end Session

/-! ## One move -/

open Session in
/-- **A move of a session leaves it in step with the table.** -/
theorem Moves.good {σ σ' : Session α} {kept : Option Kept} (h : Moves iso table free σ σ' kept)
    (good : σ.Good table) : σ'.Good (table.committed kept) := by
  have nothing (script : Script α) (opened : Bool) (table' : Versions) :
      { script, opened : Session α }.Good table' :=
    good_of_unheld (fun _ => rfl) rfl (fun _ => rfl) fun _ => rfl
  cases h with
  | acquire h closed answer => exact nothing _ _ _
  | begin h closed answer => exact nothing _ _ _
  | commit h opened sound answer => exact nothing _ _ _
  | refuse h void => exact nothing _ _ _
  | rollback h => exact nothing _ _ _
  | start h idle sound found => exact good.start h idle found
  | take h searching unheld picks => exact good.take h searching picks
  | skip h searching unheld seeks passes => exact good.skip h searching passes
  | answer h opened searched gives => exact good.answer h opened searched gives
  | alone h closed searched gives told => exact nothing _ _ _
  | @fail s next h e =>
    have unlogged (hclosed : σ.opened = false) :
        (if σ.opened then σ.log ++ [Answered.statement s (.error e)] else []) = [] :=
      if_neg (by simp [hclosed])
    exact good_of_unheld (fun _ => rfl) rfl unlogged unlogged

/-- The transaction began by locking a row that was not spent, and it spent that row. -/
def Wins (log : List Answered) (p : Place) : Prop :=
  (∃ x rest user, log = x :: rest ∧ x.Finds p user) ∧
    ∃ s r, .statement s (.ok r) ∈ log ∧ s.Spends p

/-- One statement is not enough for that. -/
theorem not_wins_singleton {s : Statement} {r : s.Result} {p : Place} :
    ¬ Wins [.statement s (.ok r)] p := by
  rintro ⟨⟨x, rest, user, hx, hfinds⟩, s', r', hmem, hspends⟩
  obtain ⟨rfl, -⟩ := List.cons.inj hx
  obtain ⟨rfl, -⟩ : s' = s ∧ _ := by simpa using hmem
  exact hfinds.locks.2 p hspends

/-- What a committed transaction has to do with the table that it found. -/
structure Kept.Fits (kept : Kept) (table : Versions) : Prop where
  /-- It left a later version of a row in the table. -/
  later : ∀ {p r r'}, table p = some r → kept.writes p = some r' → p.Later r r'
  /-- A row that is not in the table was added by one of its statements. -/
  stored : ∀ {p r}, table p = none → kept.writes p = some r →
    ∃ s a, .statement s (.ok a) ∈ kept.log ∧ s.Stores p (p.owner r)
  /-- If it began by locking a row that was not spent, then that is still so in the table, and the
  row is one of those that it leaves. -/
  locked : ∀ {x rest p user}, kept.log = x :: rest → x.Finds p user →
    ∃ r r', table p = some r ∧ p.spent r = false ∧ p.owner r = user ∧ kept.writes p = some r'
  /-- If it spent that row as well, it leaves it spent. -/
  spent : ∀ {p}, Wins kept.log p → ∃ r, kept.writes p = some r ∧ p.spent r = true

/-- **What a session commits fits the table.** -/
theorem Moves.fits {σ σ' : Session α} {kept : Kept} (h : Moves iso table free σ σ' (some kept))
    (good : σ.Good table) : kept.Fits table := by
  cases h with
  | commit h opened sound answer =>
    refine ⟨good.later, fun htable hheld => ?_, fun hlog hfinds => ?_, ?_⟩
    · obtain ⟨s, ⟨r, hr⟩ | ⟨q, ⟨next, hnext⟩, -⟩, hstores⟩ := good.stored htable hheld
      · exact ⟨s, r, hr, hstores⟩
      · cases h.symm.trans hnext
    · exact good.locked ⟨sound, _, _, hlog, hfinds⟩
    · rintro p ⟨⟨x, rest, user, hlog, hfinds⟩, s, r, hmem, hspends⟩
      exact good.spent ⟨sound, x, rest, hlog, hfinds⟩ hmem hspends
  | @alone s next h closed stamp picked searched r gives answer told =>
    have hlog := good.unlogged closed
    refine ⟨good.later, fun htable hheld => ?_, fun hx hfinds => ?_, fun hwins => ?_⟩
    · obtain ⟨s', ⟨r', hr'⟩ | ⟨q, hway⟩, hstores⟩ := good.stored htable hheld
      · simp [hlog] at hr'
      · obtain ⟨rfl, rfl⟩ := hway.eq h searched
        exact ⟨s, r, List.mem_singleton_self _, hstores⟩
    · obtain ⟨rfl, -⟩ := List.cons.inj hx
      obtain ⟨hsame, hpicked⟩ := good.locking ⟨⟨next, h⟩, searched⟩ hlog hfinds.locks.1
      exact Session.exists_row_of_finds gives hfinds hsame hpicked
    · exact absurd hwins not_wins_singleton

/-- A commit leaves the rows that the session holds. -/
theorem Moves.writes_eq {σ σ' : Session α} {kept : Kept}
    (h : Moves iso table free σ σ' (some kept)) : kept.writes = σ.held := by
  cases h <;> rfl

/-- A session takes only rows that nobody else holds. -/
theorem Moves.free_of_held {σ σ' : Session α} {kept : Option Kept}
    (h : Moves iso table free σ σ' kept) {p : Place} {r : p.Row} (hheld : σ'.held p = some r) :
    (∃ r₀, σ.held p = some r₀) ∨ free p := by
  cases h with
  | start h idle sound found => exact Or.inl ⟨r, hheld⟩
  | @take s next h stamp p' left picked searching unheld r' picks =>
    by_cases hp : p = p'
    · subst hp
      exact Or.inr unheld
    · exact Or.inl ⟨r, (Session.held_taken_of_ne hp).symm.trans hheld⟩
  | skip h searching unheld seeks passes => exact Or.inl ⟨r, hheld⟩
  | answer h opened searched gives => exact Or.inl ⟨r, hheld⟩
  | _ => cases hheld

end Gatehouse.Sql
