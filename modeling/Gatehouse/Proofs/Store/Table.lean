/-
  What a change does to a table as a whole.

  `get?` says what stands under one key.  The invariants of the store also need to know which keys a
  table has after a change, and how the number of values with a property moves when one value
  changes.  The second rests on the fact that no key stands twice.

  A `view` of a table shows some of its values, and of each no more than a function of it.  Changes
  to the other values are not seen in it.
-/
import Gatehouse.Store.Table
import Mathlib.Data.List.Forall2

namespace Gatehouse.Table

variable {κ ν : Type} [DecidableEq κ]

/-! ## Keys -/

@[simp] theorem contains_empty (k : κ) : (∅ : Table κ ν).contains k = false := rfl

/-- A key that the table does not have has no value. -/
theorem contains_eq_false_iff {t : Table κ ν} {k : κ} :
    t.contains k = false ↔ t.get? k = none := by
  simp [contains]

@[simp] theorem contains_insert (t : Table κ ν) (k j : κ) (v : ν) :
    (t.insert k v).contains j = (decide (j = k) || t.contains j) := by
  by_cases h : j = k <;> simp [contains, h]

@[simp] theorem contains_modify (t : Table κ ν) (k j : κ) (f : ν → ν) :
    (t.modify k f).contains j = t.contains j := by
  by_cases h : j = k <;> simp [contains, h]

@[simp] theorem contains_modifyAll (t : Table κ ν) (j : κ) (f : ν → ν) :
    (t.modifyAll f).contains j = t.contains j := by
  simp [contains]

/-- A key with a value is not one that is absent. -/
theorem ne_of_contains_eq_false {t : Table κ ν} {k j : κ} {v : ν} (hk : t.get? k = some v)
    (hj : t.contains j = false) : k ≠ j := by
  rintro rfl
  rw [contains_eq_false_iff, hk] at hj
  exact Option.some_ne_none v hj

theorem get?_insert_self (t : Table κ ν) (k : κ) (v : ν) : (t.insert k v).get? k = some v := by
  simp

/-! ## Values -/

/-- In a list without repeated keys an entry is found by its key. -/
theorem lookup_eq_some_iff {l : List (κ × ν)} (hl : (l.map Prod.fst).Nodup) {k : κ} {v : ν} :
    lookup k l = some v ↔ (k, v) ∈ l := by
  induction l with
  | nil => simp [lookup]
  | cons e l ih =>
    obtain ⟨a, w⟩ := e
    obtain ⟨ha, hl⟩ := List.nodup_cons.1 hl
    rw [lookup, List.mem_cons, Prod.mk.injEq, ← ih hl]
    split
    · next hk =>
      -- the key stands here, so it stands nowhere else in the list
      subst hk
      rw [lookup_eq_none_iff.2 ha]
      simp [eq_comm]
    · next hk => simp [Ne.symm hk]

/-- What stands under a key is what its entry holds. -/
theorem get?_eq_some_iff {t : Table κ ν} {k : κ} {v : ν} :
    t.get? k = some v ↔ (k, v) ∈ t.entries :=
  lookup_eq_some_iff t.nodup

/-- Every value stands under a key. -/
theorem exists_get?_of_mem_values {t : Table κ ν} {v : ν} (h : v ∈ t.values) :
    ∃ k, t.get? k = some v := by
  obtain ⟨⟨k, v⟩, hmem, rfl⟩ := List.mem_map.1 h
  exact ⟨k, get?_eq_some_iff.2 hmem⟩

/-- What stands under a key is a value. -/
theorem mem_values_of_get? {t : Table κ ν} {k : κ} {v : ν} (h : t.get? k = some v) :
    v ∈ t.values :=
  List.mem_map_of_mem (get?_eq_some_iff.1 h)

omit [DecidableEq κ] in
theorem length_values (t : Table κ ν) : t.values.length = t.size := List.length_map ..

/-- A table with an entry is not empty. -/
theorem size_pos_of_get? {t : Table κ ν} {k : κ} {v : ν} (h : t.get? k = some v) : 0 < t.size := by
  rw [← length_values]
  exact List.length_pos_of_mem (mem_values_of_get? h)

/-! ## The order of the keys -/

/-- Two tables with the same entries in different orders show the same under every key. -/
theorem get?_of_perm {t t' : Table κ ν} (h : t'.entries.Perm t.entries) (k : κ) :
    t'.get? k = t.get? k := by
  refine Option.ext fun v => ?_
  rw [get?_eq_some_iff, get?_eq_some_iff, h.mem_iff]

/-- Some order of a table has a given entry in front. -/
theorem exists_values_eq_cons {t : Table κ ν} {k : κ} {v : ν} (h : t.get? k = some v) :
    ∃ t' : Table κ ν, t'.entries.Perm t.entries ∧ ∃ rest, t'.values = v :: rest := by
  obtain ⟨before, after, hentries⟩ := List.append_of_mem (get?_eq_some_iff.1 h)
  have hperm : ((k, v) :: (before ++ after)).Perm t.entries := by
    rw [hentries]
    exact List.perm_middle.symm
  have hnodup : (((k, v) :: (before ++ after)).map Prod.fst).Nodup :=
    (hperm.map Prod.fst).nodup_iff.2 t.nodup
  exact ⟨⟨(k, v) :: (before ++ after), hnodup⟩, hperm, (before ++ after).map Prod.snd, rfl⟩

/-! ## Changes and the values -/

/-- A value under a new key stands behind the others. -/
theorem values_insert_of_fresh {t : Table κ ν} {k : κ} (h : t.contains k = false) (v : ν) :
    (t.insert k v).values = t.values ++ [v] := by
  simp [insert, h, values]

/-- A change under one key leaves every value in its place, changed or not. -/
theorem forall₂_values_modify (t : Table κ ν) (k : κ) {f : ν → ν} {R : ν → ν → Prop}
    (refl : ∀ v, R v v) (h : ∀ v, R v (f v)) :
    List.Forall₂ R t.values (t.modify k f).values := by
  simp only [values, modify, List.map_map, List.forall₂_map_left_iff, List.forall₂_map_right_iff,
    Function.comp_apply, List.forall₂_same]
  intro e _
  split
  · exact h e.2
  · exact refl e.2

omit [DecidableEq κ] in
/-- A change of all values leaves every value in its place. -/
theorem forall₂_values_modifyAll (t : Table κ ν) {f : ν → ν} {R : ν → ν → Prop}
    (h : ∀ v, R v (f v)) : List.Forall₂ R t.values (t.modifyAll f).values := by
  simp only [values, modifyAll, List.map_map, List.forall₂_map_left_iff,
    List.forall₂_map_right_iff, Function.comp_apply, List.forall₂_same]
  exact fun e _ => h e.2

/-- A change that changes none of the values leaves the table. -/
theorem modifyAll_eq_self {t : Table κ ν} {f : ν → ν} (h : ∀ k v, t.get? k = some v → f v = v) :
    t.modifyAll f = t := by
  have hentries : (t.entries.map fun e => (e.1, f e.2)) = t.entries := by
    refine (List.map_congr_left fun e he => ?_).trans (List.map_id _)
    obtain ⟨k, hk⟩ := exists_get?_of_mem_values (List.mem_map_of_mem (f := Prod.snd) he)
    show (e.1, f e.2) = e
    rw [h k e.2 hk]
  obtain ⟨entries, nodup⟩ := t
  simpa [modifyAll] using hentries

/-! ## Looking up what is left -/

/-- No key stands twice, so a value that is dropped does not bring another one to light. -/
theorem lookup_filterMap {l : List (κ × ν)} (hl : (l.map Prod.fst).Nodup) (f : ν → Option ν)
    (k : κ) : lookup k (l.filterMap (keep f)) = (lookup k l).bind f := by
  induction l with
  | nil => rfl
  | cons e l ih =>
    obtain ⟨a, v⟩ := e
    obtain ⟨ha, hl⟩ := List.nodup_cons.1 hl
    have hrest := ih hl
    by_cases hk : a = k
    · subst hk
      rw [lookup_eq_none_iff.2 ha] at hrest
      cases hf : f v with
      | none => simpa [keep, hf, lookup] using hrest
      | some w => simp [keep, hf, lookup]
    · cases hf : f v with
      | none => simpa [keep, hf, lookup, hk] using hrest
      | some w => simpa [keep, hf, lookup, hk] using hrest

@[simp] theorem get?_filterMap (t : Table κ ν) (f : ν → Option ν) (k : κ) :
    (t.filterMap f).get? k = (t.get? k).bind f :=
  lookup_filterMap t.nodup f k

omit [DecidableEq κ] in
theorem values_filterMap (t : Table κ ν) (f : ν → Option ν) :
    (t.filterMap f).values = t.values.filterMap f := by
  rw [values, values, filterMap, List.map_filterMap, List.filterMap_map]
  refine List.filterMap_congr fun e _ => ?_
  cases h : f e.2 with
  | none => simp [keep, h]
  | some v => simp [keep, h]

omit [DecidableEq κ] in
/-- Every key is dropped or left. -/
theorem countP_add_size_filterMap (t : Table κ ν) (f : ν → Option ν) :
    (t.values.countP fun v => (f v).isNone) + (t.filterMap f).size = t.size := by
  have hdropped : (t.values.countP fun v => (f v).isNone) =
      t.values.countP fun v => decide ¬ (f v).isSome = true := by
    refine List.countP_congr fun v _ => ?_
    simp
  rw [← length_values, ← length_values, values_filterMap, List.length_filterMap_eq_countP, hdropped,
    Nat.add_comm, ← List.length_eq_countP_add_countP]

/-! ## Seeing a part of the values -/

variable {μ : Type} {p : ν → Bool} {n : ν → μ}

/-- The value under a key as `n` shows it, if it is one of those that `p` picks out. -/
def view (p : ν → Bool) (n : ν → μ) (t : Table κ ν) (k : κ) : Option μ :=
  ((t.get? k).filter p).map n

/-- What is seen under a key is a picked value, as it looks. -/
theorem view_eq_some_iff {t : Table κ ν} {k : κ} {w : μ} :
    t.view p n k = some w ↔ ∃ v, t.get? k = some v ∧ p v = true ∧ n v = w := by
  simp [view, Option.map_eq_some_iff, Option.filter_eq_some_iff, and_assoc]

theorem view_eq_none {t : Table κ ν} {k : κ} (h : ∀ v, t.get? k = some v → p v = false) :
    t.view p n k = none := by
  cases hv : t.get? k with
  | none => simp [view, hv]
  | some v => simp [view, hv, h v hv]

theorem isSome_view (p : ν → Bool) (n : ν → μ) (t : Table κ ν) (k : κ) :
    (t.view p n k).isSome = (t.get? k).any p := by
  cases hv : t.get? k with
  | none => simp [view, hv]
  | some v => cases hp : p v <;> simp [view, hv, hp]

/-- Two tables that are seen alike have picked values under the same keys. -/
theorem any_get?_congr {t t' : Table κ ν} (h : ∀ k, t'.view p n k = t.view p n k) (k : κ) :
    (t'.get? k).any p = (t.get? k).any p := by
  rw [← isSome_view p n, ← isSome_view p n, h]

/-- An entry that is put in is seen if it is picked. -/
theorem view_insert (t : Table κ ν) (j k : κ) (v : ν) :
    (t.insert j v).view p n k =
      if k = j then (if p v then some (n v) else none) else t.view p n k := by
  by_cases hk : k = j
  · cases hp : p v <;> simp [view, hk, hp]
  · simp [view, hk]

/-- Two tables that look alike do so after entries that look alike are put in. -/
theorem view_insert_congr {t t' : Table κ ν} {v v' : ν} (hp : p v' = p v) (hn : n v' = n v)
    (h : ∀ k, t'.view p n k = t.view p n k) (j k : κ) :
    (t'.insert j v').view p n k = (t.insert j v).view p n k := by
  rw [view_insert, view_insert, hp, hn, h]

/-- A new value that is not picked is not seen. -/
theorem view_insert_of_unpicked {t : Table κ ν} {j : κ} {v : ν} (hv : p v = false)
    (fresh : t.contains j = false) (k : κ) : (t.insert j v).view p n k = t.view p n k := by
  rw [view_insert]
  split
  · next hk =>
    have hnone : t.get? k = none := hk ▸ contains_eq_false_iff.1 fresh
    simp [view, hv, hnone]
  · rfl

/-- A change that keeps to the picked values, and that can be seen, is seen as it is. -/
theorem view_modify {g : ν → ν} {g' : μ → μ} (hp : ∀ v, p (g v) = p v)
    (hn : ∀ v, n (g v) = g' (n v)) (t : Table κ ν) (j k : κ) :
    (t.modify j g).view p n k = if k = j then (t.view p n k).map g' else t.view p n k := by
  by_cases hk : k = j
  · subst hk
    cases hv : t.get? k with
    | none => simp [view, hv]
    | some v => cases h : p v <;> simp [view, hv, Option.filter, hp, hn, h]
  · simp [view, hk]

/-- Such a change leaves two tables alike that are seen alike. -/
theorem view_modify_congr (g : ν → ν) (g' : μ → μ) (hp : ∀ v, p (g v) = p v)
    (hn : ∀ v, n (g v) = g' (n v)) {t t' : Table κ ν} (h : ∀ k, t'.view p n k = t.view p n k)
    (j k : κ) : (t'.modify j g).view p n k = (t.modify j g).view p n k := by
  rw [view_modify hp hn, view_modify hp hn, h]

/-- A change of a value that is not picked is not seen. -/
theorem view_modify_of_unpicked {g : ν → ν} (hp : ∀ v, p (g v) = p v) {t : Table κ ν} {j : κ}
    (hj : ∀ v, t.get? j = some v → p v = false) (k : κ) :
    (t.modify j g).view p n k = t.view p n k := by
  by_cases hk : k = j
  · subst hk
    rw [view_eq_none hj]
    refine view_eq_none fun w hw => ?_
    obtain ⟨v, hv, rfl⟩ : ∃ v, t.get? k = some v ∧ g v = w := by simpa using hw
    rw [hp, hj v hv]
  · simp [view, hk]

/-- A change that leaves the picked values alone is not seen. -/
theorem view_modifyAll_of_unpicked {g : ν → ν} (hp : ∀ v, p (g v) = p v)
    (hg : ∀ v, p v = true → g v = v) (t : Table κ ν) (k : κ) :
    (t.modifyAll g).view p n k = t.view p n k := by
  cases hv : t.get? k with
  | none => simp [view, hv]
  | some v =>
    cases h : p v with
    | true => simp [view, hv, Option.filter, hg v h]
    | false => simp [view, hv, Option.filter, hp, h]

/-- A change of all values that can be told from their looks is a change of the looks. -/
theorem view_modifyAll {g : ν → ν} {g' : μ → μ} (hp : ∀ v, p (g v) = p v)
    (hn : ∀ v, n (g v) = g' (n v)) (t : Table κ ν) (k : κ) :
    (t.modifyAll g).view p n k = (t.view p n k).map g' := by
  cases hv : t.get? k with
  | none => simp [view, hv]
  | some v => cases h : p v <;> simp [view, hv, Option.filter, hp, hn, h]

theorem view_modifyAll_congr (g : ν → ν) (g' : μ → μ) (hp : ∀ v, p (g v) = p v)
    (hn : ∀ v, n (g v) = g' (n v)) {t t' : Table κ ν} (h : ∀ k, t'.view p n k = t.view p n k)
    (k : κ) : (t'.modifyAll g).view p n k = (t.modifyAll g).view p n k := by
  rw [view_modifyAll hp hn, view_modifyAll hp hn, h]

/-! ## Counting values -/

theorem map_modify_of_lookup_eq_none {l : List (κ × ν)} {k : κ} (h : lookup k l = none)
    (f : ν → ν) : (l.map fun e => (e.1, if e.1 = k then f e.2 else e.2)) = l := by
  induction l with
  | nil => rfl
  | cons e l ih =>
    obtain ⟨hk, hl⟩ : e.1 ≠ k ∧ lookup k l = none := by grind [lookup]
    rw [List.map_cons, ih hl, if_neg hk]

/-- A change of one value moves the count by what it makes of that value. -/
theorem countP_map_modify {l : List (κ × ν)} (hl : (l.map Prod.fst).Nodup) {k : κ} {v : ν}
    (h : lookup k l = some v) (f : ν → ν) (p : ν → Bool) :
    ((l.map fun e => (e.1, if e.1 = k then f e.2 else e.2)).map (·.2)).countP p +
        (if p v then 1 else 0) =
      (l.map (·.2)).countP p + (if p (f v) then 1 else 0) := by
  induction l with
  | nil => simp [lookup] at h
  | cons e l ih =>
    obtain ⟨a, w⟩ := e
    obtain ⟨ha, hl⟩ := List.nodup_cons.1 hl
    by_cases hk : a = k
    · -- the key stands here and nowhere else, so the rest of the list stays as it is
      subst hk
      obtain rfl : w = v := by simpa [lookup] using h
      rw [List.map_cons, map_modify_of_lookup_eq_none (lookup_eq_none_iff.2 ha)]
      simp only [if_true, List.map_cons, List.countP_cons]
      omega
    · have hv : lookup k l = some v := by simpa [lookup, hk] using h
      have := ih hl hv
      simp only [List.map_cons, if_neg hk, List.countP_cons]
      omega

/-- Changing one value moves the number of values with a property by that value alone. -/
theorem countP_modify {t : Table κ ν} {k : κ} {v : ν} (h : t.get? k = some v) (f : ν → ν)
    (p : ν → Bool) :
    (t.modify k f).values.countP p + (if p v then 1 else 0) =
      t.values.countP p + (if p (f v) then 1 else 0) :=
  countP_map_modify t.nodup h f p

/-- A value under a new key comes to the others. -/
theorem countP_insert {t : Table κ ν} {k : κ} (h : t.contains k = false) (v : ν) (p : ν → Bool) :
    (t.insert k v).values.countP p = t.values.countP p + (if p v then 1 else 0) := by
  simp [insert, h, values, List.countP_append, List.countP_singleton]

/-- A change that gives the property to no value does not raise their number. -/
theorem countP_modify_le (t : Table κ ν) (k : κ) {f : ν → ν} {p : ν → Bool}
    (h : ∀ v, p (f v) = true → p v = true) :
    (t.modify k f).values.countP p ≤ t.values.countP p := by
  simp only [values, modify, List.map_map, List.countP_map]
  refine List.countP_mono_left fun e _ he => ?_
  by_cases hk : e.1 = k
  · exact h e.2 (by simpa [hk] using he)
  · simpa [hk] using he

omit [DecidableEq κ] in
/-- A change of all values that makes none of them count does not raise the count. -/
theorem countP_modifyAll_le (t : Table κ ν) {f : ν → ν} {p : ν → Bool}
    (h : ∀ v, p (f v) = true → p v = true) :
    (t.modifyAll f).values.countP p ≤ t.values.countP p := by
  simp only [values, modifyAll, List.map_map, List.countP_map]
  exact List.countP_mono_left fun e _ => h e.2

end Gatehouse.Table
