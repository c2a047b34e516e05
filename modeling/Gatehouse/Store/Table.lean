/-
  Tables: values under keys, in the order in which the keys first came.

  A table is seen through `get?`.  `insert` and `modify` change the value of one key and leave the
  others alone, and `modifyAll` changes values without touching the keys.
-/

namespace Gatehouse

/-- Values under keys. -/
structure Table (κ ν : Type) where
  /-- The keys with their values. -/
  entries : List (κ × ν) := []
  /-- No key stands twice. -/
  nodup : (entries.map Prod.fst).Nodup := by exact List.nodup_nil
deriving DecidableEq, Repr

namespace Table

variable {κ ν : Type}

/-! ## Entries and their keys -/

/-- A change of values leaves the keys. -/
theorem map_fst_map (l : List (κ × ν)) (f : κ × ν → ν) :
    (l.map fun e => (e.1, f e)).map Prod.fst = l.map Prod.fst := by
  simp

/-- What is left of an entry. -/
def keep (f : ν → Option ν) (e : κ × ν) : Option (κ × ν) := (f e.2).map fun v => (e.1, v)

/-- The keys that are left are some of the keys that were there. -/
theorem map_fst_filterMap (f : ν → Option ν) (l : List (κ × ν)) :
    ((l.filterMap (keep f)).map Prod.fst).Sublist (l.map Prod.fst) := by
  induction l with
  | nil => simp
  | cons e l ih =>
    cases h : f e.2 with
    | none => simpa [keep, h] using ih.cons e.1
    | some v => simpa [keep, h] using ih.cons_cons e.1

variable [DecidableEq κ]

instance : EmptyCollection (Table κ ν) := ⟨{}⟩

/-! ## Looking up -/

/-- The value under a key in a list of entries. -/
def lookup (k : κ) : List (κ × ν) → Option ν
  | [] => none
  | (a, v) :: rest => if a = k then some v else lookup k rest

/-- There is no value under a key exactly when the key does not stand in the list. -/
theorem lookup_eq_none_iff {k : κ} {l : List (κ × ν)} : lookup k l = none ↔ k ∉ l.map Prod.fst := by
  induction l with
  | nil => simp [lookup]
  | cons e l ih => grind [lookup]

/-- The value under a key. -/
def get? (t : Table κ ν) (k : κ) : Option ν := lookup k t.entries

/-- Tells whether there is a value under a key. -/
def contains (t : Table κ ν) (k : κ) : Bool := (t.get? k).isSome

/-- The values in the order of their keys. -/
def values (t : Table κ ν) : List ν := t.entries.map (·.2)

/-- The number of keys. -/
def size (t : Table κ ν) : Nat := t.entries.length

/-! ## Changing -/

/-- Changes the value under a key, if there is one. -/
def modify (t : Table κ ν) (k : κ) (f : ν → ν) : Table κ ν where
  entries := t.entries.map fun e => (e.1, if e.1 = k then f e.2 else e.2)
  nodup := by rw [map_fst_map]; exact t.nodup

/-- Puts a value under a key, in the place of the one that was there or else at the end. -/
def insert (t : Table κ ν) (k : κ) (v : ν) : Table κ ν :=
  if h : t.contains k then t.modify k fun _ => v
  else {
    entries := t.entries ++ [(k, v)]
    nodup := by
      have hk : k ∉ t.entries.map Prod.fst :=
        lookup_eq_none_iff.1 (by simpa [contains, get?] using h)
      rw [List.map_append, List.nodup_append]
      refine ⟨t.nodup, by simp, ?_⟩
      intro a ha b hb
      have hb : b = k := by simpa using hb
      exact fun e => hk (hb ▸ e ▸ ha) }

/-- Changes every value. -/
def modifyAll (t : Table κ ν) (f : ν → ν) : Table κ ν where
  entries := t.entries.map fun e => (e.1, f e.2)
  nodup := by rw [map_fst_map]; exact t.nodup

/-- Changes every value, and drops the keys for which nothing is left. -/
def filterMap (t : Table κ ν) (f : ν → Option ν) : Table κ ν where
  entries := t.entries.filterMap (keep f)
  nodup := (map_fst_filterMap f t.entries).nodup t.nodup

/-! ## Looking up after a change -/

@[simp] theorem get?_empty (k : κ) : (∅ : Table κ ν).get? k = none := rfl

@[simp] theorem get?_modify (t : Table κ ν) (k j : κ) (f : ν → ν) :
    (t.modify k f).get? j = if j = k then (t.get? j).map f else t.get? j := by
  obtain ⟨l, hl⟩ := t
  simp only [get?, modify]
  clear hl
  induction l with
  | nil => simp [lookup]
  | cons e l ih => grind [lookup]

theorem lookup_append_singleton (l : List (κ × ν)) (k j : κ) (v : ν) (h : lookup k l = none) :
    lookup j (l ++ [(k, v)]) = if j = k then some v else lookup j l := by
  induction l with
  | nil => grind [lookup]
  | cons e l ih => grind [lookup]

@[simp] theorem get?_insert (t : Table κ ν) (k j : κ) (v : ν) :
    (t.insert k v).get? j = if j = k then some v else t.get? j := by
  unfold insert
  split
  · next h =>
    obtain ⟨w, hw⟩ := Option.isSome_iff_exists.1 h
    by_cases hj : j = k
    · subst hj; simp [hw]
    · simp [hj]
  · next h =>
    exact lookup_append_singleton t.entries k j v (by simpa [contains, get?] using h)

@[simp] theorem get?_modifyAll (t : Table κ ν) (j : κ) (f : ν → ν) :
    (t.modifyAll f).get? j = (t.get? j).map f := by
  obtain ⟨l, hl⟩ := t
  simp only [get?, modifyAll]
  clear hl
  induction l with
  | nil => simp [lookup]
  | cons e l ih => grind [lookup]

end Table

end Gatehouse
