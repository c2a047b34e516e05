/-
  What is left when blanks are cut off.

  A text is its trimmed form with blanks before and after it (`exists_append_trimChars`).  The other
  way round, where a text is characters that are not blank with blanks before and after them, those
  characters are its trimmed form (`trimChars_append`).  So to say that the trimmed form of a text
  belongs to some language of texts without blanks is to say that the text is one of that language
  with blanks around it (`around_iff`), and nothing need be said of how trimming works.

  A raw value is kept without the blanks around it, and not at all if nothing is left.  So what is
  kept is tidy, and a tidy value is kept as it is (`bind_trimmed?`): to do it twice is to do it
  once.
-/
import Gatehouse.Text.CharClass
import Mathlib.Data.List.DropRight
import Mathlib.Data.List.TakeWhile

namespace Gatehouse.Text

/-! ## Texts without blanks -/

/-- That no character of a fixed text is blank can be computed. -/
theorem not_blank_of_any {l : List Char} (h : l.any isBlank = false) :
    ∀ c ∈ l, isBlank c = false :=
  fun c hc => Bool.eq_false_iff.2 (List.any_eq_false.1 h c hc)

theorem dropWhile_of_not_blank {l : List Char} (h : ∀ c ∈ l, isBlank c = false) :
    l.dropWhile isBlank = l := by
  cases l with
  | nil => rfl
  | cons c rest => simp [h c List.mem_cons_self]

/-- Where nothing is blank, nothing is cut off. -/
theorem trimChars_of_not_blank {l : List Char} (h : ∀ c ∈ l, isBlank c = false) :
    trimChars l = l := by
  have hreverse : ∀ c ∈ l.reverse, isBlank c = false := fun c hc => h c (List.mem_reverse.1 hc)
  rw [trimChars, dropWhile_of_not_blank h, dropWhile_of_not_blank hreverse, List.reverse_reverse]

theorem trim_of_not_blank {s : String} (h : ∀ c ∈ s.toList, isBlank c = false) : trim s = s := by
  rw [trim, trimChars_of_not_blank h, String.ofList_toList]

/-- Nothing is left of a text exactly when all of it is blank. -/
theorem trimChars_eq_nil_iff {l : List Char} : trimChars l = [] ↔ l.all isBlank = true := by
  unfold trimChars
  rw [List.reverse_eq_nil_iff, List.dropWhile_eq_nil_iff, List.all_eq_true]
  constructor
  · intro h c hc
    rw [← List.takeWhile_append_dropWhile (p := isBlank) (l := l), List.mem_append] at hc
    rcases hc with hc | hc
    · exact List.mem_takeWhile_imp hc
    · exact h c (List.mem_reverse.2 hc)
  · intro h c hc
    exact h c ((List.dropWhile_suffix isBlank).subset (List.mem_reverse.1 hc))

/-! ## The two ends of a text -/

theorem trimChars_eq_rdropWhile (l : List Char) :
    trimChars l = (l.dropWhile isBlank).rdropWhile isBlank := rfl

/-- A text is trimmed when nothing is cut off at either end. -/
theorem trimChars_eq_self {l : List Char} :
    trimChars l = l ↔ l.dropWhile isBlank = l ∧ l.rdropWhile isBlank = l := by
  constructor
  · intro h
    -- what either cut leaves is not longer, so where all is left neither cut anything off
    have hleft : (l.dropWhile isBlank).Sublist l := (List.dropWhile_suffix isBlank).sublist
    have hright : (trimChars l).length ≤ (l.dropWhile isBlank).length :=
      (List.rdropWhile_prefix isBlank (l.dropWhile isBlank)).length_le
    rw [h] at hright
    have hstart : l.dropWhile isBlank = l := hleft.eq_of_length_le hright
    rw [trimChars_eq_rdropWhile, hstart] at h
    exact ⟨hstart, h⟩
  · rintro ⟨hstart, hend⟩
    rw [trimChars_eq_rdropWhile, hstart, hend]

/-- **A text is trimmed** exactly when neither its first nor its last character is blank. -/
theorem trimChars_eq_self_iff {l : List Char} :
    trimChars l = l ↔
      l.head?.map isBlank ≠ some true ∧ l.getLast?.map isBlank ≠ some true := by
  rw [trimChars_eq_self, List.dropWhile_eq_self_iff, List.rdropWhile_eq_self_iff]
  refine and_congr ?_ ?_
  · cases l <;> simp
  · rcases List.eq_nil_or_concat l with rfl | ⟨rest, c, rfl⟩ <;> simp

/-- Trimming a trimmed text changes nothing. -/
@[simp] theorem trimChars_trimChars (l : List Char) : trimChars (trimChars l) = trimChars l := by
  -- the first character that is left is the first that is not cut off in front
  have hhead : ∀ c ∈ (trimChars l).head?, isBlank c = false := by
    intro c hc
    obtain ⟨rest, hrest⟩ := List.rdropWhile_prefix isBlank (l.dropWhile isBlank)
    have hfirst : (l.dropWhile isBlank).head? = some c := by
      rw [← hrest, ← trimChars_eq_rdropWhile, List.head?_append, Option.mem_def.1 hc]
      rfl
    simpa [hfirst] using List.head?_dropWhile_not isBlank l
  have hstart : (trimChars l).dropWhile isBlank = trimChars l := by
    rw [List.dropWhile_eq_self_iff]
    intro hl
    rw [Bool.not_eq_true]
    exact hhead _ (by rw [List.head?_eq_getElem?, List.getElem?_eq_getElem hl]; rfl)
  exact trimChars_eq_self.2 ⟨hstart, List.rdropWhile_idempotent isBlank (l.dropWhile isBlank)⟩

theorem trim_eq_self_iff {s : String} : trim s = s ↔ trimChars s.toList = s.toList := by
  rw [trim, ← String.toList_inj, String.toList_ofList]

/-- To trim twice is to trim once. -/
@[simp] theorem trim_trim (s : String) : trim (trim s) = trim s := by
  rw [trim_eq_self_iff, trim, String.toList_ofList, trimChars_trimChars]

/-! ## Texts that are neither blank nor padded -/

/-- The text is trimmed, and it is not blank. -/
structure Tidy (s : String) : Prop where
  /-- There is more than blanks. -/
  not_blank : blank s = false
  /-- There are none at the ends. -/
  trimmed : trim s = s

/-- A text is blank if nothing is left of it. -/
theorem blank_iff {s : String} : blank s = true ↔ trimChars s.toList = [] := by
  rw [blank, trimChars_eq_nil_iff]

/-- Trimming a text that is not blank makes it tidy. -/
theorem tidy_trim {s : String} (h : blank s = false) : Tidy (trim s) := by
  refine ⟨?_, trim_trim s⟩
  rw [Bool.eq_false_iff, ne_eq, blank_iff] at h ⊢
  rwa [trim, String.toList_ofList, trimChars_trimChars]

/-- A text without blanks is tidy unless it is empty. -/
theorem tidy_of_not_blank {s : String} (hne : s ≠ "") (h : ∀ c ∈ s.toList, isBlank c = false) :
    Tidy s := by
  refine ⟨?_, trim_of_not_blank h⟩
  rw [Bool.eq_false_iff, ne_eq, blank_iff, trimChars_of_not_blank h]
  exact fun hnil => hne (String.toList_eq_nil_iff.1 hnil)

/-! ## Blanks around a text -/

/-- `Around P l` — characters of which `P` holds, with blanks before and after them. -/
def Around (P : List Char → Prop) (l : List Char) : Prop :=
  ∃ before middle after, l = before ++ middle ++ after ∧ (∀ c ∈ before, isBlank c = true) ∧
    (∀ c ∈ after, isBlank c = true) ∧ P middle

theorem dropWhile_append_of_blank {before l : List Char} (h : ∀ c ∈ before, isBlank c = true) :
    (before ++ l).dropWhile isBlank = l.dropWhile isBlank := by
  induction before with
  | nil => rfl
  | cons c before ih =>
    have hc : isBlank c = true := h c List.mem_cons_self
    rw [List.cons_append, List.dropWhile_cons_of_pos hc]
    exact ih fun d hd => h d (List.mem_cons_of_mem c hd)

/-- **Blanks around characters that are not blank are cut off**, and nothing else. -/
theorem trimChars_append {before middle after : List Char}
    (hbefore : ∀ c ∈ before, isBlank c = true) (hafter : ∀ c ∈ after, isBlank c = true)
    (hmiddle : ∀ c ∈ middle, isBlank c = false) :
    trimChars (before ++ middle ++ after) = middle := by
  cases middle with
  | nil =>
    rw [trimChars_eq_nil_iff, List.append_nil, List.all_append, Bool.and_eq_true,
      List.all_eq_true, List.all_eq_true]
    exact ⟨hbefore, hafter⟩
  | cons c middle =>
    have hstart : (before ++ (c :: middle) ++ after).dropWhile isBlank = c :: middle ++ after := by
      rw [List.append_assoc, dropWhile_append_of_blank hbefore, List.cons_append,
        List.dropWhile_cons_of_neg (by simp [hmiddle c List.mem_cons_self])]
    have hend : (c :: middle ++ after).reverse.dropWhile isBlank = (c :: middle).reverse := by
      rw [List.reverse_append,
        dropWhile_append_of_blank fun d hd => hafter d (List.mem_reverse.1 hd)]
      exact dropWhile_of_not_blank fun d hd => hmiddle d (List.mem_reverse.1 hd)
    rw [trimChars, hstart, hend, List.reverse_reverse]

/-- **Every text is its trimmed form with blanks around it.** -/
theorem exists_append_trimChars (l : List Char) : Around (· = trimChars l) l := by
  refine ⟨l.takeWhile isBlank, trimChars l,
    ((l.dropWhile isBlank).reverse.takeWhile isBlank).reverse, ?_,
    fun c hc => List.mem_takeWhile_imp hc,
    fun c hc => List.mem_takeWhile_imp (List.mem_reverse.1 hc), rfl⟩
  rw [trimChars, List.append_assoc, ← List.reverse_append, List.takeWhile_append_dropWhile,
    List.reverse_reverse, List.takeWhile_append_dropWhile]

/-- **Trimming finds what stands between the blanks**, if no blank is in it. -/
theorem around_iff {P : List Char → Prop}
    (hP : ∀ middle, P middle → ∀ c ∈ middle, isBlank c = false) {l : List Char} : Around P l ↔ P (trimChars l) := by
  constructor
  · rintro ⟨before, middle, after, rfl, hbefore, hafter, hmiddle⟩
    rw [trimChars_append hbefore hafter (hP middle hmiddle)]
    exact hmiddle
  · intro h
    obtain ⟨before, middle, after, hl, hbefore, hafter, rfl⟩ := exists_append_trimChars l
    exact ⟨before, _, after, hl, hbefore, hafter, h⟩

end Gatehouse.Text

namespace Gatehouse

open Text

/-! ## Values that may be blank -/

/-- A value is dropped exactly if it is blank. -/
theorem trimmed?_eq (s : String) : trimmed? s = if blank s then none else some (trim s) := by
  have hempty : (trim s).isEmpty = blank s := by
    rw [Bool.eq_iff_iff, String.isEmpty_iff, blank_iff, trim, String.ofList_eq_empty_iff]
  simp only [trimmed?, hempty]

theorem trimmed?_eq_some_iff {s t : String} :
    trimmed? s = some t ↔ blank s = false ∧ trim s = t := by
  rw [trimmed?_eq]
  cases blank s <;> simp

/-- What is kept of a value is tidy. -/
theorem tidy_of_trimmed? {s t : String} (h : trimmed? s = some t) : Tidy t := by
  obtain ⟨hblank, rfl⟩ := trimmed?_eq_some_iff.1 h
  exact tidy_trim hblank

/-- A tidy value is kept as it is. -/
theorem bind_trimmed? {value : Option String} (h : ∀ t, value = some t → Tidy t) :
    value.bind trimmed? = value := by
  cases value with
  | none => rfl
  | some t =>
    rw [Option.bind_some]
    exact trimmed?_eq_some_iff.2 ⟨(h t rfl).not_blank, (h t rfl).trimmed⟩

/-- A value of which nothing is kept is missing or blank. -/
theorem blank_of_bind_trimmed? {value : Option String} (h : value.bind trimmed? = none) {t : String}
    (ht : value = some t) : blank t = true := by
  rw [ht, Option.bind_some, trimmed?_eq] at h
  by_contra hblank
  rw [if_neg hblank] at h
  cases h

end Gatehouse
