/-
  The parts of a text between separators.

  A text without the separator has one part, itself; with every separator comes one more part, which
  may be empty.  No part holds the separator, and the parts with separators between them are the
  text again.
-/

namespace Gatehouse.Text

/-- The parts of a list between the places where the separator stands. -/
def splitChars (separator : Char) : List Char → List (List Char)
  | [] => [[]]
  | c :: rest =>
    if c = separator then [] :: splitChars separator rest
    else
      match splitChars separator rest with
      | [] => [[c]]
      | part :: parts => (c :: part) :: parts

/-- The parts of a text between the places where the separator stands. -/
def split (separator : Char) (s : String) : List String :=
  (splitChars separator s.toList).map String.ofList

/-- There is always a part. -/
theorem splitChars_ne_nil (separator : Char) (l : List Char) : splitChars separator l ≠ [] := by
  cases l with
  | nil => simp [splitChars]
  | cons c rest => grind [splitChars]

/-- The first part is what stands before the first separator. -/
theorem head?_splitChars (separator : Char) (l : List Char) :
    (splitChars separator l).head? = some (l.takeWhile (· ≠ separator)) := by
  induction l with
  | nil => rfl
  | cons c rest ih =>
    by_cases h : c = separator
    · simp [splitChars, h]
    · obtain ⟨part, parts, hp⟩ := List.exists_cons_of_ne_nil (splitChars_ne_nil separator rest)
      rw [hp] at ih
      simp [splitChars, h, hp, (by simpa using ih : part = _)]

/-- The parts with separators between them are the text again. -/
theorem intercalate_splitChars (separator : Char) (l : List Char) :
    [separator].intercalate (splitChars separator l) = l := by
  induction l with
  | nil => rfl
  | cons c rest ih =>
    obtain ⟨part, parts, hp⟩ := List.exists_cons_of_ne_nil (splitChars_ne_nil separator rest)
    rw [hp] at ih
    by_cases h : c = separator
    · simpa [splitChars, h, hp, List.intercalate, List.intersperse] using ih
    · cases parts with
      | nil => simpa [splitChars, h, hp, List.intercalate, List.intersperse] using ih
      | cons p ps => simpa [splitChars, h, hp, List.intercalate, List.intersperse] using ih

/-- No part holds the separator. -/
theorem separator_notMem_of_mem_splitChars {separator : Char} {l part : List Char}
    (h : part ∈ splitChars separator l) : separator ∉ part := by
  induction l generalizing part with
  | nil => simp_all [splitChars]
  | cons c rest ih => grind [splitChars]

end Gatehouse.Text
