/-
  Reading an identifier gives back what was printed.

  The printed form is the third of the four that are read: groups of digits joined by hyphens.  It
  has thirty-six characters, so it is not taken for plain digits, and each of them is a digit or a
  hyphen, so it is not taken for braces or for a name either and has no blanks to cut off.
-/
import Gatehouse.Proofs.Text.Blank
import Gatehouse.Uuid
import Mathlib.Algebra.GroupWithZero.Nat

namespace Gatehouse

namespace Uuid

/-! ## Groups -/

/-- Groups that are joined by hyphens are found again. -/
theorem splitGroups_joinGroups {lengths : List Nat} (hne : lengths ≠ []) {l : List Char}
    (hl : l.length = lengths.sum) : splitGroups lengths (joinGroups lengths l) = some l := by
  induction lengths generalizing l with
  | nil => exact absurd rfl hne
  | cons n lengths ih =>
    cases lengths with
    | nil =>
      have hn : l.length = n := by simpa using hl
      rw [joinGroups, splitGroups, if_pos hn]
    | cons n' lengths =>
      have hle : n ≤ l.length := by simp [hl]
      have hrest : (l.drop n).length = (n' :: lengths).sum := by
        rw [List.length_drop, hl, List.sum_cons, Nat.add_sub_cancel_left]
      have htake : (l.take n).length = n := List.length_take_of_le hle
      simp only [joinGroups, splitGroups, List.drop_left' htake, List.take_left' htake,
        ih (List.cons_ne_nil n' lengths) hrest, Option.map_some, List.take_append_drop]

/-- Joining adds nothing but hyphens. -/
theorem mem_joinGroups {lengths : List Nat} {l : List Char} {c : Char}
    (h : c ∈ joinGroups lengths l) : c ∈ l ∨ c = '-' := by
  induction lengths generalizing l with
  | nil => exact Or.inl h
  | cons n lengths ih =>
    cases lengths with
    | nil => exact Or.inl h
    | cons n' lengths =>
      simp only [joinGroups, List.mem_append, List.mem_cons] at h
      rcases h with h | rfl | h
      · exact Or.inl (List.mem_of_mem_take h)
      · exact Or.inr rfl
      · exact (ih h).imp_left List.mem_of_mem_drop

/-- There is a hyphen between any two groups. -/
theorem length_joinGroups {lengths : List Nat} (hne : lengths ≠ []) {l : List Char}
    (hl : l.length = lengths.sum) :
    (joinGroups lengths l).length + 1 = lengths.sum + lengths.length := by
  induction lengths generalizing l with
  | nil => exact absurd rfl hne
  | cons n lengths ih =>
    cases lengths with
    | nil => simp [joinGroups, hl]
    | cons n' lengths =>
      have hle : n ≤ l.length := by simp [hl]
      have hrest : (l.drop n).length = (n' :: lengths).sum := by
        rw [List.length_drop, hl, List.sum_cons, Nat.add_sub_cancel_left]
      have := ih (List.cons_ne_nil n' lengths) hrest
      simp only [joinGroups, List.length_append, List.length_cons, List.length_take_of_le hle,
        List.sum_cons] at this ⊢
      omega

/-! ## The printed form -/

/-- The digits of an identifier as characters. -/
def hexDigits (id : Uuid) : List Char := id.digits.toList.map fun d => Hex.digit d.val

theorem length_hexDigits (id : Uuid) : id.hexDigits.length = 32 := by
  simp [hexDigits]

theorem mapM_value?_digit (l : List (Fin 16)) :
    (l.map fun d => Hex.digit d.val).mapM Hex.value? = some l := by
  induction l with
  | nil => rfl
  | cons d l ih => simp [List.mapM_cons, Hex.value?_digit, ih]

/-- The digits of an identifier are read as the identifier again. -/
theorem ofDigits?_hexDigits (id : Uuid) : ofDigits? id.hexDigits = some id := by
  obtain ⟨digits⟩ := id
  rw [ofDigits?, hexDigits, mapM_value?_digit]
  have hdigits : digits.toList.toArray = digits.toArray := Array.toArray_toList
  simp [hdigits]

/-- A printed character is a digit in lower case or a hyphen. -/
theorem mem_toChars {id : Uuid} {c : Char} (h : c ∈ id.toChars) :
    (∃ d : Fin 16, c = Hex.digit d.val) ∨ c = '-' := by
  refine (mem_joinGroups h).imp_left fun h => ?_
  obtain ⟨d, -, rfl⟩ := List.mem_map.1 h
  exact ⟨d, rfl⟩

/-- So it is neither blank, nor a brace, nor the beginning of a name. -/
theorem plain_of_mem_toChars {id : Uuid} {c : Char} (h : c ∈ id.toChars) :
    Text.isBlank c = false ∧ c ≠ '\x7b' ∧ c.toLower ≠ 'u' := by
  have digits : ∀ d : Fin 16, Text.isBlank (Hex.digit d.val) = false ∧
      Hex.digit d.val ≠ '\x7b' ∧ (Hex.digit d.val).toLower ≠ 'u' := by decide
  rcases mem_toChars h with ⟨d, rfl⟩ | rfl
  · exact digits d
  · decide

/-- Thirty-two digits and four hyphens. -/
theorem length_toChars (id : Uuid) : id.toChars.length = 36 := by
  have hlength : id.toChars.length + 1 = groupLengths.sum + groupLengths.length :=
    length_joinGroups (by decide) (length_hexDigits id)
  have hsum : groupLengths.sum + groupLengths.length = 37 := rfl
  rw [hsum] at hlength
  exact Nat.succ.inj hlength

/-- **Reading gives back what was printed**. -/
theorem ofChars?_toChars (id : Uuid) : ofChars? id.toChars = some id := by
  have hgroups : ofGroups? id.toChars = some id := by
    have hsplit : splitGroups groupLengths id.toChars = some id.hexDigits :=
      splitGroups_joinGroups (by decide) (length_hexDigits id)
    rw [ofGroups?, hsplit, Option.bind_some, ofDigits?_hexDigits]
  have hlength := length_toChars id
  have hname : (id.toChars.take 9).map Char.toLower ≠ "urn:uuid:".toList := by
    intro h
    have hu : 'u' ∈ (id.toChars.take 9).map Char.toLower := h ▸ by decide
    obtain ⟨c, hc, hcu⟩ := List.mem_map.1 hu
    exact (plain_of_mem_toChars (List.mem_of_mem_take hc)).2.2 hcu
  unfold ofChars?
  split
  · rename_i rest hchars
    exact absurd rfl (plain_of_mem_toChars (c := '\x7b') (hchars ▸ List.mem_cons_self)).2.1
  · rw [if_neg (by omega), if_neg hname, hgroups]

/-- The user whose identifier was printed is found again. -/
@[simp] theorem ofUserText?_toText (id : Uuid) : ofUserText? id.toText = some id := by
  have hblank : ∀ c ∈ id.toText.toList, Text.isBlank c = false := fun c hc =>
    (plain_of_mem_toChars (by simpa [toText] using hc)).1
  rw [ofUserText?, Text.trim_of_not_blank hblank, ofText?, toText, String.toList_ofList,
    ofChars?_toChars]

end Uuid

end Gatehouse
