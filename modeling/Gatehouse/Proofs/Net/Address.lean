/-
  Texts of network addresses.

  An address is printed in digits, points and colons, and none of these is blank.  Nor is the text
  empty: of eight groups some are printed, or the gap where they are left out is.  So the text of an
  address needs no trimming, and it is never taken for a missing one (`tidy_toText`).
-/
import Gatehouse.Net.Address
import Gatehouse.Proofs.Text.Blank

namespace Gatehouse.Address

/-! ## The characters of an address -/

/-- No character of the text is blank. -/
def Solid (s : String) : Prop := ∀ c ∈ s.toList, Text.isBlank c = false

/-- That a fixed text is solid can be computed. -/
theorem solid_of_any {s : String} (h : s.toList.any Text.isBlank = false) : Solid s :=
  Text.not_blank_of_any h

/-- Two solid texts one after the other are solid. -/
theorem solid_append {s t : String} (hs : Solid s) (ht : Solid t) : Solid (s ++ t) := by
  intro c hc
  rw [String.toList_append, List.mem_append] at hc
  exact hc.elim (hs c) (ht c)

/-- No digit is blank, up to the base 16. -/
theorem digitChar_not_blank {d : Nat} (h : d < 16) : Text.isBlank d.digitChar = false := by
  have hall : ∀ d : Fin 16, Text.isBlank d.val.digitChar = false := by decide
  exact hall ⟨d, h⟩

/-- So no number has a blank among its digits. -/
theorem toDigits_not_blank {b : Nat} (hb : 1 < b) (hle : b ≤ 16) (n : Nat) :
    ∀ c ∈ Nat.toDigits b n, Text.isBlank c = false := by
  induction n using Nat.strongRecOn with
  | ind n ih =>
    by_cases hn : n < b
    · rw [Nat.toDigits_of_lt_base hn]
      intro c hc
      rw [List.mem_singleton.1 hc]
      exact digitChar_not_blank (by omega)
    · rw [Nat.toDigits_of_base_le hb (by omega)]
      intro c hc
      rcases List.mem_append.1 hc with hc | hc
      · exact ih (n / b) (Nat.div_lt_self (by omega) hb) c hc
      · rw [List.mem_singleton.1 hc]
        exact digitChar_not_blank (Nat.lt_of_lt_of_le (Nat.mod_lt n (by omega)) hle)

theorem solid_repr (n : Nat) : Solid n.repr := by
  rw [Solid, Nat.repr_eq_ofList_toDigits, String.toList_ofList]
  exact toDigits_not_blank (by decide) (by decide) n

/-- Four numbers with dots between them are solid. -/
theorem solid_dotted (a b c d : Nat) : Solid (dotted a b c d) := by
  have hpoint : Solid "." := solid_of_any (by decide)
  have append {s : String} {n : Nat} (hs : Solid s) : Solid (s ++ "." ++ n.repr) :=
    solid_append (solid_append hs hpoint) (solid_repr n)
  exact append (append (append (solid_repr a)))

/-- Groups with colons between them are solid, however many there are. -/
theorem solid_colons (groups : List Nat) : Solid (colons groups) := by
  have hdigits (g : Nat) : ∀ c ∈ (String.ofList (Nat.toDigits 16 g)).toList,
      Text.isBlank c = false := by
    rw [String.toList_ofList]
    exact toDigits_not_blank (by decide) (by decide) g
  unfold Solid colons
  rw [String.toList_intercalate, List.map_map]
  induction groups with
  | nil => simp
  | cons g rest ih =>
    cases rest with
    | nil =>
      rw [List.map_cons, List.map_nil, List.intercalate_singleton]
      exact hdigits g
    | cons g' rest =>
      rw [List.map_cons, List.map_cons, List.intercalate_cons_cons]
      intro c hc
      rcases List.mem_append.1 hc with hc | hc
      · rcases List.mem_append.1 hc with hc | hc
        · exact hdigits g c hc
        · rw [List.mem_singleton.1 hc]
          decide
      · exact ih c hc

/-- **An address is printed without blanks.** -/
theorem solid_toText (a : Address) : Solid a.toText := by
  unfold toText
  split
  · exact solid_dotted _ _ _ _
  · simp only []
    split
    · exact solid_append (solid_of_any (by decide)) (solid_dotted _ _ _ _)
    · split
      · exact solid_colons _
      · exact solid_append (solid_append (solid_colons _) (solid_of_any (by decide)))
          (solid_colons _)

/-! ## Texts that are not empty -/

theorem dotted_ne_empty (a b c d : Nat) : dotted a b c d ≠ "" := by
  simp [dotted]

theorem colons_ne_empty {groups : List Nat} (h : groups ≠ []) : colons groups ≠ "" := by
  obtain ⟨g, rest, rfl⟩ := List.exists_cons_of_ne_nil h
  intro hempty
  have htext : (colons (g :: rest)).toList = [] := by rw [hempty]; rfl
  rw [colons, String.toList_intercalate, List.map_map, List.map_cons] at htext
  cases rest with
  | nil => simp at htext
  | cons g' rest => simp [List.intercalate_cons_cons] at htext

/-- An address is never written as nothing, so that it stands for a client. -/
theorem toText_ne_empty (a : Address) : a.toText ≠ "" := by
  unfold toText
  split
  · exact dotted_ne_empty _ _ _ _
  · rename_i groups
    have hgroups : groups.toList.map UInt16.toNat ≠ [] := by
      intro hnil
      have hlength := congrArg List.length hnil
      simp at hlength
    simp only []
    split
    · simp
    · split
      · exact colons_ne_empty hgroups
      · simp

/-- **The text of an address is tidy.** -/
theorem tidy_toText (a : Address) : Text.Tidy a.toText :=
  Text.tidy_of_not_blank a.toText_ne_empty a.solid_toText

end Gatehouse.Address
