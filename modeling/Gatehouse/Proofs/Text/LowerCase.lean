/-
  What lower case does to blanks.

  The case tables and the list of blanks have nothing to do with each other: no blank has a
  lower-case form of its own, and no character becomes a blank.  So a character is blank exactly
  when what becomes of it in lower case is (`isBlank_of_mem_lowerChar`), and as every character
  becomes at least one, a text keeps its two ends: cutting blanks off and going to lower case do not
  get in each other's way (`trim_lowerCase_eq_self_iff`).

  That decides which addresses a lookup can reach.  A lookup compares the lower-case forms of an
  address as it was registered and of an address as it was given, trimmed; some text finds a
  registered address exactly when that address is trimmed (`exists_lowerCase_trim_iff`).
-/
import Gatehouse.Proofs.Text.Blank
import Gatehouse.Text.LowerCase

namespace Gatehouse.Text

/-! ## One character -/

/-- No blank has a lower-case form of its own. -/
theorem covers_eq_false_of_blank :
    ∀ b ∈ blankRanges, ∀ n ∈ List.range' b.1 (b.2 - b.1 + 1), ∀ r ∈ caseRuns,
      r.covers n = false := by
  decide +kernel

/-- No lower-case form of another character is a blank. -/
theorem shifted_not_blank :
    ∀ r ∈ caseRuns, ∀ b ∈ blankRanges,
      (r.last : Int) + r.shift < b.1 ∨ (b.2 : Int) < r.first + r.shift := by
  decide +kernel

theorem toNat_ofNat_or (n : Nat) : (Char.ofNat n).toNat = n ∨ (Char.ofNat n).toNat = 0 := by
  by_cases hvalid : n.isValidChar
  · left
    rw [Char.ofNat, dif_pos hvalid]
    rfl
  · right
    rw [Char.ofNat, dif_neg hvalid]
    rfl

theorem lowerChar_of_blank {c : Char} (h : isBlank c = true) : lowerChar c = [c] := by
  obtain ⟨b, hb, hfirst, hlast⟩ := inRanges_iff.1 h
  have hn : c.toNat ∈ List.range' b.1 (b.2 - b.1 + 1) := by
    rw [List.mem_range'_1]
    omega
  have hnone : caseRuns.find? (·.covers c.toNat) = none :=
    List.find?_eq_none.2 fun r hr => by simp [covers_eq_false_of_blank b hb _ hn r hr]
  have hdotted : c ≠ 'İ' := by
    rintro rfl
    exact absurd h (by decide)
  rw [lowerChar, if_neg hdotted, hnone]

/-- **A character stays blank or not blank** in lower case. -/
theorem isBlank_of_mem_lowerChar {c d : Char} (h : d ∈ lowerChar c) : isBlank d = isBlank c := by
  cases hc : isBlank c with
  | true =>
    rw [lowerChar_of_blank hc, List.mem_singleton] at h
    rw [h, hc]
  | false =>
    unfold lowerChar at h
    split at h
    · rw [List.mem_cons, List.mem_singleton] at h
      rcases h with rfl | rfl
      · decide
      · decide
    · split at h
      · next r hr =>
        rw [List.mem_singleton] at h
        have hcovers := List.find?_some hr
        simp only [CaseRun.covers, Bool.and_eq_true, decide_eq_true_eq] at hcovers
        rw [h, isBlank, Bool.eq_false_iff, ne_eq, inRanges_iff]
        rintro ⟨b, hb, hfirst, hlast⟩
        have hzero : ∀ b ∈ blankRanges, 0 < b.1 := by decide
        have hpos := hzero b hb
        have hrun := shifted_not_blank r (List.mem_of_find?_eq_some hr) b hb
        rcases toNat_ofNat_or ((c.toNat : Int) + r.shift).toNat with hto | hto <;> omega
      · rw [List.mem_singleton] at h
        rw [h, hc]

theorem lowerChar_ne_nil (c : Char) : lowerChar c ≠ [] := by
  unfold lowerChar
  split
  · simp
  · split <;> simp

/-! ## A text -/

/-- What becomes of one character of a text, where `before` and `rest` stand around it. -/
def lowerAt (before : List Char) (c : Char) (rest : List Char) : List Char :=
  if c = 'Σ' then if meetsCased before && !meetsCased rest then ['ς'] else ['σ'] else lowerChar c

theorem lowerChars_cons (before : List Char) (c : Char) (rest : List Char) :
    lowerChars before (c :: rest) = lowerAt before c rest ++ lowerChars (c :: before) rest := rfl

theorem isBlank_of_mem_lowerAt {before : List Char} {c d : Char} {rest : List Char}
    (h : d ∈ lowerAt before c rest) : isBlank d = isBlank c := by
  unfold lowerAt at h
  split at h
  · next hc =>
    subst hc
    split at h
    · rw [List.mem_singleton.1 h]
      decide
    · rw [List.mem_singleton.1 h]
      decide
  · exact isBlank_of_mem_lowerChar h

theorem lowerAt_ne_nil (before : List Char) (c : Char) (rest : List Char) :
    lowerAt before c rest ≠ [] := by
  unfold lowerAt
  split
  · split <;> simp
  · exact lowerChar_ne_nil c

/-- A text begins with a blank in lower case exactly when it does so by itself. -/
theorem head?_lowerChars (before l : List Char) :
    (lowerChars before l).head?.map isBlank = l.head?.map isBlank := by
  cases l with
  | nil => rfl
  | cons c rest =>
    obtain ⟨d, tail, hd⟩ := List.exists_cons_of_ne_nil (lowerAt_ne_nil before c rest)
    have hblank : isBlank d = isBlank c := isBlank_of_mem_lowerAt (hd ▸ List.mem_cons_self)
    rw [lowerChars_cons, hd]
    simp [hblank]

/-- It ends with one exactly when it does so by itself. -/
theorem getLast?_lowerChars (before l : List Char) :
    (lowerChars before l).getLast?.map isBlank = l.getLast?.map isBlank := by
  induction l generalizing before with
  | nil => rfl
  | cons c rest ih =>
    rw [lowerChars_cons, List.getLast?_append]
    cases rest with
    | nil =>
      obtain ⟨d, hd⟩ := Option.isSome_iff_exists.1
        (List.getLast?_isSome.2 (lowerAt_ne_nil before c []))
      have hblank : isBlank d = isBlank c :=
        isBlank_of_mem_lowerAt (List.mem_of_getLast? hd)
      simp [lowerChars, hd, hblank]
    | cons c' rest =>
      have hlast := ih (c :: before)
      rw [List.getLast?_cons_cons, ← hlast]
      cases h : (lowerChars (c :: before) (c' :: rest)).getLast? with
      | none => simp [h, List.getLast?_cons] at hlast
      | some d => rfl

/-- **A text is trimmed in lower case** exactly when it is trimmed by itself. -/
theorem trim_lowerCase_eq_self_iff {s : String} :
    trim (lowerCase s) = lowerCase s ↔ trim s = s := by
  rw [trim_eq_self_iff, trim_eq_self_iff, lowerCase, String.toList_ofList, trimChars_eq_self_iff,
    trimChars_eq_self_iff, head?_lowerChars, getLast?_lowerChars]

/-- **Some text, once it is trimmed, has the lower-case form of `s`** exactly when `s` is trimmed,
and then the texts that have it are those that agree with `s` up to blanks and case. -/
theorem exists_lowerCase_trim_iff {s : String} :
    (∃ t, lowerCase s = lowerCase (trim t)) ↔ trim s = s := by
  constructor
  · rintro ⟨t, ht⟩
    rw [← trim_lowerCase_eq_self_iff, ht, trim_lowerCase_eq_self_iff, trim_trim]
  · exact fun h => ⟨s, by rw [h]⟩

end Gatehouse.Text
