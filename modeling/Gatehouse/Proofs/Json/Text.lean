/-
  A printed string is read as it was, and passed over as a whole.

  Printing escapes character by character, so both facts are about one character in front of
  anything else: what the reader does with the escape of `c` is to put the bytes of `c` in front of
  what it makes of the rest (`stringBytes_escapeChar`).  A character that is not escaped is no
  quote, no backslash and no control character, and neither is any byte of it.
-/
import Gatehouse.Json.Reader
import Gatehouse.Json.Value
import Gatehouse.Proofs.Encoding

namespace Gatehouse.Json

open Text

namespace Reader

/-! ## Bytes that stand for themselves -/

/-- Tells whether a byte stands for itself in a string. -/
def Plain (b : UInt8) : Prop := b ≠ 0x22 ∧ b ≠ 0x5c ∧ ¬ b < 0x20

theorem prepend_nil (r : Except Fault (List UInt8) × List UInt8) : prepend [] r = r := by
  obtain ⟨r, rest⟩ := r
  cases r <;> rfl

theorem prepend_append (a b : List UInt8) (r : Except Fault (List UInt8) × List UInt8) :
    prepend (a ++ b) r = prepend a (prepend b r) := by
  obtain ⟨r, rest⟩ := r
  cases r <;> simp [prepend, Except.map]

/-- Bytes that need no escape are read as they are. -/
theorem stringBytes_plain {bytes : List UInt8} (h : ∀ b ∈ bytes, Plain b) (rest : List UInt8) :
    stringBytes (bytes ++ rest) = prepend bytes (stringBytes rest) := by
  induction bytes with
  | nil => rw [prepend_nil, List.nil_append]
  | cons b bytes ih =>
    obtain ⟨h₁, h₂, h₃⟩ := h b List.mem_cons_self
    rw [List.cons_append, stringBytes.eq_def]
    simp only [h₁, h₂, h₃, if_false]
    rw [ih fun b' hb' => h b' (List.mem_cons_of_mem b hb'), ← prepend_append,
      List.singleton_append]

/-- They are passed over in the same way. -/
theorem skipString_plain {bytes : List UInt8} (h : ∀ b ∈ bytes, Plain b) (rest : List UInt8) :
    skipString (bytes ++ rest) = skipString rest := by
  induction bytes with
  | nil => rfl
  | cons b bytes ih =>
    obtain ⟨h₁, h₂, h₃⟩ := h b List.mem_cons_self
    rw [List.cons_append, skipString.eq_def]
    simp only [h₁, h₂, h₃, if_false]
    exact ih fun b' hb' => h b' (List.mem_cons_of_mem b hb')

/-- A character that is neither escaped nor a control character stands for itself. -/
theorem plain_of_mem_utf8EncodeChar {c : Char} (hq : c ≠ '"') (hb : c ≠ '\\') (hc : ¬ c.toNat < 32)
    {b : UInt8} (h : b ∈ String.utf8EncodeChar c) : Plain b := by
  by_cases hlt : c.toNat < 128
  · rw [utf8EncodeChar_of_lt hlt, List.mem_singleton] at h
    subst h
    have hb₁ : (UInt8.ofNat c.toNat).toNat = c.toNat := by rw [UInt8.toNat_ofNat']; omega
    refine ⟨fun h => hq ?_, fun h => hb ?_, fun h => hc ?_⟩
    · exact Char.toNat_inj.1 (hb₁.symm.trans (congrArg UInt8.toNat h))
    · exact Char.toNat_inj.1 (hb₁.symm.trans (congrArg UInt8.toNat h))
    · exact hb₁ ▸ UInt8.lt_iff_toNat_lt.1 h
  · have hbig := le_of_mem_utf8EncodeChar (by omega) h
    refine ⟨fun h => ?_, fun h => ?_, fun h => ?_⟩
    · simp [h] at hbig
    · simp [h] at hbig
    · have : b.toNat < 32 := UInt8.lt_iff_toNat_lt.1 h
      omega

/-! ## Escapes -/

/-- A digit of an escape has the value that it was written for. -/
theorem hexValue?_digit (n : Fin 16) :
    hexValue? (UInt8.ofNat (Hex.digit n).toNat) = some n.val := by
  revert n
  decide

/-- The two digits of a byte after two zeros are its value. -/
theorem hexUnit?_digits {n : Nat} (h : n < 256) :
    hexUnit? 0x30 0x30 (UInt8.ofNat (Hex.digit (n / 16)).toNat)
      (UInt8.ofNat (Hex.digit (n % 16)).toNat) = some n := by
  have hzero : hexValue? 0x30 = some 0 := by decide
  have h₁ := hexValue?_digit ⟨n / 16, by omega⟩
  have h₂ := hexValue?_digit ⟨n % 16, by omega⟩
  simp only at h₁ h₂
  simp only [hexUnit?, hzero, h₁, h₂]
  exact congrArg some (show ((0 * 16 + 0) * 16 + n / 16) * 16 + n % 16 = n by omega)

/-- The bytes of a control character that is escaped by its number. -/
theorem utf8Chars_unicodeEscape {n : Nat} (h : n < 32) :
    utf8Chars ['\\', 'u', '0', '0', Hex.digit (n / 16), Hex.digit (n % 16)] =
      [0x5c, 0x75, 0x30, 0x30, UInt8.ofNat (Hex.digit (n / 16)).toNat,
        UInt8.ofNat (Hex.digit (n % 16)).toNat] := by
  have hall : ∀ n : Fin 32, utf8Chars ['\\', 'u', '0', '0', Hex.digit (n.val / 16),
      Hex.digit (n.val % 16)] = [0x5c, 0x75, 0x30, 0x30, UInt8.ofNat (Hex.digit (n.val / 16)).toNat,
        UInt8.ofNat (Hex.digit (n.val % 16)).toNat] := by decide
  exact hall ⟨n, h⟩

/-- An escape with the code of a control character is read as that character. -/
theorem stringBytes_unicodeEscape {n : Nat} (h : n < 32) (rest : List UInt8) :
    stringBytes (utf8Chars ['\\', 'u', '0', '0', Hex.digit (n / 16), Hex.digit (n % 16)] ++ rest) =
      prepend (String.utf8EncodeChar (Char.ofNat n)) (stringBytes rest) := by
  have hunit := hexUnit?_digits (n := n) (by omega)
  have htrail : isTrail n = false := by simp [isTrail]; omega
  have hlead : isLead n = false := by simp [isLead]; omega
  rw [utf8Chars_unicodeEscape h]
  simp only [List.cons_append, List.nil_append]
  rw [stringBytes.eq_def]
  simp [hunit, htrail, hlead]

theorem skipString_unicodeEscape {n : Nat} (h : n < 32) (rest : List UInt8) :
    skipString (utf8Chars ['\\', 'u', '0', '0', Hex.digit (n / 16), Hex.digit (n % 16)] ++ rest) =
      skipString rest := by
  have hunit := hexUnit?_digits (n := n) (by omega)
  rw [utf8Chars_unicodeEscape h]
  simp only [List.cons_append, List.nil_append]
  rw [skipString.eq_def]
  simp [hunit]

/-- A character that is escaped by a letter. -/
theorem stringBytes_shortEscape {e b : UInt8} (hu : e ≠ 0x75) (h : shortEscape? e = some b)
    (rest : List UInt8) : stringBytes (0x5c :: e :: rest) = prepend [b] (stringBytes rest) := by
  rw [stringBytes.eq_def]
  simp [hu, h]

theorem skipString_shortEscape {e b : UInt8} (hu : e ≠ 0x75) (h : shortEscape? e = some b)
    (rest : List UInt8) : skipString (0x5c :: e :: rest) = skipString rest := by
  rw [skipString.eq_def]
  simp [hu, h]

/-- Every printed character is a short escape, an escape by number, or stands for itself. -/
theorem escapeChar_cases (c : Char) :
    (∃ e b, e ≠ 0x75 ∧ shortEscape? e = some b ∧ utf8Chars (escapeChar c) = [0x5c, e] ∧
      String.utf8EncodeChar c = [b]) ∨
    (c.toNat < 32 ∧
      escapeChar c = ['\\', 'u', '0', '0', Hex.digit (c.toNat / 16), Hex.digit (c.toNat % 16)]) ∨
    (escapeChar c = [c] ∧ ∀ b ∈ String.utf8EncodeChar c, Plain b) := by
  unfold escapeChar
  -- seven characters have an escape of their own: the byte after the backslash, and what it means
  split
  · subst_vars; exact Or.inl ⟨0x22, 0x22, by decide, by decide, by decide, by decide⟩
  rename_i hq
  split
  · subst_vars; exact Or.inl ⟨0x5c, 0x5c, by decide, by decide, by decide, by decide⟩
  rename_i hb
  split
  · subst_vars; exact Or.inl ⟨0x6e, 0x0a, by decide, by decide, by decide, by decide⟩
  split
  · subst_vars; exact Or.inl ⟨0x72, 0x0d, by decide, by decide, by decide, by decide⟩
  split
  · subst_vars; exact Or.inl ⟨0x74, 0x09, by decide, by decide, by decide, by decide⟩
  split
  · subst_vars; exact Or.inl ⟨0x62, 0x08, by decide, by decide, by decide, by decide⟩
  split
  · subst_vars; exact Or.inl ⟨0x66, 0x0c, by decide, by decide, by decide, by decide⟩
  split
  · rename_i hlt
    exact Or.inr (Or.inl ⟨hlt, rfl⟩)
  · rename_i hlt
    exact Or.inr (Or.inr ⟨rfl, fun b => plain_of_mem_utf8EncodeChar hq hb hlt⟩)

/-! ## Strings -/

/-- **One printed character is read as the bytes of that character.** -/
theorem stringBytes_escapeChar (c : Char) (rest : List UInt8) :
    stringBytes (utf8Chars (escapeChar c) ++ rest) =
      prepend (String.utf8EncodeChar c) (stringBytes rest) := by
  rcases escapeChar_cases c with ⟨e, b, hu, hs, he, hc⟩ | ⟨hlt, he⟩ | ⟨he, hplain⟩
  · rw [he, hc]
    exact stringBytes_shortEscape hu hs rest
  · rw [he, stringBytes_unicodeEscape hlt, Char.ofNat_toNat]
  · rw [he, utf8Chars_cons, utf8Chars_nil, List.append_nil]
    exact stringBytes_plain hplain rest

theorem skipString_escapeChar (c : Char) (rest : List UInt8) :
    skipString (utf8Chars (escapeChar c) ++ rest) = skipString rest := by
  rcases escapeChar_cases c with ⟨e, b, hu, hs, he, hc⟩ | ⟨hlt, he⟩ | ⟨he, hplain⟩
  · rw [he]
    exact skipString_shortEscape hu hs rest
  · rw [he]
    exact skipString_unicodeEscape hlt rest
  · rw [he, utf8Chars_cons, utf8Chars_nil, List.append_nil]
    exact skipString_plain hplain rest

/-- **A text that was printed is read again**, up to its closing mark. -/
theorem stringBytes_printed (l : List Char) (rest : List UInt8) :
    stringBytes (utf8Chars (l.flatMap escapeChar) ++ 0x22 :: rest) = (.ok (utf8Chars l), rest) := by
  induction l with
  | nil =>
    rw [List.flatMap_nil, utf8Chars_nil, List.nil_append, stringBytes.eq_def]
    rfl
  | cons c l ih =>
    rw [List.flatMap_cons, utf8Chars_append, List.append_assoc, stringBytes_escapeChar, ih]
    rfl

/-- It can be passed over as well. -/
theorem skipString_printed (l : List Char) (rest : List UInt8) :
    skipString (utf8Chars (l.flatMap escapeChar) ++ 0x22 :: rest) = (.ok (), rest) := by
  induction l with
  | nil =>
    rw [List.flatMap_nil, utf8Chars_nil, List.nil_append, skipString.eq_def]
    rfl
  | cons c l ih =>
    rw [List.flatMap_cons, utf8Chars_append, List.append_assoc, skipString_escapeChar, ih]

/-- What follows the opening quote of a printed string is read as the string. -/
theorem stringBody_printed (s : String) (rest : List UInt8) :
    stringBody (utf8Chars (s.toList.flatMap escapeChar) ++ 0x22 :: rest) = (.ok s, rest) := by
  have h := stringBytes_printed s.toList rest
  rw [← utf8_eq] at h
  simp only [stringBody, bind, h, ofUtf8?_utf8]
  rfl

end Reader

end Gatehouse.Json
