/-
  Which texts are read as a 64-bit integer.

  A numeral is digits, at least one, and perhaps a sign before them (`Numeral`).  Its value is that
  of the digits in base ten, the last one counting for itself.  The reader goes from left to right
  and gives up when what it has read so far is out of range.  It gives up on no numeral whose value
  is in range, since the value of the digits grows with every digit (`readDigits_eq_ok_iff`): the
  induction is over the digits that are left, and what was read before them is a number `n`.
-/
import Gatehouse.Proofs.Text.Blank
import Gatehouse.Text.Numeral
import Mathlib.Data.Nat.Digits.Defs

namespace Gatehouse.Text

/-! ## Digits -/

/-- The value of a digit. -/
def digitValue (c : Char) : Nat := c.toNat - 48

/-- The number that digits write. -/
def decimal (l : List Char) : Nat := Nat.ofDigits 10 (l.reverse.map digitValue)

theorem digit?_eq_ite (c : Char) : digit? c = if c.isDigit then some (digitValue c) else none := by
  have hdigit : ('0' ≤ c ∧ c ≤ '9') ↔ c.isDigit = true := by
    simp only [Char.isDigit, Bool.and_eq_true, decide_eq_true_eq]
    exact Iff.rfl
  by_cases h : c.isDigit = true
  · rw [digit?, if_pos (hdigit.2 h), if_pos h]
    rfl
  · rw [digit?, if_neg fun hc => h (hdigit.1 hc), if_neg h]

@[simp] theorem decimal_nil : decimal [] = 0 := rfl

theorem decimal_cons (c : Char) (l : List Char) :
    decimal (c :: l) = digitValue c * 10 ^ l.length + decimal l := by
  have hlength : (l.reverse.map digitValue).length = l.length := by simp
  rw [decimal, List.reverse_cons, List.map_append, Nat.ofDigits_append, hlength, List.map_singleton,
    Nat.ofDigits_singleton, Nat.mul_comm, Nat.add_comm]
  rfl

theorem readDigits_eq_ok_iff {limit : Nat} {beyond : NumeralError} {n m : Nat} (hn : n ≤ limit)
    {l : List Char} :
    readDigits limit beyond n l = .ok m ↔
      l.all Char.isDigit = true ∧ n * 10 ^ l.length + decimal l = m ∧ m ≤ limit := by
  induction l generalizing n with
  | nil =>
    simp only [readDigits, Except.ok.injEq, List.all_nil, List.length_nil, Nat.pow_zero,
      Nat.mul_one, decimal_nil, Nat.add_zero, true_and]
    constructor
    · rintro rfl
      exact ⟨rfl, hn⟩
    · exact fun h => h.1
  | cons c l ih =>
    have hvalue : n * 10 ^ (c :: l).length + decimal (c :: l) =
        (10 * n + digitValue c) * 10 ^ l.length + decimal l := by
      rw [decimal_cons, List.length_cons, Nat.pow_succ]
      ring
    rw [readDigits, digit?_eq_ite, hvalue, List.all_cons]
    by_cases hc : c.isDigit = true
    · simp only [hc, if_true, Bool.true_and]
      split
      · next hle => exact ih hle
      · next hlt =>
        -- what comes next makes the number no smaller
        have hgrows : 10 * n + digitValue c ≤
            (10 * n + digitValue c) * 10 ^ l.length + decimal l := by
          have hpos : 0 < 10 ^ l.length := Nat.pow_pos (by omega)
          have hmul := Nat.le_mul_of_pos_right (10 * n + digitValue c) hpos
          omega
        constructor
        · intro h
          cases h
        · rintro ⟨-, rfl, hle⟩
          omega
    · simp [hc]

theorem readMagnitude_eq_ok_iff {limit : Nat} {beyond : NumeralError} {m : Nat} {l : List Char} :
    readMagnitude limit beyond l = .ok m ↔ isDigits l = true ∧ decimal l = m ∧ m ≤ limit := by
  cases l with
  | nil => simp [readMagnitude, isDigits]
  | cons c l =>
    rw [readMagnitude, readDigits_eq_ok_iff (Nat.zero_le limit), Nat.zero_mul, Nat.zero_add]
    · rfl
    · exact List.cons_ne_nil c l

/-! ## Numerals -/

/-- `Numeral l n` — the characters write the integer: digits, at least one, and perhaps a sign
before them. -/
inductive Numeral : List Char → Int → Prop where
  | unsigned {l : List Char} (h : isDigits l = true) : Numeral l (decimal l)
  | plus {l : List Char} (h : isDigits l = true) : Numeral ('+' :: l) (decimal l)
  | minus {l : List Char} (h : isDigits l = true) : Numeral ('-' :: l) (-(decimal l : Int))

/-- A digit is no sign, so what comes first tells which form a numeral has. -/
theorem isDigits_cons {c : Char} {l : List Char} (h : isDigits (c :: l) = true) :
    c.isDigit = true ∧ l.all Char.isDigit = true := by
  simpa [isDigits] using h

theorem Numeral.plus_iff {l : List Char} {n : Int} :
    Numeral ('+' :: l) n ↔ isDigits l = true ∧ n = decimal l := by
  constructor
  · intro h
    cases h with
    | unsigned h => exact absurd (isDigits_cons h).1 (by decide)
    | plus h => exact ⟨h, rfl⟩
  · rintro ⟨h, rfl⟩
    exact Numeral.plus h

theorem Numeral.minus_iff {l : List Char} {n : Int} :
    Numeral ('-' :: l) n ↔ isDigits l = true ∧ n = -(decimal l : Int) := by
  constructor
  · intro h
    cases h with
    | unsigned h => exact absurd (isDigits_cons h).1 (by decide)
    | minus h => exact ⟨h, rfl⟩
  · rintro ⟨h, rfl⟩
    exact Numeral.minus h

theorem Numeral.unsigned_iff {l : List Char} {n : Int} (hplus : ∀ rest, l ≠ '+' :: rest)
    (hminus : ∀ rest, l ≠ '-' :: rest) : Numeral l n ↔ isDigits l = true ∧ n = decimal l := by
  constructor
  · intro h
    cases h with
    | unsigned h => exact ⟨h, rfl⟩
    | plus h => exact absurd rfl (hplus _)
    | minus h => exact absurd rfl (hminus _)
  · rintro ⟨h, rfl⟩
    exact Numeral.unsigned h

/-- What a sign makes of the digits after it. -/
theorem map_readMagnitude_eq_ok_iff {limit : Nat} {beyond : NumeralError} {l : List Char}
    {sign : Nat → Int} {n : Int} :
    (readMagnitude limit beyond l).map sign = .ok n ↔
      (isDigits l = true ∧ n = sign (decimal l)) ∧ decimal l ≤ limit := by
  cases h : readMagnitude limit beyond l with
  | error e =>
    constructor
    · intro hn
      cases hn
    · rintro ⟨⟨hdigits, -⟩, hle⟩
      rw [readMagnitude_eq_ok_iff.2 ⟨hdigits, rfl, hle⟩] at h
      cases h
  | ok m =>
    obtain ⟨hdigits, rfl, hle⟩ := readMagnitude_eq_ok_iff.1 h
    constructor
    · intro hn
      exact ⟨⟨hdigits, (Except.ok.inj hn).symm⟩, hle⟩
    · rintro ⟨⟨-, rfl⟩, -⟩
      rfl

/-- **A text is read as an integer exactly when it is a numeral of it**, and the integer has no more
than 64 bits. -/
theorem readInt64_eq_ok_iff {s : String} {n : Int} :
    readInt64 s = .ok n ↔ Numeral s.toList n ∧ -2 ^ 63 ≤ n ∧ n < 2 ^ 63 := by
  have hmax : maxInt64 = 2 ^ 63 - 1 := by decide
  rw [readInt64]
  split
  · next hnil =>
    constructor
    · intro h
      cases h
    · rintro ⟨h, -⟩
      rw [hnil, Numeral.unsigned_iff (by simp) (by simp)] at h
      exact absurd h.1 (by decide)
  · next digits hlist =>
    rw [map_readMagnitude_eq_ok_iff, hlist, Numeral.plus_iff]
    refine and_congr_right fun h => ?_
    have hn : n = decimal digits := h.2
    omega
  · next digits hlist =>
    have hsign (r : Except NumeralError Nat) :
        (do let m ← r; pure (m : Int)).map (fun n => -n) = r.map fun m : Nat => -(m : Int) := by
      cases r with
      | error e => rfl
      | ok m => rfl
    rw [hsign, map_readMagnitude_eq_ok_iff, hlist, Numeral.minus_iff]
    refine and_congr_right fun h => ?_
    have hn : n = -(decimal digits : Int) := h.2
    omega
  · next hplus hminus =>
    rw [map_readMagnitude_eq_ok_iff, Numeral.unsigned_iff hplus hminus]
    refine and_congr_right fun h => ?_
    have hn : n = decimal s.toList := h.2
    omega

/-- No character of a numeral is blank. -/
theorem Numeral.not_blank {l : List Char} {n : Int} (h : Numeral l n) :
    ∀ c ∈ l, isBlank c = false := by
  have hdigit {c : Char} (hc : c.isDigit = true) : isBlank c = false := by
    have hbounds : 48 ≤ c.toNat ∧ c.toNat ≤ 57 := by
      simpa [Char.isDigit, Char.le_def, UInt32.le_iff_toNat_le] using hc
    rw [Bool.eq_false_iff]
    intro hblank
    obtain ⟨r, hr, hle⟩ := inRanges_iff.1 hblank
    simp only [blankRanges, List.mem_cons, List.not_mem_nil, or_false] at hr
    rcases hr with rfl | rfl | rfl | rfl | rfl | rfl | rfl | rfl | rfl | rfl <;> omega
  have hdigits {l : List Char} (hl : isDigits l = true) : ∀ c ∈ l, isBlank c = false := by
    intro c hc
    have hall : l.all Char.isDigit = true := (Bool.and_eq_true _ _ ▸ hl).2
    exact hdigit (List.all_eq_true.1 hall c hc)
  cases h with
  | unsigned h => exact hdigits h
  | plus h => exact List.forall_mem_cons.2 ⟨by decide, hdigits h⟩
  | minus h => exact List.forall_mem_cons.2 ⟨by decide, hdigits h⟩

/-! ## Numerals with blanks around them -/

/-- `WritesInt64 s n` — the text is a numeral of the integer, with blanks around it, and the integer
has no more than 64 bits. -/
def WritesInt64 (s : String) (n : Int) : Prop :=
  Around (Numeral · n) s.toList ∧ -2 ^ 63 ≤ n ∧ n < 2 ^ 63

theorem readInt64_trim_eq_ok_iff {s : String} {n : Int} :
    readInt64 (trim s) = .ok n ↔ WritesInt64 s n := by
  rw [readInt64_eq_ok_iff, trim, String.toList_ofList, WritesInt64,
    around_iff fun middle hmiddle => hmiddle.not_blank]

/-- Without trimming, the numeral must be all of the text. -/
theorem readInt64_eq_ok_iff_trim {s : String} {n : Int} :
    readInt64 s = .ok n ↔ readInt64 (trim s) = .ok n ∧ ∀ c ∈ s.toList, isBlank c = false := by
  constructor
  · intro h
    have hblank := (readInt64_eq_ok_iff.1 h).1.not_blank
    rw [trim_of_not_blank hblank]
    exact ⟨h, hblank⟩
  · rintro ⟨h, hblank⟩
    rwa [trim_of_not_blank hblank] at h

end Gatehouse.Text
