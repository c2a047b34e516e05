/-
  A printed integer is read as it was, and passed over as a whole.

  The digits of an integer are read from left to right, and what is read of `n` and a digit `d` more
  is `10 * n + d`: the induction is on the way the digits are made, so the reader's value after the
  digits of `n` is `n` whatever comes next (`integerDigits_digitBytes`).  What comes next must not
  go on with the number; in a printed record it never does.

  A reader is a function of the bytes that are left, so a proof about it follows the bytes.  The
  lemmas in the beginning say what one step makes of bytes that start in a known way, whatever is
  read.
-/
import Gatehouse.Json.Reader
import Gatehouse.Json.Value
import Gatehouse.Proofs.Encoding

namespace Gatehouse.Json

open Text

/-- An integer of sixty-four bits. -/
def IsInt64 (n : Int) : Prop := -(maxInt64 + 1 : Int) ≤ n ∧ n ≤ maxInt64

namespace Reader

/-! ## One step of a reader -/

section Steps

variable {α β : Type}

/-- Once a reader has succeeded, the next one goes on with the bytes that it left. -/
theorem bind_ok {r : Reader α} {f : α → Reader β} {a : α} {s rest : List UInt8}
    (h : r s = (.ok a, rest)) : (r >>= f) s = f a rest := by
  simp only [bind, h]

theorem map_ok {r : Reader α} {a : α} {s rest : List UInt8} (h : r s = (.ok a, rest)) (f : α → β) :
    (f <$> r) s = (.ok (f a), rest) :=
  bind_ok h

theorem pure_apply (a : α) (s : List UInt8) : (pure a : Reader α) s = (.ok a, s) := rfl

theorem size_apply (s : List UInt8) : size s = (.ok s.length, s) := rfl

/-- One byte is passed over. -/
theorem advance_cons (b : UInt8) (s : List UInt8) : advance (b :: s) = (.ok (), s) := rfl

/-- A byte that is no blank is the next token. -/
theorem peekToken_cons {b : UInt8} (h : isBlank b = false) (s : List UInt8) :
    peekToken (b :: s) = (.ok (some b), b :: s) := by
  have hdrop : (b :: s).dropWhile isBlank = b :: s := by simp [h]
  simp only [peekToken, bind, skipBlanks, hdrop, peek, List.head?_cons]

/-- A body in brackets is read if the body is and the bracket follows. -/
theorem closing_ok {body : Reader α} {close : Reader Unit} {a : α} {s rest rest' : List UInt8}
    (hbody : body s = (.ok a, rest)) (hclose : close rest = (.ok (), rest')) :
    closing body close s = (.ok a, rest') := by
  simp only [closing, hbody, hclose]

/-- A reader that takes the whole text. -/
theorem document_ok {r : Reader α} {a : α} {bytes : List UInt8} (h : r bytes = (.ok a, [])) :
    document r bytes = .ok a := by
  simp [document, h]

end Steps

/-! ## Where a number ends -/

/-- Tells whether a number in front of these bytes is at its end. -/
def EndsNumber (s : List UInt8) : Prop :=
  ∀ b ∈ s.head?, digit? b = none ∧ b ≠ 0x2e ∧ b ≠ 0x65 ∧ b ≠ 0x45

/-- Which bytes end a number can be computed. -/
theorem endsNumber_cons {b : UInt8} {s : List UInt8}
    (h : digit? b = none ∧ b ≠ 0x2e ∧ b ≠ 0x65 ∧ b ≠ 0x45) : EndsNumber (b :: s) := by
  intro b' hb'
  obtain rfl : b = b' := by simpa using hb'
  exact h

theorem EndsNumber.startsWithDigit {s : List UInt8} (h : EndsNumber s) :
    startsWithDigit s = false := by
  cases s with
  | nil => rfl
  | cons b s => simp [Reader.startsWithDigit, (h b rfl).1]

/-! ## Digits -/

/-- The byte of a digit. -/
theorem utf8EncodeChar_digitChar {d : Nat} (h : d < 10) :
    String.utf8EncodeChar (Nat.digitChar d) = [UInt8.ofNat (0x30 + d)] := by
  have hall : ∀ d : Fin 10,
      String.utf8EncodeChar (Nat.digitChar d) = [UInt8.ofNat (0x30 + d)] := by decide
  exact hall ⟨d, h⟩

/-- The byte of a digit has the value of the digit. -/
theorem digit?_ofNat {d : Nat} (h : d < 10) : digit? (UInt8.ofNat (0x30 + d)) = some d := by
  have hall : ∀ d : Fin 10, digit? (UInt8.ofNat (0x30 + d)) = some d.val := by decide
  exact hall ⟨d, h⟩

/-- The bytes of the digits of a number. -/
def digitBytes (n : Nat) : List UInt8 := utf8Chars (Nat.toDigits 10 n)

theorem digitBytes_of_lt {d : Nat} (h : d < 10) : digitBytes d = [UInt8.ofNat (0x30 + d)] := by
  rw [digitBytes, Nat.toDigits_of_lt_base h, utf8Chars_cons, utf8EncodeChar_digitChar h]
  rfl

/-- The last digit of a number is its remainder, and the others are those of the quotient. -/
theorem digitBytes_of_le {n : Nat} (h : 10 ≤ n) :
    digitBytes n = digitBytes (n / 10) ++ [UInt8.ofNat (0x30 + n % 10)] := by
  rw [digitBytes, Nat.toDigits_of_base_le (by omega) h, utf8Chars_append, utf8Chars_cons,
    utf8EncodeChar_digitChar (Nat.mod_lt n (by omega))]
  rfl

/-- The digits of a positive number start with a digit that is not zero, and only digits follow. -/
theorem digitBytes_of_pos {n : Nat} (h : 0 < n) :
    ∃ b d bytes, digitBytes n = b :: bytes ∧ digit? b = some (d + 1) ∧
      ∀ c ∈ bytes, (digit? c).isSome := by
  induction n using Nat.strongRecOn with
  | ind n ih =>
    by_cases hn : n < 10
    · refine ⟨_, n - 1, [], digitBytes_of_lt hn, ?_, by simp⟩
      rw [digit?_ofNat hn]
      exact congrArg some (by omega)
    · obtain ⟨b, d, bytes, hb, hd, hall⟩ := ih (n / 10) (by omega) (by omega)
      refine ⟨b, d, bytes ++ [UInt8.ofNat (0x30 + n % 10)], ?_, hd, fun c hc => ?_⟩
      · rw [digitBytes_of_le (by omega), hb, List.cons_append]
      · rcases List.mem_append.1 hc with hc | hc
        · exact hall c hc
        · rw [List.mem_singleton.1 hc, digit?_ofNat (Nat.mod_lt n (by omega))]
          rfl

/-- **The digits of a number are read as the number.** -/
theorem integerDigits_digitBytes {n : Nat} (h : n ≤ maxNat64) (rest : List UInt8) :
    integerDigits 0 0 (digitBytes n ++ rest) = integerDigits n 0 rest := by
  induction n using Nat.strongRecOn generalizing rest with
  | ind n ih =>
    by_cases hn : n < 10
    · rw [digitBytes_of_lt hn, List.singleton_append, integerDigits]
      simp only [digit?_ofNat hn, Nat.zero_mul, Nat.zero_add]
      exact if_pos ⟨trivial, h⟩
    · rw [digitBytes_of_le (by omega), List.append_assoc, ih (n / 10) (by omega) (by omega),
        List.singleton_append, integerDigits]
      have hval : n / 10 * 10 + n % 10 = n := by omega
      simp only [digit?_ofNat (Nat.mod_lt n (by omega : 0 < 10)), hval]
      exact if_pos ⟨trivial, h⟩

theorem integerDigits_of_endsNumber {s : List UInt8} (h : EndsNumber s) (value beyond : Nat) :
    integerDigits value beyond s = (value, beyond, s) := by
  cases s with
  | nil => rfl
  | cons b s => rw [integerDigits, (h b rfl).1]

/-! ## Integers -/

theorem numberEnd_of_endsNumber {s : List UInt8} (h : EndsNumber s) (negative : Bool)
    (value : Nat) : numberEnd negative value 0 s = numberEnd.whole negative value 0 s := by
  cases s with
  | nil => rfl
  | cons b s =>
    obtain ⟨-, h₁, h₂, h₃⟩ := h b rfl
    rw [numberEnd.eq_def]
    simp only [h₁, h₂, h₃, or_self, if_false]

/-- **A natural number is read to its end**, if it fits in sixty-four bits. -/
theorem numberBody_digitBytes {n : Nat} (hn : n ≤ maxNat64) (negative : Bool) {rest : List UInt8}
    (h : EndsNumber rest) :
    numberBody negative (digitBytes n ++ rest) = numberEnd.whole negative n 0 rest := by
  rcases Nat.eq_zero_or_pos n with rfl | hpos
  · rw [digitBytes_of_lt (by omega), List.singleton_append, numberBody]
    simp only [digit?_ofNat (show 0 < 10 by omega), h.startsWithDigit, Bool.false_eq_true, if_false]
    exact numberEnd_of_endsNumber h negative 0
  · obtain ⟨b, d, bytes, hb, hd, -⟩ := digitBytes_of_pos hpos
    have hread := integerDigits_digitBytes hn rest
    rw [integerDigits_of_endsNumber h, hb, List.cons_append] at hread
    rw [hb, List.cons_append, numberBody]
    simp only [hd, hread]
    exact numberEnd_of_endsNumber h negative n

theorem numberBody_natural {n : Nat} (hn : n ≤ maxNat64) {rest : List UInt8}
    (h : EndsNumber rest) : numberBody false (digitBytes n ++ rest) = (.ok (.integer n), rest) := by
  rw [numberBody_digitBytes hn false h]
  simp [numberEnd.whole]

/-- A negative number is read, down to the least that fits. -/
theorem numberBody_negative {n : Nat} (hpos : n ≠ 0) (hn : n ≤ maxInt64 + 1) {rest : List UInt8}
    (h : EndsNumber rest) :
    numberBody true (digitBytes n ++ rest) = (.ok (.integer (-(n : Int))), rest) := by
  have hle : maxInt64 + 1 ≤ maxNat64 := by decide
  rw [numberBody_digitBytes (Nat.le_trans hn hle) true h]
  simp [numberEnd.whole, hpos, hn]

/-- The bytes of a printed integer: its digits, after a minus sign if it is negative. -/
theorem utf8Chars_print_int (n : Int) :
    utf8Chars (Value.int n).print =
      if n < 0 then 0x2d :: digitBytes n.natAbs else digitBytes n.natAbs := by
  cases n with
  | ofNat m =>
    rw [if_neg (by simp), Value.print_int]
    show utf8Chars (Nat.repr m).toList = digitBytes m
    rw [Nat.toList_repr, digitBytes]
  | negSucc m =>
    rw [if_pos (Int.negSucc_lt_zero m), Value.print_int]
    show utf8Chars ("-" ++ Nat.repr (m + 1)).toList = 0x2d :: digitBytes (m + 1)
    rw [String.toList_append, Nat.toList_repr, utf8Chars_append, digitBytes]
    rfl

/-- A digit is neither a blank nor a minus sign. -/
theorem ne_of_digit? {b : UInt8} {d : Nat} (h : digit? b = some d) :
    isBlank b = false ∧ b ≠ 0x2d := by
  have hle : 0x30 ≤ b.toNat := by
    rw [digit?] at h
    split at h
    · rename_i hb
      exact UInt8.le_iff_toNat_le.1 hb.1
    · simp at h
  refine ⟨?_, fun hb => by simp [hb] at hle⟩
  simp only [isBlank, Bool.or_eq_false_iff, beq_eq_false_iff_ne]
  refine ⟨⟨⟨?_, ?_⟩, ?_⟩, ?_⟩ <;> (rintro rfl; simp at hle)

/-- The digits of a number start with a digit. -/
theorem digitBytes_eq_cons (n : Nat) :
    ∃ b d bytes, digitBytes n = b :: bytes ∧ digit? b = some d := by
  rcases Nat.eq_zero_or_pos n with rfl | hpos
  · exact ⟨_, 0, [], digitBytes_of_lt (by omega), digit?_ofNat (by omega)⟩
  · obtain ⟨b, d, bytes, hb, hd, -⟩ := digitBytes_of_pos hpos
    exact ⟨b, d + 1, bytes, hb, hd⟩

/-- **A printed integer is read as it was.** -/
theorem int64_printed {n : Int} (hn : IsInt64 n) {rest : List UInt8} (h : EndsNumber rest) :
    int64 (utf8Chars (Value.int n).print ++ rest) = (.ok n, rest) := by
  obtain ⟨hmin, hmax⟩ := hn
  have hle : (maxInt64 : Int) + 1 ≤ maxNat64 := by decide
  rw [utf8Chars_print_int]
  split
  · rename_i hneg
    rw [List.cons_append, int64, bind_ok (peekToken_cons (by decide) _)]
    simp only [if_true]
    rw [bind_ok (advance_cons _ _), bind_ok (numberBody_negative (by omega) (by omega) h)]
    have habs : -(n.natAbs : Int) = n := by omega
    rw [habs, int64.fit, if_pos hmax, pure_apply]
  · rename_i hnonneg
    obtain ⟨b, d, bytes, hb, hd⟩ := digitBytes_eq_cons n.natAbs
    obtain ⟨hblank, hminus⟩ := ne_of_digit? hd
    have hbody := numberBody_natural (n := n.natAbs) (by omega) h
    rw [hb, List.cons_append] at hbody ⊢
    rw [int64, bind_ok (peekToken_cons hblank _)]
    simp only [hminus, hd, if_false, Option.isSome_some, if_true]
    rw [bind_ok hbody]
    have habs : (n.natAbs : Int) = n := by omega
    rw [habs, int64.fit, if_pos hmax, pure_apply]

/-! ## Passing over -/

/-- A number that nobody asked for is passed over. -/
theorem skipNumber_digitBytes (n : Nat) {rest : List UInt8} (h : EndsNumber rest) :
    skipNumber (digitBytes n ++ rest) = (.ok (), rest) := by
  have htail : skipNumber.tail rest = (.ok (), rest) := by
    cases rest with
    | nil => rfl
    | cons b s =>
      obtain ⟨-, h₁, h₂, h₃⟩ := h b rfl
      rw [skipNumber.tail.eq_def]
      simp only [h₁, h₂, h₃, or_self, if_false]
  rcases Nat.eq_zero_or_pos n with rfl | hpos
  · rw [digitBytes_of_lt (by omega), List.singleton_append, skipNumber]
    simp only [digit?_ofNat (show 0 < 10 by omega), h.startsWithDigit, Bool.false_eq_true, if_false]
    exact htail
  · obtain ⟨b, d, bytes, hb, hd, hall⟩ := digitBytes_of_pos hpos
    have hdrop : skipNumber.dropDigits (bytes ++ rest) = rest := by
      rw [skipNumber.dropDigits, List.dropWhile_append_of_pos hall]
      cases rest with
      | nil => rfl
      | cons c s => simp [(h c rfl).1]
    rw [hb, List.cons_append, skipNumber]
    simp only [hd, hdrop]
    exact htail

end Reader

end Gatehouse.Json
