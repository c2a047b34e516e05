/-
  How encodings are read back.

  A character below 128 is one byte in UTF-8, its code; the bytes of any other character are all 128
  or more.  So a byte below 128 in a text is always a character of its own.

  In an alphabet of sixty-four symbols a symbol has one value, because no symbol stands twice.  With
  that, each group of symbols is a number to the base 64 whose digits are put together again, and
  the bytes are read off that number to the base 256.
-/
import Gatehouse.Encoding

namespace Gatehouse

/-! ## Text in UTF-8 -/

namespace Text

/-- The bytes of characters one after another. -/
def utf8Chars (l : List Char) : List UInt8 := l.flatMap String.utf8EncodeChar

@[simp] theorem utf8Chars_nil : utf8Chars [] = [] := rfl

@[simp] theorem utf8Chars_cons (c : Char) (l : List Char) :
    utf8Chars (c :: l) = String.utf8EncodeChar c ++ utf8Chars l := rfl

@[simp] theorem utf8Chars_append (l m : List Char) :
    utf8Chars (l ++ m) = utf8Chars l ++ utf8Chars m := List.flatMap_append

theorem utf8_ofList (l : List Char) : utf8 (String.ofList l) = utf8Chars l := by
  simp [utf8, utf8Chars, List.utf8Encode]

/-- The bytes of a text are those of its characters. -/
theorem utf8_eq (s : String) : utf8 s = utf8Chars s.toList := by
  rw [← utf8_ofList, String.ofList_toList]

/-- A character below 128 is one byte. -/
theorem utf8EncodeChar_of_lt {c : Char} (h : c.toNat < 128) :
    String.utf8EncodeChar c = [UInt8.ofNat c.toNat] := by
  rw [String.utf8EncodeChar]
  exact if_pos (show c.val.toNat ≤ 0x7f from Nat.le_of_lt_succ h)

/-- A text of such characters has their codes as its bytes. -/
theorem utf8Chars_of_lt {l : List Char} (h : ∀ c ∈ l, c.toNat < 128) :
    utf8Chars l = l.map fun c => UInt8.ofNat c.toNat := by
  induction l with
  | nil => rfl
  | cons c l ih =>
    rw [utf8Chars_cons, utf8EncodeChar_of_lt (h c List.mem_cons_self),
      ih fun d hd => h d (List.mem_cons_of_mem c hd)]
    rfl

/-- The bytes of any other character are all 128 or more. -/
theorem le_of_mem_utf8EncodeChar {c : Char} (h : 128 ≤ c.toNat) {b : UInt8}
    (hb : b ∈ String.utf8EncodeChar c) : 128 ≤ b.toNat := by
  have hc : 128 ≤ c.val.toNat := h
  -- the first byte and those after it carry a mark that is 128 or more
  have byte {x y : Nat} (hx : x < 256 - y) (hy : 128 ≤ y) : 128 ≤ (UInt8.ofNat (x + y)).toNat := by
    rw [UInt8.toNat_ofNat']
    omega
  rw [String.utf8EncodeChar] at hb
  split at hb
  · omega
  split at hb
  · simp only [List.mem_cons, List.not_mem_nil, or_false] at hb
    rcases hb with rfl | rfl <;> exact byte (by omega) (by omega)
  split at hb
  · simp only [List.mem_cons, List.not_mem_nil, or_false] at hb
    rcases hb with rfl | rfl | rfl <;> exact byte (by omega) (by omega)
  · simp only [List.mem_cons, List.not_mem_nil, or_false] at hb
    rcases hb with rfl | rfl | rfl | rfl <;> exact byte (by omega) (by omega)

end Text

/-! ## Sixty-four symbols -/

namespace Base64

namespace Alphabet

variable (a : Alphabet)

/-- The symbol of a value stands at its place. -/
theorem getElem?_symbols {n : Nat} (hn : n < 64) : a.symbols[n]? = some (a.symbol n) := by
  have hlen : n < a.symbols.length := by
    rw [a.length_symbols]
    exact hn
  rw [symbol, List.getD_eq_getElem?_getD, List.getElem?_eq_getElem hlen, Option.getD_some]

theorem symbol_mem {n : Nat} (hn : n < 64) : a.symbol n ∈ a.symbols :=
  List.mem_of_getElem? (getElem?_symbols a hn)

/-- A symbol has the value that it was written for. -/
theorem value?_symbol {n : Nat} (hn : n < 64) : a.value? (a.symbol n).toNat = some n := by
  obtain ⟨hlen, hsymbol⟩ := List.getElem?_eq_some_iff.1 (getElem?_symbols a hn)
  rw [value?, List.findIdx?_eq_some_iff_getElem]
  refine ⟨hlen, by simp [hsymbol], fun j hj h => ?_⟩
  -- an earlier symbol with the same code would be the same symbol
  rw [← hsymbol] at h
  have hjn := (List.getElem_inj a.nodup_symbols).1 (Char.toNat_inj.1 (beq_iff_eq.1 h))
  omega

/-- A symbol anywhere in a text is read as its value. -/
theorem value_symbol {n : Nat} (hn : n < 64) (offset : Nat) :
    a.value offset (a.symbol n).toNat = .ok n := by
  rw [value, value?_symbol a hn]

/-- A symbol at the end is read in the same way, if it cannot be taken for padding. -/
theorem lastValue_symbol (ha : '=' ∉ a.symbols) {n : Nat} (hn : n < 64) (offset : Nat) :
    a.lastValue offset (a.symbol n).toNat = .ok n := by
  have h : (a.symbol n).toNat ≠ '='.toNat := by
    intro h
    exact ha (Char.toNat_inj.1 h ▸ a.symbol_mem hn)
  rw [lastValue, if_neg h, value_symbol a hn]

end Alphabet

/-- Four symbols for three bytes, rounded up. -/
theorem length_encode (a : Alphabet) (bytes : List UInt8) :
    (encode a bytes).length = (4 * bytes.length + 2) / 3 := by
  induction bytes using encode.induct with
  | case1 => rfl
  | case2 x => simp [encode]
  | case3 x y => simp [encode]
  | case4 x y z rest ih =>
    simp only [encode, List.length_cons, ih]
    omega

/-- The encoding of bytes is made of symbols. -/
theorem mem_symbols_of_mem_encode {a : Alphabet} {bytes : List UInt8} {c : Char}
    (h : c ∈ encode a bytes) : c ∈ a.symbols := by
  induction bytes using encode.induct with
  | case1 => simp [encode] at h
  | case2 x =>
    have := x.toNat_lt
    rw [encode] at h
    simp only [List.mem_cons, List.not_mem_nil, or_false] at h
    rcases h with rfl | rfl <;> exact a.symbol_mem (by omega)
  | case3 x y =>
    have := x.toNat_lt
    have := y.toNat_lt
    rw [encode] at h
    simp only [List.mem_cons, List.not_mem_nil, or_false] at h
    rcases h with rfl | rfl | rfl <;> exact a.symbol_mem (by omega)
  | case4 x y z rest ih =>
    have := x.toNat_lt
    have := y.toNat_lt
    have := z.toNat_lt
    rw [encode] at h
    simp only [List.mem_cons] at h
    rcases h with rfl | rfl | rfl | rfl | h
    · exact a.symbol_mem (by omega)
    · exact a.symbol_mem (by omega)
    · exact a.symbol_mem (by omega)
    · exact a.symbol_mem (by omega)
    · exact ih h

/-- **What was encoded is decoded to the bytes that it was made of.**  The induction takes three
bytes, and so four symbols, at a time. -/
theorem decodeFrom_encode {a : Alphabet} (ha : '=' ∉ a.symbols) (bytes : List UInt8)
    (offset : Nat) : decodeFrom a offset ((encode a bytes).map Char.toNat) = .ok bytes := by
  induction bytes using encode.induct generalizing offset with
  | case1 => rfl
  | case2 x =>
    have hx := x.toNat_lt
    rw [encode]
    simp only [List.map_cons, List.map_nil]
    rw [decodeFrom, a.value_symbol (by omega), a.value_symbol (by omega)]
    have h : x.toNat * 16 / 64 * 64 + x.toNat * 16 % 64 = x.toNat * 16 := by omega
    simp [bind, Except.bind, h]
  | case3 x y =>
    have hx := x.toNat_lt
    have hy := y.toNat_lt
    rw [encode]
    simp only [List.map_cons, List.map_nil]
    generalize hn : (x.toNat * 256 + y.toNat) * 4 = n
    rw [decodeFrom, a.value_symbol (by omega), a.value_symbol (by omega),
      a.lastValue_symbol ha (by omega)]
    have h : (n / 4096 * 64 + n / 64 % 64) * 64 + n % 64 = n := by omega
    simp only [bind, Except.bind, h]
    rw [if_pos (by omega)]
    have h₁ : UInt8.ofNat (n / 1024) = x := by
      rw [show n / 1024 = x.toNat by omega, UInt8.ofNat_toNat]
    have h₂ : UInt8.ofNat (n / 4) = y := by
      rw [show n / 4 = x.toNat * 256 + y.toNat by omega]
      exact UInt8.toNat_inj.1 (by rw [UInt8.toNat_ofNat']; omega)
    rw [h₁, h₂]
  | case4 x y z rest ih =>
    have hx := x.toNat_lt
    have hy := y.toNat_lt
    have hz := z.toNat_lt
    rw [encode]
    simp only [List.map_cons]
    generalize hn : (x.toNat * 256 + y.toNat) * 256 + z.toNat = n
    rw [decodeFrom, a.value_symbol (by omega), a.value_symbol (by omega)]
    have h : ((n / 262144 * 64 + n / 4096 % 64) * 64 + n / 64 % 64) * 64 + n % 64 = n := by omega
    have h₁ : UInt8.ofNat (n / 65536) = x := by
      rw [show n / 65536 = x.toNat by omega, UInt8.ofNat_toNat]
    have h₂ : UInt8.ofNat (n / 256) = y :=
      UInt8.toNat_inj.1 (by rw [UInt8.toNat_ofNat']; omega)
    have h₃ : UInt8.ofNat n = z :=
      UInt8.toNat_inj.1 (by rw [UInt8.toNat_ofNat']; omega)
    simp [bind, Except.bind, pure, Except.pure, a.value_symbol, a.lastValue_symbol ha, Nat.mod_lt,
      ih, h, h₁, h₂, h₃]

/-- **Decoding undoes encoding.** -/
theorem decode_encode {a : Alphabet} (ha : '=' ∉ a.symbols) (bytes : List UInt8) :
    decode a ((encode a bytes).map Char.toNat) = .ok bytes :=
  decodeFrom_encode ha bytes 0

end Base64

end Gatehouse
