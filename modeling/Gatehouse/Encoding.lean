/-
  Bytes and text.

  The bytes of a text are its characters in UTF-8.  The other way round, bytes are written in two
  ways: as pairs of hexadecimal digits, or in an alphabet of sixty-four symbols without padding.

  In the second way three bytes are a number below 2 ^ 24, written as four digits to the base 64;
  one or two bytes at the end become two or three digits, and the bits that are left over are zero.
  The alphabet is a parameter: tokens use the one that is safe in addresses, password hashes have
  one of their own.  Decoding accepts exactly what encoding writes.  It takes codes of characters,
  so that the same function reads text and raw bytes, and it names the place of the first code that
  is wrong.
-/

namespace Gatehouse

/-! ## Text in UTF-8 -/

namespace Text

/-- The bytes of a text. -/
def utf8 (s : String) : List UInt8 := s.toByteArray.data.toList

/-- The text with these bytes, if they are UTF-8. -/
def ofUtf8? (bytes : List UInt8) : Option String := String.fromUTF8? ⟨bytes.toArray⟩

/-- The bytes of a text read as the text again. -/
theorem ofUtf8?_utf8 (s : String) : ofUtf8? (utf8 s) = some s := by
  simp [ofUtf8?, utf8, String.fromUTF8?, s.isValidUTF8, String.fromUTF8]

end Text

/-! ## Hexadecimal digits -/

namespace Hex

/-- The lower-case digit of a number below sixteen. -/
def digit (n : Nat) : Char :=
  if n < 10 then Char.ofNat (48 + n) else Char.ofNat (87 + n)

/-- The value of a hexadecimal digit of either case. -/
def value? (c : Char) : Option (Fin 16) :=
  if h : 48 ≤ c.toNat ∧ c.toNat ≤ 57 then some ⟨c.toNat - 48, by omega⟩
  else if h : 97 ≤ c.toNat ∧ c.toNat ≤ 102 then some ⟨c.toNat - 87, by omega⟩
  else if h : 65 ≤ c.toNat ∧ c.toNat ≤ 70 then some ⟨c.toNat - 55, by omega⟩
  else none

/-- Reading a digit gives back the number it was written for. -/
theorem value?_digit (n : Fin 16) : value? (digit n) = some n := by
  revert n; decide

/-- The two digits of a byte. -/
def encodeByte (b : UInt8) : List Char := [digit (b.toNat / 16), digit (b.toNat % 16)]

/-- The digits of a list of bytes. -/
def encode (bytes : List UInt8) : List Char := bytes.flatMap encodeByte

end Hex

/-! ## Sixty-four symbols -/

namespace Base64

/-- Sixty-four different symbols, each with the value of its place. -/
structure Alphabet where
  /-- The symbols in the order of their values. -/
  symbols : List Char
  /-- There are sixty-four. -/
  length_symbols : symbols.length = 64 := by decide
  /-- No symbol stands twice. -/
  nodup_symbols : symbols.Nodup := by decide

/-- Capitals, small letters, digits, hyphen and underscore: the alphabet of tokens. -/
def urlSafe : Alphabet where
  symbols := "ABCDEFGHIJKLMNOPQRSTUVWXYZabcdefghijklmnopqrstuvwxyz0123456789-_".toList

/-- Point, slash, capitals, small letters and digits: the alphabet of password hashes. -/
def passwordHash : Alphabet where
  symbols := "./ABCDEFGHIJKLMNOPQRSTUVWXYZabcdefghijklmnopqrstuvwxyz0123456789".toList

/-- Why a text is not the encoding of bytes. -/
inductive DecodeError where
  /-- The code at this place is no symbol. -/
  | invalidSymbol (code : Nat) (offset : Nat)
  /-- The last symbol has bits that belong to no byte. -/
  | invalidLastSymbol (code : Nat) (offset : Nat)
  /-- One symbol is left over. -/
  | invalidLength
  /-- The text is padded. -/
  | invalidPadding
deriving DecidableEq, Repr

namespace Alphabet

/-- The symbol of a value. -/
def symbol (a : Alphabet) (n : Nat) : Char := a.symbols.getD n 'A'

/-- The value of the symbol with the code. -/
def value? (a : Alphabet) (code : Nat) : Option Nat :=
  a.symbols.findIdx? fun c => c.toNat == code

/-- The value of the symbol at a place. -/
def value (a : Alphabet) (offset code : Nat) : Except DecodeError Nat :=
  match a.value? code with
  | some n => .ok n
  | none => .error (.invalidSymbol code offset)

/-- The value of a symbol near the end, where the padding sign is told from other wrong codes. -/
def lastValue (a : Alphabet) (offset code : Nat) : Except DecodeError Nat :=
  if code = '='.toNat then .error .invalidPadding else a.value offset code

end Alphabet

/-- The encoding of a list of bytes. -/
def encode (a : Alphabet) : List UInt8 → List Char
  | [] => []
  | [x] =>
    let n := x.toNat * 16
    [a.symbol (n / 64), a.symbol (n % 64)]
  | [x, y] =>
    let n := (x.toNat * 256 + y.toNat) * 4
    [a.symbol (n / 4096), a.symbol (n / 64 % 64), a.symbol (n % 64)]
  | x :: y :: z :: rest =>
    let n := (x.toNat * 256 + y.toNat) * 256 + z.toNat
    a.symbol (n / 262144) :: a.symbol (n / 4096 % 64) :: a.symbol (n / 64 % 64) ::
      a.symbol (n % 64) :: encode a rest

/-- Decodes the codes that stand from `offset` on. -/
def decodeFrom (a : Alphabet) (offset : Nat) : List Nat → Except DecodeError (List UInt8)
  | [] => .ok []
  | [p] => do
    let _ ← a.value offset p
    .error .invalidLength
  | [p, q] => do
    let n := (← a.value offset p) * 64 + (← a.value (offset + 1) q)
    if n % 16 = 0 then .ok [UInt8.ofNat (n / 16)]
    else .error (.invalidLastSymbol q (offset + 1))
  | [p, q, r] => do
    let n := ((← a.value offset p) * 64 + (← a.value (offset + 1) q)) * 64 +
      (← a.lastValue (offset + 2) r)
    if n % 4 = 0 then .ok [UInt8.ofNat (n / 1024), UInt8.ofNat (n / 4)]
    else .error (.invalidLastSymbol r (offset + 2))
  | p :: q :: r :: s :: rest => do
    let p ← a.value offset p
    let q ← a.value (offset + 1) q
    let r ← if rest.isEmpty then a.lastValue (offset + 2) r else a.value (offset + 2) r
    let s ← if rest.isEmpty then a.lastValue (offset + 3) s else a.value (offset + 3) s
    let n := ((p * 64 + q) * 64 + r) * 64 + s
    let bytes ← decodeFrom a (offset + 4) rest
    return UInt8.ofNat (n / 65536) :: UInt8.ofNat (n / 256) :: UInt8.ofNat n :: bytes

/-- Decodes the codes of a text. -/
def decode (a : Alphabet) (codes : List Nat) : Except DecodeError (List UInt8) :=
  decodeFrom a 0 codes

/-- Decodes a text in the alphabet of tokens. -/
def decodeText? (s : String) : Option (List UInt8) :=
  (decode urlSafe (s.toList.map Char.toNat)).toOption

end Base64

end Gatehouse
