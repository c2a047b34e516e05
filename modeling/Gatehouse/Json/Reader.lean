/-
  Reading JSON from bytes.

  A reader takes bytes from the front of the input and either gives a value or stops at the first
  problem; in both cases it says what is left.  Problems are of three kinds, and callers tell them
  apart: the text is not JSON (`malformed`), it ends too early (`truncated`), or it is JSON so far
  but not of the wanted shape (`unfit`).

  There are two ways to pass over a value.  `text`, `integer` and their like read it and check all
  of it.  `skipValue` passes over a value nobody asked for: it checks the structure but neither the
  encoding of strings nor the size of numbers, and no depth is too great for it.
-/
import Gatehouse.Encoding
import Gatehouse.Text.Numeral

namespace Gatehouse.Json

/-- Why reading stopped. -/
inductive Fault where
  /-- The text is not JSON. -/
  | malformed
  /-- The text ends inside a value. -/
  | truncated
  /-- The value does not have the wanted shape. -/
  | unfit
deriving DecidableEq, Repr

/-- Takes a value from the front of the input, or stops; the second component is what is left. -/
def Reader (α : Type) : Type := List UInt8 → Except Fault α × List UInt8

namespace Reader

variable {α : Type}

instance : Monad Reader where
  pure a := fun s => (.ok a, s)
  bind r f := fun s =>
    match r s with
    | (.ok a, rest) => f a rest
    | (.error e, rest) => (.error e, rest)

/-- Stops where it stands. -/
def fail (e : Fault) : Reader α := fun s => (.error e, s)

/-- The next byte, which stays in the input. -/
def peek : Reader (Option UInt8) := fun s => (.ok s.head?, s)

/-- Drops the next byte. -/
def advance : Reader Unit := fun s => (.ok (), s.tail)

/-- The number of bytes left. -/
def size : Reader Nat := fun s => (.ok s.length, s)

/-- The four blanks of JSON. -/
def isBlank (b : UInt8) : Bool := b == 0x20 || b == 0x0a || b == 0x0d || b == 0x09

/-- Drops blanks. -/
def skipBlanks : Reader Unit := fun s => (.ok (), s.dropWhile isBlank)

/-- Drops blanks and looks at the byte after them. -/
def peekToken : Reader (Option UInt8) := do
  skipBlanks
  peek

/-- Runs `body`, then `close` whether or not it succeeded; the first problem counts. -/
def closing (body : Reader α) (close : Reader Unit) : Reader α := fun s =>
  match body s with
  | (.ok a, rest) =>
    match close rest with
    | (.ok _, rest) => (.ok a, rest)
    | (.error e, rest) => (.error e, rest)
  | (.error e, rest) => (.error e, (close rest).2)

/-- Runs the reader and gives `none` where it stopped. -/
def attempt (r : Reader α) : Reader (Option α) := fun s =>
  match r s with
  | (.ok a, rest) => (.ok (some a), rest)
  | (.error _, rest) => (.ok none, rest)

/-! ## Words and strings -/

/-- Takes exactly these bytes. -/
def word : List UInt8 → Reader Unit
  | [] => pure ()
  | b :: expected => fun s =>
    match s with
    | [] => (.error .truncated, [])
    | c :: rest => if c = b then word expected rest else (.error .malformed, rest)

/-- Takes exactly these letters. -/
def letters (s : String) : Reader Unit := word (Text.utf8 s)

/-- The byte that a short escape stands for. -/
def shortEscape? (b : UInt8) : Option UInt8 :=
  if b = 0x22 ∨ b = 0x5c ∨ b = 0x2f then some b
  else if b = 0x62 then some 0x08
  else if b = 0x66 then some 0x0c
  else if b = 0x6e then some 0x0a
  else if b = 0x72 then some 0x0d
  else if b = 0x74 then some 0x09
  else none

/-- The value of a hexadecimal digit. -/
def hexValue? (b : UInt8) : Option Nat :=
  let n := b.toNat
  if 0x30 ≤ n ∧ n ≤ 0x39 then some (n - 0x30)
  else if 0x61 ≤ n ∧ n ≤ 0x66 then some (n - 0x57)
  else if 0x41 ≤ n ∧ n ≤ 0x46 then some (n - 0x37)
  else none

/-- The value of four hexadecimal digits. -/
def hexUnit? (p q r s : UInt8) : Option Nat := do
  return (((← hexValue? p) * 16 + (← hexValue? q)) * 16 + (← hexValue? r)) * 16 + (← hexValue? s)

/-- The first half of a pair that stands for a character beyond the sixteen-bit range. -/
def isLead (unit : Nat) : Bool := 0xd800 ≤ unit && unit ≤ 0xdbff

/-- The second half of such a pair. -/
def isTrail (unit : Nat) : Bool := 0xdc00 ≤ unit && unit ≤ 0xdfff

/-- The character of a pair. -/
def pairCode (lead trail : Nat) : Nat := (lead - 0xd800) * 0x400 + (trail - 0xdc00) + 0x10000

/-- Puts bytes in front of what a reader of bytes gave. -/
def prepend (bytes : List UInt8) (r : Except Fault (List UInt8) × List UInt8) :
    Except Fault (List UInt8) × List UInt8 :=
  (r.1.map (bytes ++ ·), r.2)

/-- The bytes of a string, after its opening quote, with the escapes resolved.  A half of a pair
that stands alone is malformed. -/
def stringBytes : Reader (List UInt8)
  | [] => (.error .truncated, [])
  | b :: rest =>
    if b = 0x22 then (.ok [], rest)
    else if b = 0x5c then
      match rest with
      | [] => (.error .truncated, [])
      | e :: rest =>
        if e = 0x75 then
          match rest with
          | p :: q :: r :: s :: rest =>
            match hexUnit? p q r s with
            | none => (.error .malformed, rest)
            | some unit =>
              if isTrail unit then (.error .malformed, rest)
              else if isLead unit then
                match rest with
                | [] => (.error .truncated, [])
                | b :: rest =>
                  if b = 0x5c then
                    match rest with
                    | [] => (.error .truncated, [])
                    | e :: rest =>
                      if e = 0x75 then
                        match rest with
                        | p :: q :: r :: s :: rest =>
                          match hexUnit? p q r s with
                          | none => (.error .malformed, rest)
                          | some trail =>
                            if isTrail trail then
                              prepend (String.utf8EncodeChar (Char.ofNat (pairCode unit trail)))
                                (stringBytes rest)
                            else (.error .malformed, rest)
                        | _ => (.error .truncated, [])
                      else (.error .malformed, rest)
                  else (.error .malformed, rest)
              else prepend (String.utf8EncodeChar (Char.ofNat unit)) (stringBytes rest)
          | _ => (.error .truncated, [])
        else
          match shortEscape? e with
          | some c => prepend [c] (stringBytes rest)
          | none => (.error .malformed, rest)
    else if b < 0x20 then (.error .malformed, rest)
    else prepend [b] (stringBytes rest)

/-- A string, after its opening quote.  Its bytes must be UTF-8. -/
def stringBody : Reader String := do
  match Text.ofUtf8? (← stringBytes) with
  | some s => return s
  | none => fail .malformed

/-- Passes over a string, after its opening quote, without looking at its encoding. -/
def skipString : Reader Unit
  | [] => (.error .truncated, [])
  | b :: rest =>
    if b = 0x22 then (.ok (), rest)
    else if b = 0x5c then
      match rest with
      | [] => (.error .truncated, [])
      | e :: rest =>
        if e = 0x75 then
          match rest with
          | p :: q :: r :: s :: rest =>
            if (hexUnit? p q r s).isSome then skipString rest else (.error .malformed, rest)
          | _ => (.error .truncated, [])
        else if (shortEscape? e).isSome then skipString rest
        else (.error .malformed, rest)
    else if b < 0x20 then (.error .malformed, rest)
    else skipString rest

/-! ## Numbers -/

/-- What a number is: an integer of sixty-four bits, without or with a sign, or anything else. -/
inductive Number where
  | integer (n : Int)
  | real

/-- The value of a decimal digit. -/
def digit? (b : UInt8) : Option Nat :=
  if 0x30 ≤ b ∧ b ≤ 0x39 then some (b.toNat - 0x30) else none

/-- Tells whether the next byte is a decimal digit. -/
def startsWithDigit (s : List UInt8) : Bool := (s.head?.bind digit?).isSome

/-- The digits of an integer part: their value as far as it fits into sixty-four bits, the number
of digits after that, and what is left. -/
def integerDigits (value beyond : Nat) : List UInt8 → Nat × Nat × List UInt8
  | [] => (value, beyond, [])
  | b :: rest =>
    match digit? b with
    | none => (value, beyond, b :: rest)
    | some d =>
      if beyond = 0 ∧ value * 10 + d ≤ Text.maxNat64 then integerDigits (value * 10 + d) 0 rest
      else integerDigits value (beyond + 1) rest

/-- The digits of a fraction, appended to `value` as long as it fits into sixty-four bits; counts
the digits that were appended. -/
def fractionDigits (value places : Nat) : List UInt8 → Nat × Nat × List UInt8
  | [] => (value, places, [])
  | b :: rest =>
    match digit? b with
    | none => (value, places, b :: rest)
    | some d =>
      if value * 10 + d ≤ Text.maxNat64 then fractionDigits (value * 10 + d) (places + 1) rest
      else (value, places, (b :: rest).dropWhile fun b => (digit? b).isSome)

/-- The digits of an exponent, as long as it fits into thirty-one bits. -/
def exponentDigits (value : Nat) : List UInt8 → Option Nat × List UInt8
  | [] => (some value, [])
  | b :: rest =>
    match digit? b with
    | none => (some value, b :: rest)
    | some d =>
      if value * 10 + d ≤ 0x7fffffff then exponentDigits (value * 10 + d) rest else (none, rest)

/-- The natural number with at most 53 significant bits that is nearest to `n`, the even one of
two. -/
def roundTo53Bits (n : Nat) : Nat :=
  let shift := n.log2 - 52
  if shift = 0 then n
  else
    let unit := 1 <<< shift
    let q := n / unit
    let r := n % unit
    if 2 * r > unit ∨ (2 * r = unit ∧ q % 2 = 1) then (q + 1) * unit else q * unit

/-- Tells whether `value * 10 ^ exponent`, taken in double precision, is beyond all numbers. -/
def overflows (value : Nat) (exponent : Int) : Bool :=
  if value = 0 ∨ exponent < 0 then false
  else if exponent > 308 then true
  else roundTo53Bits value * roundTo53Bits (Nat.pow 10 exponent.toNat) ≥ 1 <<< 1024 - 1 <<< 970

/-- A number with a fraction or an exponent. -/
def realNumber (value : Nat) (exponent : Int) (s : List UInt8) : Except Fault Number × List UInt8 :=
  if overflows value exponent then (.error .malformed, s) else (.ok .real, s)

/-- The exponent of a number, after its letter. -/
def exponentPart (value : Nat) (start : Int) (s : List UInt8) : Except Fault Number × List UInt8 :=
  let (negative, s) :=
    match s with
    | b :: rest => if b = 0x2d then (true, rest) else if b = 0x2b then (false, rest) else (false, s)
    | [] => (false, [])
  match s with
  | [] => (.error .truncated, [])
  | b :: rest =>
    match digit? b with
    | none => (.error .malformed, rest)
    | some d =>
      match exponentDigits d rest with
      | (some e, rest) => realNumber value (if negative then start - e else start + e) rest
      | (none, rest) =>
        if value ≠ 0 ∧ ¬negative then (.error .malformed, rest)
        else (.ok .real, rest.dropWhile fun b => (digit? b).isSome)

/-- The end of a number whose integer part was read. -/
def numberEnd (negative : Bool) (value beyond : Nat) (s : List UInt8) :
    Except Fault Number × List UInt8 :=
  match s with
  | b :: rest =>
    if b = 0x2e then
      match rest with
      | [] => (.error .truncated, [])
      | _ =>
        if startsWithDigit rest then
          let (value, places, rest) := fractionDigits value 0 rest
          let exponent : Int := beyond - places
          match rest with
          | e :: rest' =>
            if e = 0x65 ∨ e = 0x45 then exponentPart value exponent rest'
            else realNumber value exponent rest
          | [] => realNumber value exponent []
        else (.error .malformed, rest)
    else if b = 0x65 ∨ b = 0x45 then exponentPart value beyond rest
    else whole
  | [] => whole
where
  /-- A number that ends with its integer part. -/
  whole : Except Fault Number × List UInt8 :=
    if beyond ≠ 0 then realNumber value beyond s
    else if negative then
      if value = 0 ∨ value > Text.maxInt64 + 1 then (.ok .real, s)
      else (.ok (.integer (-(value : Int))), s)
    else (.ok (.integer value), s)

/-- A number, after its sign. -/
def numberBody (negative : Bool) : Reader Number
  | [] => (.error .truncated, [])
  | b :: rest =>
    match digit? b with
    | none => (.error .malformed, rest)
    | some 0 =>
      if startsWithDigit rest then (.error .malformed, rest) else numberEnd negative 0 0 rest
    | some _ =>
      let (value, beyond, rest) := integerDigits 0 0 (b :: rest)
      numberEnd negative value beyond rest

/-- Passes over a number, after its sign, without looking at its size. -/
def skipNumber : Reader Unit
  | [] => (.error .malformed, [])
  | b :: rest =>
    match digit? b with
    | none => (.error .malformed, rest)
    | some 0 => if startsWithDigit rest then (.error .malformed, rest) else tail rest
    | some _ => tail (dropDigits rest)
where
  /-- Drops digits. -/
  dropDigits (s : List UInt8) : List UInt8 := s.dropWhile fun b => (digit? b).isSome
  /-- Passes over a fraction and an exponent. -/
  tail : Reader Unit
    | b :: rest =>
      if b = 0x2e then
        if startsWithDigit rest then
          match dropDigits rest with
          | e :: rest' =>
            if e = 0x65 ∨ e = 0x45 then exponent rest' else (.ok (), e :: rest')
          | [] => (.ok (), [])
        else (.error .malformed, rest)
      else if b = 0x65 ∨ b = 0x45 then exponent rest
      else (.ok (), b :: rest)
    | [] => (.ok (), [])
  /-- Passes over an exponent, after its letter. -/
  exponent (s : List UInt8) : Except Fault Unit × List UInt8 :=
    let s := match s with
      | b :: rest => if b = 0x2d ∨ b = 0x2b then rest else s
      | [] => []
    if startsWithDigit s then (.ok (), dropDigits s) else (.error .malformed, s)

/-! ## Values nobody asked for -/

/-- What encloses a value. -/
inductive Frame where
  | list
  | record
deriving DecidableEq

/-- Passes over the key of an entry and the colon after it. -/
def skipKey : Reader Unit := do
  match ← peekToken with
  | none => fail .truncated
  | some b =>
    if b = 0x22 then
      advance
      skipString
      match ← peekToken with
      | none => fail .truncated
      | some b => if b = 0x3a then advance else fail .malformed
    else fail .malformed

mutual

/-- Passes over a value inside the frames of the stack, and over what closes them.  Every step takes
a byte, so `fuel` is enough if it exceeds the number of bytes. -/
def skipWithin (fuel : Nat) (stack : List Frame) : Reader Unit :=
  match fuel with
  | 0 => fail .truncated
  | fuel + 1 => do
    match ← peekToken with
    | none => fail .truncated
    | some b =>
      if b = 0x6e then do advance; letters "ull"; skipAfter fuel stack
      else if b = 0x74 then do advance; letters "rue"; skipAfter fuel stack
      else if b = 0x66 then do advance; letters "alse"; skipAfter fuel stack
      else if b = 0x2d then do advance; skipNumber; skipAfter fuel stack
      else if (digit? b).isSome then do skipNumber; skipAfter fuel stack
      else if b = 0x22 then do advance; skipString; skipAfter fuel stack
      else if b = 0x5b then do
        advance
        match ← peekToken with
        | none => fail .truncated
        | some c =>
          if c = 0x5d then do advance; skipAfter fuel stack
          else skipWithin fuel (.list :: stack)
      else if b = 0x7b then do
        advance
        match ← peekToken with
        | none => fail .truncated
        | some c =>
          if c = 0x7d then do advance; skipAfter fuel stack
          else do skipKey; skipWithin fuel (.record :: stack)
      else fail .malformed

/-- Passes over what follows a value inside the frames of the stack. -/
def skipAfter (fuel : Nat) (stack : List Frame) : Reader Unit :=
  match fuel, stack with
  | _, [] => pure ()
  | 0, _ => fail .truncated
  | fuel + 1, frame :: stack => do
    match ← peekToken with
    | none => fail .truncated
    | some b =>
      if b = 0x2c then do
        advance
        if frame = .record then skipKey
        skipWithin fuel (frame :: stack)
      else if (b = 0x5d ∧ frame = .list) ∨ (b = 0x7d ∧ frame = .record) then do
        advance
        skipAfter fuel stack
      else fail .malformed

end

/-- Passes over one value. -/
def skipValue : Reader Unit := do
  skipWithin ((← size) + 1) []

/-! ## Values of a wanted type -/

/-- Stops at a value that has the wrong type.  As much of it is read as tells its type, and a
problem found there comes first. -/
def wrongType : Reader α := do
  match ← peekToken with
  | none => fail .truncated
  | some b =>
    if b = 0x6e then do advance; letters "ull"
    else if b = 0x74 then do advance; letters "rue"
    else if b = 0x66 then do advance; letters "alse"
    else if b = 0x2d then do advance; let _ ← numberBody true
    else if (digit? b).isSome then do let _ ← numberBody false
    else if b = 0x22 then do advance; let _ ← stringBody
    else if b = 0x5b ∨ b = 0x7b then pure ()
    else fail .malformed
    fail .unfit

/-- A string. -/
def text : Reader String := do
  match ← peekToken with
  | none => fail .truncated
  | some b => if b = 0x22 then do advance; stringBody else wrongType

/-- A signed integer of sixty-four bits. -/
def int64 : Reader Int := do
  match ← peekToken with
  | none => fail .truncated
  | some b =>
    if b = 0x2d then do advance; fit (← numberBody true)
    else if (digit? b).isSome then fit (← numberBody false)
    else wrongType
where
  /-- The number as a signed integer of sixty-four bits. -/
  fit : Number → Reader Int
    | .integer n => if n ≤ Text.maxInt64 then pure n else fail .unfit
    | .real => fail .unfit

/-- A value that may be null. -/
def option (r : Reader α) : Reader (Option α) := do
  match ← peekToken with
  | none => some <$> r
  | some b => if b = 0x6e then do advance; letters "ull"; return none else some <$> r

/-! ## Lists -/

/-- Looks for the next item of a list: `false` at its end, which stays in the input. -/
def nextItem (first : Bool) : Reader Bool := do
  match ← peekToken with
  | none => fail .truncated
  | some b =>
    if b = 0x5d then return false
    else if first then return true
    else if b = 0x2c then do
      advance
      match ← peekToken with
      | none => fail .truncated
      | some c => if c = 0x5d then fail .malformed else return true
    else fail .malformed

/-- The end of a list. -/
def closeList : Reader Unit := do
  match ← peekToken with
  | none => fail .truncated
  | some b =>
    if b = 0x5d then advance
    else if b = 0x2c then do advance; fail .malformed
    else fail .malformed

/-- The end of a record. -/
def closeRecord : Reader Unit := do
  match ← peekToken with
  | none => fail .truncated
  | some b => if b = 0x7d then advance else fail .malformed

/-- Looks for the next key of a record and reads it: `none` at the end, which stays in the input. -/
def nextKey (first : Bool) : Reader (Option String) := do
  match ← peekToken with
  | none => fail .truncated
  | some b =>
    if b = 0x7d then return none
    else if first then key b
    else if b = 0x2c then do
      advance
      match ← peekToken with
      | none => fail .truncated
      | some c => key c
    else fail .malformed
where
  /-- The key that starts with this byte. -/
  key (b : UInt8) : Reader (Option String) := do
    if b = 0x22 then do advance; return some (← stringBody)
    else fail .malformed

/-- The colon between a key and its value. -/
def colon : Reader Unit := do
  match ← peekToken with
  | none => fail .truncated
  | some b => if b = 0x3a then advance else fail .malformed

/-- Reads a whole text: one value, and only blanks after it. -/
def document (r : Reader α) (bytes : List UInt8) : Except Fault α :=
  match r bytes with
  | (.ok a, rest) => if rest.all isBlank then .ok a else .error .malformed
  | (.error e, _) => .error e

end Reader

end Gatehouse.Json
