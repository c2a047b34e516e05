/-
  Decimal numerals.

  A numeral of a whole number is an optional sign and at least one ASCII digit, nothing else: no
  blanks, no digit groups, no other base.  Reading goes from left to right and stops at the first
  problem, so a numeral that leaves its range before its first wrong character is reported as too
  large.  Numerals with a fraction or an exponent are only told from other texts.
-/

namespace Gatehouse.Text

/-- Why a text is not a numeral of the wanted range. -/
inductive NumeralError where
  /-- There is no character at all. -/
  | empty
  /-- A character is not a digit, or there is only a sign. -/
  | invalidDigit
  /-- The number is above the range. -/
  | tooLarge
  /-- The number is below the range. -/
  | tooSmall
deriving DecidableEq, Repr

/-- The wording of each cause. -/
def NumeralError.message : NumeralError → String
  | .empty => "cannot parse integer from empty string"
  | .invalidDigit => "invalid digit found in string"
  | .tooLarge => "number too large to fit in target type"
  | .tooSmall => "number too small to fit in target type"

/-- The value of an ASCII digit. -/
def digit? (c : Char) : Option Nat :=
  if '0' ≤ c ∧ c ≤ '9' then some (c.toNat - '0'.toNat) else none

/-- Reads digits after the value `n`, as long as the value stays within `limit`. -/
def readDigits (limit : Nat) (beyond : NumeralError) (n : Nat) :
    List Char → Except NumeralError Nat
  | [] => .ok n
  | c :: rest =>
    match digit? c with
    | none => .error .invalidDigit
    | some d =>
      if 10 * n + d ≤ limit then readDigits limit beyond (10 * n + d) rest else .error beyond

/-- Reads the digits of a numeral: at least one. -/
def readMagnitude (limit : Nat) (beyond : NumeralError) : List Char → Except NumeralError Nat
  | [] => .error .invalidDigit
  | digits => readDigits limit beyond 0 digits

/-- The greatest signed 64-bit integer. -/
def maxInt64 : Nat := 0x7fffffffffffffff

/-- The greatest 64-bit number without a sign. -/
def maxNat64 : Nat := 0xffffffffffffffff

/-- The greatest 32-bit number without a sign. -/
def maxNat32 : Nat := 0xffffffff

/-- Reads a signed 64-bit integer. -/
def readInt64 (s : String) : Except NumeralError Int :=
  match s.toList with
  | [] => .error .empty
  | '+' :: digits => (readMagnitude maxInt64 .tooLarge digits).map Int.ofNat
  | '-' :: digits => (readMagnitude (maxInt64 + 1) .tooSmall digits).map fun n => -(n : Int)
  | digits => (readMagnitude maxInt64 .tooLarge digits).map Int.ofNat

/-- Reads a number without a minus sign, up to `limit`. -/
def readNat (limit : Nat) (s : String) : Except NumeralError Nat :=
  match s.toList with
  | [] => .error .empty
  | '+' :: digits => readMagnitude limit .tooLarge digits
  | digits => readMagnitude limit .tooLarge digits

/-! ## Numbers with a fraction or an exponent -/

/-- A text without a sign in front. -/
def dropSign : List Char → List Char
  | '+' :: rest => rest
  | '-' :: rest => rest
  | l => l

/-- Tells whether a list has only digits, and at least one. -/
def isDigits (l : List Char) : Bool := !l.isEmpty && l.all Char.isDigit

/-- Tells whether a text without a sign is a number: digits, perhaps with a point before, among or
after them, and perhaps with an exponent. -/
def isUnsignedReal (l : List Char) : Bool :=
  let mantissa := l.takeWhile fun c => c ≠ 'e' && c ≠ 'E'
  let whole := mantissa.takeWhile (· ≠ '.')
  let fraction := (mantissa.drop whole.length).drop 1
  isDigits (whole ++ fraction) &&
    match l.drop mantissa.length with
    | [] => true
    | _ :: exponent => isDigits (dropSign exponent)

/-- Tells whether a text is a number or the name of what is no number or beyond all numbers. -/
def isReal (s : String) : Bool :=
  let l := dropSign s.toList
  isUnsignedReal l ||
    ["inf", "infinity", "nan"].contains (String.ofList (l.map Char.toLower))

example : isReal "+1.5e-3" && isReal ".5" && isReal "5." && isReal "-Inf" && !isReal "." &&
    !isReal "1e" := by
  decide +kernel

example : (readInt64 "-9223372036854775808").toOption = some (-9223372036854775808) := by decide

end Gatehouse.Text
