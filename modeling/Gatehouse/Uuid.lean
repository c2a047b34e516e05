/-
  Identifiers of 128 bits.

  An identifier is its thirty-two hexadecimal digits.  It is printed in lower case in five groups
  joined by hyphens, and read in either case from the plain digits, from the groups, from the groups
  in braces, or from the groups after `urn:uuid:`.
-/
import Gatehouse.Encoding
import Gatehouse.Text.CharClass

namespace Gatehouse

/-- An identifier: its thirty-two hexadecimal digits, the most significant first. -/
structure Uuid where
  /-- The digits. -/
  digits : Vector (Fin 16) 32
deriving DecidableEq, Repr

namespace Uuid

/-- The identifier with the value `n`. -/
def ofNat (n : Nat) : Uuid := ⟨.ofFn fun i => Fin.ofNat 16 (n >>> (4 * (31 - i.val)))⟩

/-- The value of an identifier. -/
def toNat (id : Uuid) : Nat := id.digits.toList.foldl (fun n d => n * 16 + d.val) 0

instance : Inhabited Uuid := ⟨ofNat 0⟩

instance : LT Uuid := ⟨fun a b => a.toNat < b.toNat⟩

instance (a b : Uuid) : Decidable (a < b) := inferInstanceAs (Decidable (a.toNat < b.toNat))

/-- The lengths of the groups. -/
def groupLengths : List Nat := [8, 4, 4, 4, 12]

/-- Splits digits into groups with hyphens between them. -/
def joinGroups : List Nat → List Char → List Char
  | [], l => l
  | [_], l => l
  | n :: lengths, l => l.take n ++ '-' :: joinGroups lengths (l.drop n)

/-- Undoes `joinGroups`: the digits of groups of these lengths with hyphens between them. -/
def splitGroups : List Nat → List Char → Option (List Char)
  | [], _ => none
  | [n], l => if l.length = n then some l else none
  | n :: lengths, l =>
    match l.drop n with
    | '-' :: rest => (splitGroups lengths rest).map (l.take n ++ ·)
    | _ => none

/-- The identifier with these digits. -/
def ofDigits? (l : List Char) : Option Uuid := do
  let digits ← l.mapM Hex.value?
  if h : digits.length = 32 then some ⟨⟨digits.toArray, by simp [h]⟩⟩ else none

/-- The identifier in groups. -/
def toChars (id : Uuid) : List Char :=
  joinGroups groupLengths (id.digits.toList.map fun d => Hex.digit d.val)

/-- The identifier in groups, as text. -/
def toText (id : Uuid) : String := String.ofList id.toChars

instance : ToString Uuid := ⟨toText⟩

/-- Reads the form with groups. -/
def ofGroups? (l : List Char) : Option Uuid := (splitGroups groupLengths l).bind ofDigits?

/-- Reads any of the four forms. -/
def ofChars? (l : List Char) : Option Uuid :=
  match l with
  | '\x7b' :: rest => if rest.getLast? = some '\x7d' then ofGroups? rest.dropLast else none
  | _ =>
    if l.length = 32 then ofDigits? l
    else if (l.take 9).map Char.toLower = "urn:uuid:".toList then ofGroups? (l.drop 9)
    else ofGroups? l

/-- Reads any of the four forms. -/
def ofText? (s : String) : Option Uuid := ofChars? s.toList

/-- Reads the identifier of a user, blanks around it allowed. -/
def ofUserText? (s : String) : Option Uuid := ofText? (Text.trim s)

/-- An identifier that sorts by the time it was made: milliseconds since 1970, the version 7, and a
sequence number that tells identifiers of one millisecond apart. -/
def ofTime (milliseconds sequence : Nat) : Uuid :=
  ofNat ((milliseconds % (1 <<< 48)) <<< 80 + 7 <<< 76 + (sequence >>> 62 % (1 <<< 12)) <<< 64 +
    2 <<< 62 + sequence % (1 <<< 62))

/-- The version that an identifier states. -/
def version (id : Uuid) : Nat := id.digits[12].val

end Uuid

end Gatehouse
