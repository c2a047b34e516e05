/-
  Network addresses.

  An address has four bytes or eight groups of sixteen bits.  Eight groups are printed in lower case
  with the first longest run of two or more zero groups left out, or, where they only embed an
  address of four bytes, with that address at the end.  Reading takes an address together with a
  port, and forgets the port and the zone.
-/
import Gatehouse.Encoding
import Gatehouse.Text.Numeral
import Gatehouse.Text.Split

namespace Gatehouse

/-- A network address. -/
inductive Address where
  /-- Four bytes. -/
  | v4 (a b c d : UInt8)
  /-- Eight groups of sixteen bits. -/
  | v6 (groups : Vector UInt16 8)
deriving DecidableEq, Repr

namespace Address

/-- Four bytes in decimal with points between them. -/
def dotted (a b c d : Nat) : String := s!"{a}.{b}.{c}.{d}"

/-- The place and the length of the first longest run of zeros. -/
def longestZeros (groups : List Nat) : Nat × Nat :=
  let runs := (List.range groups.length).map fun i =>
    (i, ((groups.drop i).takeWhile (· == 0)).length)
  runs.foldl (fun best run => if best.2 < run.2 then run else best) (0, 0)

/-- Groups in hexadecimal with colons between them. -/
def colons (groups : List Nat) : String :=
  ":".intercalate (groups.map fun g => String.ofList (Nat.toDigits 16 g))

/-- The text of an address. -/
def toText : Address → String
  | v4 a b c d => dotted a.toNat b.toNat c.toNat d.toNat
  | v6 groups =>
    let groups := groups.toList.map UInt16.toNat
    match groups with
    | [0, 0, 0, 0, 0, 0xffff, p, q] =>
      "::ffff:" ++ dotted (p / 256) (p % 256) (q / 256) (q % 256)
    | _ =>
      let (first, length) := longestZeros groups
      if length ≤ 1 then colons groups
      else colons (groups.take first) ++ "::" ++ colons (groups.drop (first + length))

/-- Reads one of the four bytes: no leading zeros, at most 255. -/
def readByte? (s : String) : Option UInt8 :=
  if s.length = 0 ∨ 3 < s.length ∨ (s.length ≠ 1 ∧ s.startsWith "0") then none
  else if s.toList.all fun c => '0' ≤ c ∧ c ≤ '9' then
    (Text.readNat 255 s).toOption.map UInt8.ofNat
  else none

/-- Reads four bytes with points between them. -/
def readDotted? (s : String) : Option (List UInt8) :=
  let parts := Text.split '.' s
  if parts.length = 4 then parts.mapM readByte? else none

/-- Reads a group of sixteen bits: one to four hexadecimal digits. -/
def readGroup? (s : String) : Option UInt16 :=
  if s.length = 0 ∨ 4 < s.length then none
  else (s.toList.mapM Hex.value?).map fun ds => .ofNat (ds.foldl (fun n d => n * 16 + d.val) 0)

/-- Two bytes as a group. -/
def group (a b : UInt8) : UInt16 := .ofNat (a.toNat * 256 + b.toNat)

/-- Reads groups; the last may be four bytes with points, which make two groups. -/
def readGroups? : List String → Option (List UInt16)
  | [] => some []
  | [s] =>
    match readDotted? s with
    | some [a, b, c, d] => some [group a b, group c d]
    | _ => (readGroup? s).map ([·])
  | s :: rest => do return (← readGroup? s) :: (← readGroups? rest)

/-- Reads one side of the gap in an address of groups. -/
def readSide? (s : String) : Option (List UInt16) :=
  if s.isEmpty then some [] else readGroups? (Text.split ':' s)

/-- The address of some groups, if there are eight. -/
def ofGroups? (groups : List UInt16) : Option Address :=
  if h : groups.length = 8 then some (v6 ⟨groups.toArray, h⟩) else none

/-- Reads eight groups, some of which may be left out. -/
def readV6? (s : String) : Option Address :=
  match s.splitOn "::" with
  | [all] => do
    ofGroups? (← readGroups? (Text.split ':' all))
  | [front, back] => do
    let front ← readSide? front
    let back ← readSide? back
    let gap := 8 - (front.length + back.length)
    if gap = 0 then none else ofGroups? (front ++ List.replicate gap 0 ++ back)
  | _ => none

/-- Reads the address of a pair of address and port. -/
def ofPeer? (peer : String) : Option Address :=
  if peer.startsWith "[" then
    match (String.ofList (peer.toList.drop 1)).splitOn "]:" with
    | [inner, _] => readV6? (String.ofList (inner.toList.takeWhile (· ≠ '%')))
    | _ => none
  else
    match Text.split ':' peer with
    | [bytes, _] =>
      match readDotted? bytes with
      | some [a, b, c, d] => some (v4 a b c d)
      | _ => none
    | _ => none

end Address

end Gatehouse
