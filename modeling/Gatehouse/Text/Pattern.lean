/-
  Well-formed patterns.

  A pattern is a regular expression: literals, classes in brackets, groups, alternatives and
  repetitions.  `isPattern` tells whether a text is one.  A pattern is refused also if it asks for
  what we have no tables for: classes of letters, digits or blanks beyond ASCII, other cases of a
  character, or the borders of words, unless it is restricted to ASCII by a flag; and once it is
  restricted, it must not ask for what is not ASCII.

  Groups nest, and what a flag says holds up to the end of the group that it stands in.  So reading
  keeps the flags of the open groups in a list and needs no tree.
-/
import Gatehouse.Text.CharClass

namespace Gatehouse.Text

namespace Pattern

/-! ## Flags -/

/-- What the flags of a pattern say. -/
structure Flags where
  /-- Letters stand for themselves in both cases. -/
  anyCase : Bool := false
  /-- Characters beyond ASCII count. -/
  wide : Bool := true
  /-- Blanks and comments are passed over. -/
  spaced : Bool := false
deriving DecidableEq, Repr

/-- Tells whether a character may stand for itself. -/
def Flags.allowsLiteral (f : Flags) : Bool := !(f.anyCase && f.wide)

/-- Tells whether a character may stand in a class. -/
def Flags.allowsMember (f : Flags) (c : Char) : Bool := if f.wide then !f.anyCase else c < '\x80'

/-- Drops a comment, up to the end of its line. -/
def dropComment (l : List Char) : List Char := (l.dropWhile (· ≠ '\n')).drop 1

/-- Drops blanks and comments.  Each takes a character, so `fuel` is enough if it is the number of
characters. -/
def dropSpace : Nat → List Char → List Char
  | 0, l => l
  | fuel + 1, l =>
    match l with
    | [] => []
    | c :: rest =>
      if isBlank c then dropSpace fuel rest
      else if c = '#' then dropSpace fuel (dropComment rest)
      else c :: rest

/-- What comes next, after blanks and comments if these are passed over. -/
def Flags.next (f : Flags) (l : List Char) : List Char :=
  if f.spaced then dropSpace l.length l else l

/-- Sets or unsets a flag, if there is one with this letter. -/
def Flags.set? (f : Flags) (on : Bool) (c : Char) : Option Flags :=
  match c with
  | 'i' => some { f with anyCase := on }
  | 'u' => some { f with wide := on }
  | 'x' => some { f with spaced := on }
  | 'm' | 's' | 'U' | 'R' => some f
  | _ => none

/-- Reads flags up to a colon or a closing parenthesis, which is left.  `seen` holds the letters so
far, with the minus sign. -/
def readFlags? (f : Flags) (on : Bool) (seen : List Char) :
    List Char → Option (Flags × List Char × List Char)
  | [] => none
  | c :: rest =>
    if c = ':' ∨ c = ')' then if seen.head? = some '-' then none else some (f, seen, c :: rest)
    else if seen.contains c then none
    else if c = '-' then readFlags? f false (c :: seen) rest
    else
      match f.set? on c with
      | some f => readFlags? f on (c :: seen) rest
      | none => none

/-! ## Escapes -/

/-- What a single item of a pattern stands for. -/
inductive Item where
  /-- A character. -/
  | char (c : Char)
  /-- A class of characters. -/
  | charClass
  /-- A place between characters. -/
  | place
deriving DecidableEq, Repr

/-- The value of a hexadecimal digit. -/
def hexDigit? (c : Char) : Option Nat :=
  if '0' ≤ c ∧ c ≤ '9' then some (c.toNat - 48)
  else if 'a' ≤ c ∧ c ≤ 'f' then some (c.toNat - 87)
  else if 'A' ≤ c ∧ c ≤ 'F' then some (c.toNat - 55)
  else none

/-- Reads so many hexadecimal digits after the value `n`. -/
def readHex? (f : Flags) : (digits n : Nat) → List Char → Option (Nat × List Char)
  | 0, n, l => some (n, l)
  | digits + 1, n, l =>
    match f.next l with
    | [] => none
    | c :: rest => do readHex? f digits (n * 16 + (← hexDigit? c)) rest

/-- Reads the character with a code point of so many digits. -/
def readCode? (f : Flags) (digits : Nat) (l : List Char) : Option (Item × List Char) := do
  let (n, rest) ← readHex? f digits 0 l
  if n.isValidChar then some (.char (Char.ofNat n), rest) else none

/-- Reads the character with a code of two digits.  Restricted to ASCII, it must be of ASCII. -/
def readByte? (f : Flags) (l : List Char) : Option (Item × List Char) := do
  let (n, rest) ← readHex? f 2 0 l
  if f.wide || n < 0x80 then some (.char (Char.ofNat n), rest) else none

/-- Reads what follows a backslash. -/
def readEscape? (f : Flags) : List Char → Option (Item × List Char)
  | [] => none
  | c :: rest =>
    match c with
    | 'x' => readByte? f rest
    | 'u' => readCode? f 4 rest
    | 'U' => readCode? f 8 rest
    | 'd' | 's' | 'w' => if f.wide then none else some (.charClass, rest)
    | 'b' | 'B' | '<' | '>' => if f.wide then none else some (.place, rest)
    | 'A' | 'z' => some (.place, rest)
    | 'a' => some (.char '\x07', rest)
    | 'f' => some (.char '\x0c', rest)
    | 't' => some (.char '\t', rest)
    | 'n' => some (.char '\n', rest)
    | 'r' => some (.char '\r', rest)
    | 'v' => some (.char '\x0b', rest)
    | c => if c < '\x80' && !c.isAlphanum then some (.char c, rest) else none

/-! ## Classes in brackets -/

/-- Reads a member of a class, or one end of a range. -/
def readMember? (f : Flags) : List Char → Option (Item × List Char)
  | [] => none
  | c :: rest => if c = '\\' then readEscape? f rest else some (.char c, rest)

/-- Tells whether an item may be a member of a class. -/
def isMember (f : Flags) : Item → Bool
  | .char c => f.allowsMember c
  | .charClass => true
  | .place => false

/-- Tells whether items may be the ends of a range. -/
def isRange (f : Flags) : Item → Item → Bool
  | .char c, .char d => c ≤ d && f.allowsMember d
  | _, _ => false

/-- Reads a member of a class or a range. -/
def readRange? (f : Flags) (l : List Char) : Option (List Char) := do
  let (item, rest) ← readMember? f l
  let rest := f.next rest
  let after := f.next rest.tail
  if rest.isEmpty then none
  else if rest.head? ≠ some '-' ∨ after.head? = some ']' ∨ after.head? = some '-' then
    if isMember f item then some rest else none
  else
    let (last, rest) ← readMember? f after
    if isRange f item last then some rest else none

/-- Reads the hyphens at the beginning of a class, which are members. -/
def readHyphens? (f : Flags) : Nat → List Char → Option (List Char)
  | fuel + 1, '-' :: rest =>
    if f.allowsMember '-' then readHyphens? f fuel (f.next rest) else none
  | _, l => some l

/-- Reads the beginning of a class after its bracket: a circumflex turns it round, hyphens are
members, and so is a closing bracket in the first place. -/
def openClass? (f : Flags) (l : List Char) : Option (List Char) := do
  let l ← match f.next l with
    | '^' :: rest => if f.wide then some (f.next rest) else none
    | l => some l
  match l with
  | ']' :: rest => if f.allowsMember ']' then some rest else none
  | l => readHyphens? f l.length l

/-- Reads a class up to the end of the outermost of `depth` open ones. -/
def readClass? (f : Flags) : Nat → (depth : Nat) → List Char → Option (List Char)
  | 0, _, _ => none
  | fuel + 1, depth, l =>
    match f.next l with
    | [] => none
    | '[' :: rest => do readClass? f fuel (depth + 1) (← openClass? f rest)
    | ']' :: rest => if depth ≤ 1 then some rest else readClass? f fuel (depth - 1) rest
    | '&' :: '&' :: rest => readClass? f fuel depth rest
    | '-' :: '-' :: rest => readClass? f fuel depth rest
    | '~' :: '~' :: rest => readClass? f fuel depth rest
    | l => do readClass? f fuel depth (← readRange? f l)

/-! ## Groups -/

/-- Reads the name of a group and the angle bracket after it. -/
def readName? (l : List Char) : Option (String × List Char) :=
  let name := l.takeWhile (· ≠ '>')
  match name, l.dropWhile (· ≠ '>') with
  | c :: more, _ :: rest =>
    if (c = '_' || isAlphabetic c) &&
        more.all fun c => c = '_' || c = '.' || c = '[' || c = ']' || isAlphanumeric c
    then some (String.ofList name, rest) else none
  | _, _ => none

/-- What a parenthesis begins. -/
inductive Opening where
  /-- A group, with its name if it has one. -/
  | group (name : Option String)
  /-- A change of flags. -/
  | flags
deriving DecidableEq, Repr

/-- Reads the beginning of a group after its parenthesis, or flags on their own.  Looking around is
not supported. -/
def openGroup? (f : Flags) (l : List Char) : Option (Opening × Flags × List Char) :=
  match f.next l with
  | '?' :: '=' :: _ | '?' :: '!' :: _ | '?' :: '<' :: '=' :: _ | '?' :: '<' :: '!' :: _ => none
  | '?' :: 'P' :: '<' :: rest | '?' :: '<' :: rest =>
    (readName? rest).map fun (name, rest) => (.group (some name), f, rest)
  | '?' :: rest =>
    match readFlags? f true [] rest with
    | some (f, _, ':' :: rest) => some (.group none, f, rest)
    | some (f, seen, _ :: rest) => if seen.isEmpty then none else some (.flags, f, rest)
    | _ => none
  | l => some (.group none, f, l)

/-! ## Patterns -/

/-- Where the reading of a pattern stands. -/
structure Reading where
  /-- The flags that hold. -/
  flags : Flags := {}
  /-- The flags before each open group. -/
  outer : List Flags := []
  /-- The names of groups so far. -/
  names : List String := []
  /-- Whether there is something that can be repeated. -/
  operand : Bool := false

/-- Takes what a parenthesis begins. -/
def Reading.enter (r : Reading) (opening : Opening) (f : Flags) : Option Reading :=
  match opening with
  | .flags => some { r with flags := f, operand := false }
  | .group none => some { r with flags := f, outer := r.flags :: r.outer, operand := false }
  | .group (some name) =>
    if r.names.contains name then none
    else some { r with
      flags := f, outer := r.flags :: r.outer, names := name :: r.names, operand := false }

/-- Leaves a group. -/
def Reading.leave (r : Reading) : Option Reading :=
  match r.outer with
  | [] => none
  | f :: outer => some { r with flags := f, outer, operand := true }

/-- Drops the mark of a repetition that takes as little as it can. -/
def dropLazy : List Char → List Char
  | '?' :: rest => rest
  | l => l

/-- Tells whether an item may stand by itself. -/
def isOperand (f : Flags) : Item → Bool
  | .char _ => f.allowsLiteral
  | _ => true

/-- Reads one step of a pattern.  A repetition with counts in braces is never complete, because a
closing brace ends the text that a pattern is taken from. -/
def Reading.step (r : Reading) (c : Char) (rest : List Char) : Option (Reading × List Char) :=
  let taken := { r with operand := true }
  match c with
  | '(' => do
    let (opening, f, rest) ← openGroup? r.flags rest
    return (← r.enter opening f, rest)
  | ')' => do return (← r.leave, rest)
  | '|' => some ({ r with operand := false }, rest)
  | '[' => do
    return (taken, ← readClass? r.flags (rest.length + 1) 1 (← openClass? r.flags rest))
  | '?' | '*' | '+' => if r.operand then some (taken, dropLazy rest) else none
  | '{' => none
  | '\\' => do
    let (item, rest) ← readEscape? r.flags rest
    if isOperand r.flags item then some (taken, rest) else none
  | '.' => if r.flags.wide then some (taken, rest) else none
  | '^' | '$' => some (taken, rest)
  | c => if isOperand r.flags (.char c) then some (taken, rest) else none

/-- Reads a pattern to its end.  Every step takes a character, so `fuel` is enough if it exceeds
their number. -/
def Reading.run : Nat → Reading → List Char → Bool
  | 0, _, _ => false
  | fuel + 1, r, l =>
    match r.flags.next l with
    | [] => r.outer.isEmpty
    | c :: rest =>
      match r.step c rest with
      | some (r, rest) => run fuel r rest
      | none => false

end Pattern

/-- Tells whether a text is a pattern. -/
def isPattern (s : String) : Bool := Pattern.Reading.run (s.toList.length + 1) {} s.toList

example : isPattern "a(b|[^c-e])*?" && !isPattern "(" && !isPattern "*" && !isPattern "[b-a]" := by
  decide +kernel

end Gatehouse.Text
