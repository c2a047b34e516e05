/-
  Variables kept in a file.

  A file of variables has assignments `NAME=value`, one on a line, perhaps after the word `export`;
  a number sign after a blank starts a comment.  A value may be quoted.  Single quotes keep every
  character; in double quotes and outside of quotes a backslash escapes, and a dollar sign puts in
  the value of another variable.  A line whose quotes are still open goes on with the next line.

  The variables of the environment come first: an assignment to a variable that is already set does
  nothing, and so the first of two assignments wins.  Reading stops at the first line that is wrong;
  what was assigned before stays.
-/
import Gatehouse.Config
import Gatehouse.Text.CharClass

namespace Gatehouse.EnvFile

open Text

/-! ## Lines -/

/-- Cuts a text after every line break. -/
def physicalLines : List Char → List (List Char)
  | [] => []
  | c :: rest =>
    if c = '\n' then [c] :: physicalLines rest
    else
      match physicalLines rest with
      | [] => [[c]]
      | line :: lines => (c :: line) :: lines

/-- Where the search for the end of a line stands. -/
inductive Place where
  /-- Outside of quotes. -/
  | plain
  /-- Outside of quotes, after a blank. -/
  | gap
  /-- After a backslash outside of quotes. -/
  | escape
  /-- In single quotes. -/
  | single
  /-- After a backslash in single quotes. -/
  | singleEscape
  /-- In double quotes. -/
  | double
  /-- After a backslash in double quotes. -/
  | doubleEscape
deriving DecidableEq, Repr

/-- The place after a character, where a blank does not open a gap. -/
def Place.opened (c : Char) : Place :=
  if c = '\\' then .escape
  else if c = '"' then .double
  else if c = '\'' then .single
  else .plain

/-- The place after one more character. -/
def Place.step (p : Place) (c : Char) : Place :=
  match p with
  | .plain => if isBlank c && c != '\n' && c != '\r' then .gap else Place.opened c
  | .gap => Place.opened c
  | .escape => .plain
  | .single => if c = '\\' then .singleEscape else if c = '\'' then .plain else .single
  | .singleEscape => .single
  | .double => if c = '\\' then .doubleEscape else if c = '"' then .plain else .double
  | .doubleEscape => .double

/-- Reads a physical line from a place on: what comes before a comment, and the place at the end, or
nothing if a comment ends the line. -/
def scan : Place → List Char → List Char × Option Place
  | p, [] => ([], some p)
  | p, c :: rest =>
    if p = .gap ∧ c = '#' then ([], none)
    else
      let (kept, last) := scan (p.step c) rest
      (c :: kept, last)

/-- A text without the line break at its end. -/
def dropLineBreak (l : List Char) : List Char :=
  match l.reverse with
  | '\n' :: '\r' :: rest => rest.reverse
  | '\n' :: rest => rest.reverse
  | _ => l

/-- Joins physical lines as long as something is open.  The second and the third argument are the
line read so far and the place in it.  What is still open at the end of the file is no line. -/
def joinLines : List (List Char) → List Char → Place → List (List Char)
  | [], _, _ => []
  | line :: rest, before, place =>
    let all := before ++ line
    if (all.dropWhile isBlank).head? = some '#' then joinLines rest [] .plain
    else
      match scan place line with
      | (kept, none) => (before ++ kept) :: joinLines rest [] .plain
      | (_, some .plain) => dropLineBreak all :: joinLines rest [] .plain
      | (_, some place) => joinLines rest all place

/-- A text without the mark that may stand before it to tell its encoding. -/
def dropByteOrderMark : List Char → List Char
  | '\ufeff' :: rest => rest
  | l => l

/-- The lines of a file, without comments that have a line of their own. -/
def lines (text : String) : List (List Char) :=
  joinLines (physicalLines (dropByteOrderMark text.toList)) [] .plain

/-! ## Values -/

/-- Where the reading of a value stands. -/
inductive Reading where
  /-- Between the special characters. -/
  | plain
  /-- After a backslash. -/
  | escaped
  /-- In single quotes. -/
  | single
  /-- In the name of a variable. -/
  | named (name : String)
  /-- In the name of a variable in braces. -/
  | braced (name : String)
  /-- After the value, where only blanks and a comment may follow. -/
  | ended
deriving DecidableEq, Repr

/-- The character behind a backslash and a letter. -/
def unescape? (c : Char) : Option Char :=
  if c = 'n' then some '\n'
  else if "\\'\"$ ".toList.contains c then some c
  else none

/-- The variable that is looked up for a name.  No variable has an equals sign in its name, so the
name ends there. -/
def key (name : String) : String := String.ofList (name.toList.takeWhile (· ≠ '='))

/-- The value under a name, empty if there is none.  A variable and its value are looked up as one
text with an equals sign between them, so a name with an equals sign stands for the value of a
variable after this beginning of it and one more equals sign. -/
def valueOf (vars : Variables) (name : String) : String :=
  let begun := name.toList.drop ((key name).length + 1)
  match vars (key name) with
  | none => ""
  | some value =>
    if name.toList.contains '=' then
      if (begun ++ ['=']).isPrefixOf value.toList
      then String.ofList (value.toList.drop (begun.length + 1)) else ""
    else value

/-- Reads a value to its end.  `quoted` tells whether double quotes are open, and `out` is what has
been read so far. -/
def readValue (vars : Variables) : Reading → (quoted : Bool) → (out : String) → List Char →
    Option String
  | .plain, quoted, out, [] => if quoted then none else some out
  | .escaped, quoted, out, [] => if quoted then none else some out
  | .single, _, _, [] => none
  | .named name, quoted, out, [] => if quoted then none else some (out ++ valueOf vars name)
  | .braced _, _, _, [] => none
  | .ended, _, out, [] => some out
  | .ended, quoted, out, c :: rest =>
    if c = ' ' ∨ c = '\t' then readValue vars .ended quoted out rest
    else if c = '#' then some out
    else none
  | .escaped, quoted, out, c :: rest =>
    match unescape? c with
    | some d => readValue vars .plain quoted (out.push d) rest
    | none => none
  | .single, quoted, out, c :: rest =>
    if c = '\'' then readValue vars .plain quoted out rest
    else readValue vars .single quoted (out.push c) rest
  | .named name, quoted, out, c :: rest =>
    if isAlphanumeric c then readValue vars (.named (name.push c)) quoted out rest
    else if c = '\x7b' ∧ name.isEmpty then readValue vars (.braced "") quoted out rest
    else if c = '$' then readValue vars (.named "") quoted (out ++ valueOf vars name) rest
    else readValue vars .plain quoted ((out ++ valueOf vars name).push c) rest
  | .braced name, quoted, out, c :: rest =>
    if c = '\x7d' then readValue vars .plain quoted (out ++ valueOf vars name) rest
    else readValue vars (.braced (name.push c)) quoted out rest
  | .plain, quoted, out, c :: rest =>
    if c = '$' then readValue vars (.named "") quoted out rest
    else if c = '\\' then readValue vars .escaped quoted out rest
    else if c = '"' then readValue vars .plain (!quoted) out rest
    else if quoted then readValue vars .plain quoted (out.push c) rest
    else if c = '\'' then readValue vars .single quoted out rest
    else if c = ' ' ∨ c = '\t' then readValue vars .ended quoted out rest
    else readValue vars .plain quoted (out.push c) rest

/-! ## Assignments -/

/-- Reads a name: a letter or an underscore, then letters, digits, underscores and points. -/
def readName? (l : List Char) : Option (String × List Char) :=
  match l with
  | [] => none
  | c :: _ =>
    if c.isAlpha || c == '_' then
      let isPart (c : Char) : Bool := c.isAlphanum || c == '_' || c == '.'
      some (String.ofList (l.takeWhile isPart), (l.dropWhile isPart).dropWhile isBlank)
    else none

/-- What follows an equals sign. -/
def afterEquals? : List Char → Option (List Char)
  | '=' :: rest => some rest
  | _ => none

/-- What a line says. -/
inductive Line where
  /-- Nothing. -/
  | nothing
  /-- That a variable has a value. -/
  | assign (name value : String)
deriving DecidableEq, Repr

/-- Reads the value that is assigned to a name. -/
def readAssigned? (vars : Variables) (name : String) (l : List Char) : Option Line :=
  let l := l.dropWhile isBlank
  if l.isEmpty ∨ l.head? = some '#' then some (.assign name "")
  else (readValue vars .plain false "" l).map (.assign name)

/-- Reads a line, if it is right.  The word `export` may be a name itself. -/
def readLine? (vars : Variables) (line : List Char) : Option Line :=
  let l := trimChars line
  if l.isEmpty ∨ l.head? = some '#' then some .nothing
  else do
    let (name, rest) ← readName? l
    match afterEquals? rest with
    | some value => readAssigned? vars name value
    | none =>
      if name = "export" then
        let (name, rest) ← readName? rest
        readAssigned? vars name (← afterEquals? rest)
      else none

/-- The variables with one more, unless it is set already. -/
def withDefault (vars : Variables) (name value : String) : Variables := fun n =>
  match vars n with
  | some v => some v
  | none => if n = name then some value else none

/-- Takes over what lines say up to the first that is wrong. -/
def loadLines : List (List Char) → Variables → Variables
  | [], vars => vars
  | line :: rest, vars =>
    match readLine? vars line with
    | none => vars
    | some .nothing => loadLines rest vars
    | some (.assign name value) => loadLines rest (withDefault vars name value)

/-- Takes over what a file says. -/
def load (text : String) (vars : Variables) : Variables := loadLines (lines text) vars

/-- The variables that values of a file may refer to. -/
def references : List Char → List String
  | [] => []
  | '$' :: rest =>
    String.ofList (rest.takeWhile isAlphanumeric) ::
      key (String.ofList ((rest.drop 1).takeWhile (· != '\x7d'))) :: references rest
  | _ :: rest => references rest

end Gatehouse.EnvFile
