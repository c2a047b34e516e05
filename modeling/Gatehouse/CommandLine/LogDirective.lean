/-
  Directives: what a filter of the log is made of.

  A directive is a level, or a target, or both with an equals sign between them.  Square brackets
  after the target restrict it to a span, and braces in them to what has a field, perhaps with a
  value: `target[span{field=value}]=level`.  Without a level everything is meant.

  Blanks around a directive do not count when its marks are looked for, but they do when its parts
  are cut out: the places of the marks are those in the trimmed text, and the parts are what stands
  between these places in the text as given.  So a blank before a directive moves all its parts.
-/
import Gatehouse.Encoding
import Gatehouse.Text.CharClass
import Gatehouse.Text.Numeral
import Gatehouse.Text.Pattern
import Gatehouse.Text.Split

namespace Gatehouse

/-- A restriction to what has a field. -/
structure LogDirective.Restriction where
  /-- The name of the field. -/
  name : String
  /-- The pattern of its value, if that matters. -/
  value : Option String := none
deriving DecidableEq, Repr

/-- A directive. -/
structure LogDirective where
  /-- The targets that it covers begin with this, if there is one. -/
  target : Option String := none
  /-- The span that it is restricted to. -/
  span : Option String := none
  /-- The field that it is restricted to. -/
  field : Option LogDirective.Restriction := none
  /-- How verbose a line may be. -/
  verbosity : Nat := 5
deriving DecidableEq, Repr

namespace LogDirective

/-! ## Parts -/

/-- The names of the levels, from silence on. -/
def levelNames : List String := ["off", "error", "warn", "info", "debug", "trace"]

/-- Reads a level: its name in letters of either case, or its place in the order. -/
def readLevel? (s : String) : Option Nat :=
  match Text.readNat 5 s with
  | .ok n => some n
  | .error _ => levelNames.idxOf? (s.map Char.toLower)

/-- Reads the level after an equals sign; nothing stands for the most verbose one. -/
def readBound? (s : String) : Option Nat := if s.isEmpty then some 5 else readLevel? s

/-- Tells whether a target may begin with a character. -/
def beginsTarget (c : Char) : Bool := Text.isAlphanumeric c || c == '-' || c == ':' || c == '_'

/-- Reads a restriction to a field.  The value must be a number or a pattern, and what follows a
second equals sign does not matter. -/
def Restriction.ofText? (s : String) : Option Restriction :=
  match Text.split '=' s with
  | name :: value :: _ =>
    if Text.isReal value || Text.isPattern value then some { name, value := some value } else none
  | _ => if s.isEmpty then none else some { name := s }

/-- The part of a text between two places, counted in bytes, if they are between characters. -/
def part? (s : String) (first last : Nat) : Option String :=
  Text.ofUtf8? (((Text.utf8 s).drop first).take (last - first))

/-! ## Reading -/

/-- Where the reading of a directive stands.  A number is the place at which a part begins. -/
inductive Place where
  /-- Before the first character. -/
  | start
  /-- In a target, or in a level without one. -/
  | target
  /-- In the name of a span. -/
  | span (first : Nat)
  /-- In a restriction to a field. -/
  | field (first : Nat)
  /-- After the restriction, where the brackets must end. -/
  | closing
  /-- After the brackets, where only an equals sign may follow. -/
  | closed
  /-- In a level after an equals sign. -/
  | level (first : Nat)
deriving DecidableEq, Repr

/-- Goes on with a character at a place of a text: the directive so far, and where the reading
stands then. -/
def step (s : String) (d : LogDirective) (p : Place) (i : Nat) (c : Char) :
    Option (LogDirective × Place) :=
  match p with
  | .start =>
    if c = '[' then some (d, .span (i + 1)) else if beginsTarget c then some (d, .target) else none
  | .target =>
    if c = '=' then do return ({ d with target := some (← part? s 0 i) }, .level (i + 1))
    else if c = '[' then do return ({ d with target := some (← part? s 0 i) }, .span (i + 1))
    else some (d, p)
  | .span first =>
    if c = ']' then do return ({ d with span := some (← part? s first i) }, .closed)
    else if c = '\x7b' then do
      let name ← part? s first i
      return ({ d with span := if name.isEmpty then none else some name }, .field (i + 1))
    else some (d, p)
  | .field first =>
    if c = '\x7d' then do
      return ({ d with field := some (← Restriction.ofText? (← part? s first i)) }, .closing)
    else some (d, p)
  | .closing => if c = ']' then some (d, .closed) else none
  | .closed => if c = '=' then some (d, .level (i + 1)) else none
  | .level _ => some (d, p)

/-- Ends the reading of a text. -/
def finish (s : String) (d : LogDirective) : Place → Option LogDirective
  | .target =>
    match readLevel? s with
    | some verbosity => some { d with verbosity }
    | none => some { d with target := some s }
  | .level first => do return { d with verbosity := ← readBound? (← part? s first s.utf8ByteSize) }
  | .closed => some d
  | _ => none

/-- Reads the characters from a place on. -/
def readFrom? (s : String) (d : LogDirective) (p : Place) (i : Nat) :
    List Char → Option LogDirective
  | [] => finish s d p
  | c :: rest =>
    match step s d p i c with
    | some (d, p) => readFrom? s d p (i + c.utf8Size) rest
    | none => none

/-- Reads a directive. -/
def ofText? (s : String) : Option LogDirective :=
  readFrom? s {} .start 0 (Text.trimChars s.toList)

example : ofText? "gate[\x7bbind_addr\x7d]=Off" =
    some { target := some "gate", field := some { name := "bind_addr" }, verbosity := 0 } := by
  decide +kernel

/-! ## What a directive covers -/

/-- Tells whether a directive is about lines outside of spans: it asks for no span and for no value
of a field. -/
def coversEvents (d : LogDirective) : Bool := d.span.isNone && d.field.all (·.value.isNone)

/-- Tells whether a directive covers a line with a target and these fields. -/
def covers (d : LogDirective) (target : String) (fields : List String) : Bool :=
  d.coversEvents && (d.target.getD "").toList.isPrefixOf target.toList &&
    d.field.all fun field => fields.contains field.name

/-- How specific a directive is by its target: one without a target least. -/
def weight (d : LogDirective) : Nat :=
  match d.target with
  | none => 0
  | some t => t.utf8ByteSize + 1

/-- Tells whether one directive is less specific than another: its target is shorter, or only the
other one asks for a field.  Two that ask for different fields go by the names of these. -/
def isBelow (d e : LogDirective) : Bool :=
  d.weight < e.weight || d.weight = e.weight &&
    match d.field, e.field with
    | none, some _ => true
    | some f, some g => f.name < g.name
    | _, none => false

/-- The more specific of two directives; the later one if neither is. -/
def max (d e : LogDirective) : LogDirective := if e.isBelow d then d else e

end LogDirective

end Gatehouse
