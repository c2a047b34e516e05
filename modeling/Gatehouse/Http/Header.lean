/-
  Header fields.

  A field has a name, whose case does not matter, and a value of bytes.  Fields may repeat, and the
  first one counts.  A value can be read as text only if all its bytes are visible ASCII, spaces or
  tabs.
-/
import Gatehouse.Encoding

namespace Gatehouse.Http

/-- Tells whether a character may stand in a token. -/
def isTokenChar (c : Char) : Bool := c.isAlphanum || "!#$%&'*+-.^_`|~".toList.contains c

/-- A header field. -/
structure Field where
  /-- The name, in lower case. -/
  name : String
  /-- The bytes of the value. -/
  value : List UInt8
deriving DecidableEq, Repr

namespace Field

/-- Tells whether a byte may stand in a value: any but controls, the tab excepted. -/
def isValueByte (b : UInt8) : Bool := b == 0x09 || (0x20 ≤ b && b != 0x7f)

/-- The field with this name and value, if both are allowed. -/
def create? (name value : String) : Option Field :=
  let bytes := Text.utf8 value
  if name.isEmpty ∨ !name.toList.all isTokenChar ∨ !bytes.all isValueByte then none
  else some ⟨name.map Char.toLower, bytes⟩

/-- The value as text, if it is visible ASCII. -/
def text? (f : Field) : Option String :=
  if f.value.all fun b => b == 0x09 || (0x20 ≤ b && b < 0x7f) then
    some (String.ofList (f.value.map fun b => Char.ofNat b.toNat))
  else none

end Field

/-- The fields of a message in order. -/
abbrev Headers := List Field

namespace Headers

/-- The fields with these names and values, if all are allowed. -/
def ofList? (l : List (String × String)) : Option Headers := l.mapM fun e => Field.create? e.1 e.2

/-- The first field with the name, given in lower case. -/
def first? (h : Headers) (name : String) : Option Field := h.find? (·.name = name)

/-- The text of the first field with the name. -/
def text? (h : Headers) (name : String) : Option String := (h.first? name).bind Field.text?

end Headers

end Gatehouse.Http
